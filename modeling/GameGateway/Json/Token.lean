import GameGateway.Json.Number

/-!
# Tokens of a JSON text

A JSON text is read in two steps. The first cuts it into **tokens**: brackets, commas, colons and
the scalar values. White space between tokens is dropped. Where no token can be read the list of
tokens ends with `Token.bad`, since nothing behind such a place is looked at.

A string whose escapes leave half of a surrogate pair is a token without a text: it may stand
where a value is skipped, but not where it is read.
-/

namespace GameGateway.Json

open Decimal

/-- A **token** of a JSON text. -/
inductive Token where
  | openArray
  | closeArray
  | openObject
  | closeObject
  | comma
  | colon
  | null
  | bool (value : Bool)
  | number (numeral : Numeral)
  /-- A string, with its text if its escapes make one. -/
  | string (text : Option String)
  /-- The place of a syntax error. -/
  | bad
  deriving DecidableEq, Repr

/-- The white space of JSON texts. -/
def isSpace (c : Char) : Bool :=
  c = ' ' || c = '\n' || c = '\t' || c = '\r'

/-! ### Strings -/

/-- A piece of a string: a character, or a UTF-16 unit given by an escape. -/
inductive Piece where
  | char (c : Char)
  | unit (n : Nat)
  deriving DecidableEq, Repr

/-- The value of a hexadecimal digit. -/
def hexValue? (c : Char) : Option Nat :=
  if c.isDigit then some (c.toNat - '0'.toNat)
  else if 'a' ≤ c ∧ c ≤ 'f' then some (c.toNat - 'a'.toNat + 10)
  else if 'A' ≤ c ∧ c ≤ 'F' then some (c.toNat - 'A'.toNat + 10)
  else none

/-- The UTF-16 unit that four hexadecimal digits write. -/
def hexUnit? (a b c d : Char) : Option Nat := do
  let a ← hexValue? a
  let b ← hexValue? b
  let c ← hexValue? c
  let d ← hexValue? d
  return ((a * 16 + b) * 16 + c) * 16 + d

/-- The character that a short escape stands for. -/
def escaped? : Char → Option Char
  | '"' => some '"'
  | '\\' => some '\\'
  | '/' => some '/'
  | 'b' => some '\x08'
  | 'f' => some '\x0c'
  | 'n' => some '\n'
  | 'r' => some '\r'
  | 't' => some '\t'
  | _ => none

/-- The pieces of a string up to its closing quote, and the characters behind it. -/
def pieces? : List Char → Option (List Piece × List Char)
  | [] => none
  | '"' :: rest => some ([], rest)
  | '\\' :: 'u' :: a :: b :: c :: d :: rest =>
    match hexUnit? a b c d, pieces? rest with
    | some n, some (ps, rest) => some (.unit n :: ps, rest)
    | _, _ => none
  | '\\' :: e :: rest =>
    match escaped? e, pieces? rest with
    | some c, some (ps, rest) => some (.char c :: ps, rest)
    | _, _ => none
  | c :: rest =>
    if c = '\\' || c.toNat < 0x20 then none
    else (pieces? rest).map fun (ps, rest) => (.char c :: ps, rest)

/-- A UTF-16 unit that begins a pair. -/
def isLeading (n : Nat) : Bool := 0xD800 ≤ n && n ≤ 0xDBFF

/-- A UTF-16 unit that ends a pair. -/
def isTrailing (n : Nat) : Bool := 0xDC00 ≤ n && n ≤ 0xDFFF

/-- The text of pieces: units that make a pair are joined, and none may be left alone. -/
def textOf? : List Piece → Option (List Char)
  | [] => some []
  | .char c :: rest => (textOf? rest).map (c :: ·)
  | .unit n :: .unit m :: rest =>
    if isLeading n then
      if isTrailing m then
        (textOf? rest).map (Char.ofNat ((n - 0xD800) * 0x400 + (m - 0xDC00) + 0x10000) :: ·)
      else none
    else if isTrailing n then none
    else (textOf? (.unit m :: rest)).map (Char.ofNat n :: ·)
  | .unit n :: rest =>
    if isLeading n || isTrailing n then none else (textOf? rest).map (Char.ofNat n :: ·)

/-! ### Numerals -/

/-- The digits at the front, of which there is one at least. -/
def someDigits? (s : List Char) : Option (List Char × List Char) :=
  match spanDigits s with
  | ([], _) => none
  | found => some found

/-- The whole part of a numeral, which begins with 0 only if it is 0. -/
def whole? (s : List Char) : Option (List Char × List Char) :=
  match someDigits? s with
  | some ('0' :: _ :: _, _) => none
  | found => found

/-- The fraction of a numeral, if there is one; `none` means a point without digits. -/
def fraction? : List Char → Option (Option (List Char) × List Char)
  | '.' :: rest => (someDigits? rest).map fun (digits, rest) => (some digits, rest)
  | s => some (none, s)

/-- The exponent of a numeral, if there is one; `none` means one without digits. -/
def exponentPart? : List Char → Option (Option (Bool × List Char) × List Char)
  | c :: rest =>
    if c = 'e' || c = 'E' then
      match rest with
      | '+' :: rest => (someDigits? rest).map fun (digits, rest) => (some (false, digits), rest)
      | '-' :: rest => (someDigits? rest).map fun (digits, rest) => (some (true, digits), rest)
      | rest => (someDigits? rest).map fun (digits, rest) => (some (false, digits), rest)
    else some (none, c :: rest)
  | [] => some (none, [])

/-- The numeral at the front, behind its sign. -/
def numeral? (negative : Bool) (s : List Char) : Option (Numeral × List Char) := do
  let (whole, s) ← whole? s
  let (fraction, s) ← fraction? s
  let (exponent, s) ← exponentPart? s
  return ({ negative, whole, fraction, exponent }, s)

/-! ### Cutting into tokens -/

/-- A keyword, of which the first letter has been read. -/
def keyword (rest : List Char) (tail : List Char) (token : Token) : Token × List Char :=
  if tail.isPrefixOf rest then (token, rest.drop tail.length) else (.bad, [])

/-- The token that begins with `c`, and what follows it. -/
def tokenAt (c : Char) (rest : List Char) : Token × List Char :=
  match c with
  | '[' => (.openArray, rest)
  | ']' => (.closeArray, rest)
  | '{' => (.openObject, rest)
  | '}' => (.closeObject, rest)
  | ',' => (.comma, rest)
  | ':' => (.colon, rest)
  | 'n' => keyword rest "ull".toList .null
  | 't' => keyword rest "rue".toList (.bool true)
  | 'f' => keyword rest "alse".toList (.bool false)
  | '"' =>
    match pieces? rest with
    | some (ps, rest) => (.string ((textOf? ps).map String.ofList), rest)
    | none => (.bad, [])
  | '-' =>
    match numeral? true rest with
    | some (n, rest) => (.number n, rest)
    | none => (.bad, [])
  | c =>
    if c.isDigit then
      match numeral? false (c :: rest) with
      | some (n, rest) => (.number n, rest)
      | none => (.bad, [])
    else (.bad, [])

/-! ### What is left is shorter -/

/-- Reading the pieces of a string gives back nothing that was read. -/
theorem length_le_of_pieces? {s rest : List Char} {ps : List Piece}
    (h : pieces? s = some (ps, rest)) : rest.length ≤ s.length := by
  fun_induction pieces? s generalizing ps rest with
  | case1 => simp at h
  | case2 r => simp_all
  | case3 =>
    rename_i hr _ ih
    have := ih hr
    simp_all
    omega
  | case4 => simp at h
  | case5 =>
    rename_i hr _ ih
    have := ih hr
    simp_all
    omega
  | case6 => simp at h
  | case7 => simp at h
  | case8 c r _ _ _ _ ih =>
    obtain ⟨⟨qs, r'⟩, hr, heq⟩ := Option.map_eq_some_iff.1 h
    have := ih hr
    simp_all
    omega

/-- Digits take at least one character. -/
theorem length_lt_of_someDigits? {s ds rest : List Char} (h : someDigits? s = some (ds, rest)) :
    rest.length < s.length := by
  have hs := congrArg List.length (List.takeWhile_append_dropWhile (p := Char.isDigit) (l := s))
  simp only [someDigits?, spanDigits] at h
  split at h
  · simp at h
  · next hne =>
    obtain ⟨rfl, rfl⟩ := Prod.mk.inj (Option.some.inj h)
    have : 0 < (s.takeWhile Char.isDigit).length :=
      List.length_pos_iff.2 fun h0 => hne _ (by rw [h0])
    rw [List.length_append] at hs
    omega

theorem length_lt_of_whole? {s ds rest : List Char} (h : whole? s = some (ds, rest)) :
    rest.length < s.length := by
  simp only [whole?] at h
  split at h
  · simp at h
  · exact length_lt_of_someDigits? h

theorem length_le_of_fraction? {s rest : List Char} {ds : Option (List Char)}
    (h : fraction? s = some (ds, rest)) : rest.length ≤ s.length := by
  simp only [fraction?] at h
  split at h
  · obtain ⟨⟨_, _⟩, hr, heq⟩ := Option.map_eq_some_iff.1 h
    have := length_lt_of_someDigits? hr
    simp_all
    omega
  · simp_all

theorem length_le_of_exponentPart? {s rest : List Char} {ds : Option (Bool × List Char)}
    (h : exponentPart? s = some (ds, rest)) : rest.length ≤ s.length := by
  simp only [exponentPart?] at h
  split at h
  · split at h
    · split at h <;>
        (obtain ⟨⟨_, _⟩, hr, heq⟩ := Option.map_eq_some_iff.1 h
         have := length_lt_of_someDigits? hr
         simp_all
         omega)
    · simp_all
  · simp_all

/-- So does each numeral, and **reading gets on**. -/
theorem length_lt_of_numeral? {negative : Bool} {s rest : List Char} {n : Numeral}
    (h : numeral? negative s = some (n, rest)) : rest.length < s.length := by
  simp only [numeral?, Option.bind_eq_bind, Option.bind_eq_some_iff, Option.pure_def] at h
  obtain ⟨⟨_, s₁⟩, h₁, ⟨_, s₂⟩, h₂, ⟨_, s₃⟩, h₃, h⟩ := h
  have := length_lt_of_whole? h₁
  have := length_le_of_fraction? h₂
  have := length_le_of_exponentPart? h₃
  simp_all
  omega

/-- What follows a token is no longer than what follows its first character. -/
theorem length_tokenAt_le (c : Char) (rest : List Char) :
    (tokenAt c rest).2.length ≤ rest.length := by
  have key (tail token) : (keyword rest tail token).2.length ≤ rest.length := by
    simp only [keyword]
    split <;> simp
  unfold tokenAt
  split
  all_goals first | exact Nat.le_refl _ | exact key _ _ | skip
  · split
    · next h => exact length_le_of_pieces? h
    · simp
  · split
    · next h => exact Nat.le_of_lt (length_lt_of_numeral? h)
    · simp
  · split
    · split
      · next h => exact Nat.le_of_lt_succ (length_lt_of_numeral? h)
      · simp
    · simp

/-- The tokens of a text. -/
def tokens (s : List Char) : List Token :=
  match _h : s.dropWhile isSpace with
  | [] => []
  | c :: rest =>
    match tokenAt c rest with
    | (.bad, _) => [.bad]
    | (token, _) => token :: tokens (tokenAt c rest).2
termination_by s.length
decreasing_by
  have h₁ := (List.dropWhile_suffix isSpace (l := s)).length_le
  have h₂ := length_tokenAt_le c rest
  simp only [_h, List.length_cons] at h₁
  omega

end GameGateway.Json
