import GameGateway.Json.Token
import GameGateway.Json.Value
import GameGateway.Proofs.Decimal.Digits

/-!
# The tokens of printed values

The text of a value is cut into the tokens that the value is written with, whatever follows the
text, as long as that does not go on with a numeral (`Value.lexes_chars` and
`Value.lexes_prettyChars`, `tokens_compact` and `tokens_pretty`).

`Lexes` is this property of any characters; it holds of characters put together if it holds of
their parts, so that the proof follows the printer.
-/

namespace GameGateway.Json

/-! ### Numerals -/

/-- The numeral of an integer. -/
def Numeral.ofInt (n : Int) : Numeral where
  negative := n < 0
  whole := Nat.toDigits 10 n.natAbs
  fraction := none
  exponent := none

/-- Characters that do **not go on with a numeral**. -/
def Ends : List Char → Prop
  | [] => True
  | c :: _ => c.isDigit = false ∧ c ≠ '.' ∧ c ≠ 'e' ∧ c ≠ 'E'

/-- What comes first decides what characters go on with. -/
theorem Ends.append {s t : List Char} (hs : Ends s) (ht : Ends t) : Ends (s ++ t) := by
  cases s with
  | nil => exact ht
  | cons c s => exact hs

/-- Only the digits of zero begin with a zero. -/
theorem toDigits_ne_zero_cons (n : Nat) (c : Char) (s : List Char) :
    Nat.toDigits 10 n ≠ '0' :: c :: s := by
  induction n using Nat.strongRecOn generalizing c s with
  | ind n ih =>
    rw [Nat.toDigits_eq_if (by decide)]
    split
    · simp
    · next hn =>
      intro heq
      cases hs : Nat.toDigits 10 (n / 10) with
      | nil => exact Nat.toDigits_ne_nil hs
      | cons d t =>
        rw [hs, List.cons_append, List.cons.injEq] at heq
        obtain ⟨rfl, heq⟩ := heq
        cases t with
        | nil =>
          have hzero : n / 10 = 0 := by
            rw [← Nat.ofDigitChars_ten_toDigits (n := n / 10), hs]
            rfl
          omega
        | cons e t => exact ih (n / 10) (by omega) e t hs

/-- In particular no digit follows. -/
theorem Ends.not_isDigit {rest : List Char} (h : Ends rest) :
    ∀ c ∈ rest.head?, c.isDigit = false := by
  cases rest with
  | nil => exact nofun
  | cons c rest =>
    rintro _ ⟨⟩
    exact h.1

/-- The digits of a number are cut off exactly where they end. -/
theorem spanDigits_toDigits_append (n : Nat) {rest : List Char} (h : Ends rest) :
    Decimal.spanDigits (Nat.toDigits 10 n ++ rest) = (Nat.toDigits 10 n, rest) :=
  Decimal.spanDigits_append (fun _ => Nat.isDigit_of_mem_toDigits (by decide) (by decide))
    h.not_isDigit

/-- The digits of a number are its whole part: there is no zero in front of them. -/
theorem whole?_toDigits_append (n : Nat) {rest : List Char} (h : Ends rest) :
    whole? (Nat.toDigits 10 n ++ rest) = some (Nat.toDigits 10 n, rest) := by
  have hsome : someDigits? (Nat.toDigits 10 n ++ rest) = some (Nat.toDigits 10 n, rest) := by
    rw [someDigits?, spanDigits_toDigits_append n h]
    split
    · next heq => exact absurd (Prod.mk.inj heq).1 Nat.toDigits_ne_nil
    · rfl
  rw [whole?, hsome]
  split
  · next heq =>
    exact absurd (Prod.mk.inj (Option.some.inj heq)).1 (toDigits_ne_zero_cons n _ _)
  · rfl

/-- A numeral that stands in front of other characters has no fraction and no exponent. -/
theorem numeral?_toDigits_append (negative : Bool) (n : Nat) {rest : List Char} (h : Ends rest) :
    numeral? negative (Nat.toDigits 10 n ++ rest) =
      some (⟨negative, Nat.toDigits 10 n, none, none⟩, rest) := by
  have hfraction : fraction? rest = some (none, rest) := by
    unfold fraction?
    split
    · exact absurd rfl h.2.1
    · rfl
  have hexponent : exponentPart? rest = some (none, rest) := by
    cases rest with
    | nil => rfl
    | cons c rest => simp [exponentPart?, h.2.2.1, h.2.2.2]
  simp [numeral?, whole?_toDigits_append n h, hfraction, hexponent]

/-- A token that begins with a digit is a number. -/
theorem tokenAt_of_isDigit {c : Char} {s rest : List Char} {n : Numeral} (hc : c.isDigit)
    (h : numeral? false (c :: s) = some (n, rest)) : tokenAt c s = (.number n, rest) := by
  unfold tokenAt
  split
  all_goals first | exact absurd hc (by decide) | skip
  rw [if_pos hc, h]

/-! ### Strings -/

/-- The piece that a character is written as. -/
def Piece.ofChar (c : Char) : Piece :=
  if c.toNat < 0x20 ∧ c ∉ ['\x08', '\t', '\n', '\x0c', '\r'] then .unit c.toNat else .char c

theorem hexValue?_digitChar {n : Nat} (h : n < 16) : hexValue? (Nat.digitChar n) = some n := by
  decide +revert

/-- The escape of a control character is read back: it has two zeros and two digits. -/
theorem hexUnit?_of_lt {n : Nat} (h : n < 0x20) :
    hexUnit? '0' '0' (Nat.digitChar (n / 16)) (Nat.digitChar (n % 16)) = some n := by
  have hzero : hexValue? '0' = some 0 := by decide
  simp only [hexUnit?, hzero, hexValue?_digitChar (show n / 16 < 16 by omega),
    hexValue?_digitChar (Nat.mod_lt n (show 0 < 16 by decide)), Option.bind_eq_bind,
    Option.bind_some, Option.pure_def, Option.some.injEq]
  omega

/-- A backslash and a letter are one character. -/
theorem pieces?_escape {e c : Char} (he : e ≠ 'u') (h : escaped? e = some c) (s : List Char) :
    pieces? ('\\' :: e :: s) = (pieces? s).map fun (ps, rest) => (.char c :: ps, rest) := by
  rw [pieces?, h]
  · cases pieces? s <;> rfl
  · rintro _ _ _ _ _ ⟨⟩
    exact absurd rfl he

/-- A backslash, a `u` and four digits are one unit. -/
theorem pieces?_unit {n : Nat} (h : n < 0x20) (s : List Char) :
    pieces? ('\\' :: 'u' :: '0' :: '0' :: Nat.digitChar (n / 16) :: Nat.digitChar (n % 16) :: s) =
      (pieces? s).map fun (ps, rest) => (.unit n :: ps, rest) := by
  rw [pieces?, hexUnit?_of_lt h]
  cases pieces? s <;> rfl

/-- **A character is one piece**, whatever follows it. -/
theorem pieces?_writeChar_append (c : Char) (s : List Char) :
    pieces? (writeChar c ++ s) =
      (pieces? s).map fun (ps, rest) => (Piece.ofChar c :: ps, rest) := by
  unfold writeChar
  split
  iterate 7 exact pieces?_escape (by decide) rfl s
  next hquote hbackslash hb hf hn hr ht =>
  rw [Piece.ofChar]
  by_cases hc : c.toNat < 0x20
  · have hshort : c ∉ ['\x08', '\t', '\n', '\x0c', '\r'] := by
      simp only [List.mem_cons, List.not_mem_nil, or_false, not_or]
      exact ⟨hb, ht, hn, hf, hr⟩
    rw [if_pos hc, if_pos ⟨hc, hshort⟩]
    exact pieces?_unit hc s
  · rw [if_neg hc, if_neg fun h => hc h.1, List.cons_append, List.nil_append, pieces?,
      if_neg (by simp [hc]; exact hbackslash)]
    · exact hquote
    · exact fun _ _ _ _ _ h => absurd h hbackslash
    · exact fun _ _ h => absurd h hbackslash

/-- **The inside of a string is read back**, up to the quote that ends it. -/
theorem pieces?_flatMap_writeChar_append (cs rest : List Char) :
    pieces? (cs.flatMap writeChar ++ '"' :: rest) = some (cs.map Piece.ofChar, rest) := by
  induction cs with
  | nil => rfl
  | cons c cs ih =>
    rw [List.flatMap_cons, List.append_assoc, pieces?_writeChar_append, ih]
    rfl

/-- A control character is no half of a pair, so its unit stands for itself. -/
theorem textOf?_unit_cons {n : Nat} (h : n < 0x20) (ps : List Piece) :
    textOf? (.unit n :: ps) = (textOf? ps).map (Char.ofNat n :: ·) := by
  have hl : isLeading n = false := by
    simp [isLeading]
    omega
  have ht : isTrailing n = false := by
    simp [isTrailing]
    omega
  cases ps with
  | nil => simp [textOf?, hl, ht]
  | cons p ps => cases p <;> simp [textOf?, hl, ht]

/-- The pieces that a text is written with make the text again. -/
theorem textOf?_map_ofChar (cs : List Char) : textOf? (cs.map Piece.ofChar) = some cs := by
  induction cs with
  | nil => rfl
  | cons c cs ih =>
    rw [List.map_cons, Piece.ofChar]
    split
    · next hc =>
      rw [textOf?_unit_cons hc.1, ih, Option.map_some, Char.ofNat_toNat]
    · rw [textOf?, ih, Option.map_some]

/-! ### Putting characters together -/

/-- Characters that are **cut into these tokens**, whatever follows them that does not go on with a
numeral. -/
def Lexes (s : List Char) (ts : List Token) : Prop :=
  ∀ rest, Ends rest → tokens (s ++ rest) = ts ++ tokens rest

/-- Tokens are cut off one by one, behind the blanks in front of each. -/
theorem tokens_eq (s : List Char) :
    tokens s =
      match s.dropWhile isSpace with
      | [] => []
      | c :: rest =>
        match tokenAt c rest with
        | (.bad, _) => [.bad]
        | (token, rest) => token :: tokens rest := by
  rw [tokens]
  cases s.dropWhile isSpace with
  | nil => rfl
  | cons c rest =>
    dsimp only
    rcases tokenAt c rest with ⟨token, rest'⟩
    cases token <;> rfl

/-- A token at the very front is the first one. -/
theorem tokens_cons {c : Char} {s rest : List Char} {t : Token} (hc : isSpace c = false)
    (h : tokenAt c s = (t, rest)) (ht : t ≠ .bad) : tokens (c :: s) = t :: tokens rest := by
  rw [tokens_eq, List.dropWhile_cons_of_neg (by simp [hc])]
  simp only [h]

theorem Lexes.nil : Lexes [] [] := fun _ _ => rfl

/-- **What is put together lexes as its parts do**, unless the second part goes on with a numeral at
the end of the first. -/
theorem Lexes.append {s s' : List Char} {ts ts' : List Token} (h : Lexes s ts) (h' : Lexes s' ts')
    (hs' : Ends s') : Lexes (s ++ s') (ts ++ ts') := by
  intro rest hrest
  rw [List.append_assoc, h _ (hs'.append hrest), h' rest hrest, List.append_assoc]

/-- A character that is a token by itself may stand in front of anything. -/
theorem Lexes.cons {c : Char} {s : List Char} {t : Token} {ts : List Token} (hc : isSpace c = false)
    (ht : ∀ rest, tokenAt c rest = (t, rest)) (hbad : t ≠ .bad) (h : Lexes s ts) :
    Lexes (c :: s) (t :: ts) := by
  intro rest hrest
  rw [List.cons_append, tokens_cons hc (ht _) hbad, h rest hrest, List.cons_append]

/-- Blanks in front make no token. -/
theorem Lexes.space {c : Char} {s : List Char} {ts : List Token} (hc : isSpace c) (h : Lexes s ts) :
    Lexes (c :: s) ts := by
  intro rest hrest
  rw [← h rest hrest, tokens_eq, tokens_eq (s ++ rest), List.cons_append,
    List.dropWhile_cons_of_pos hc]

/-- A line and its indentation are blanks. -/
theorem Lexes.newLine {s : List Char} {ts : List Token} (h : Lexes s ts) (level : Nat) :
    Lexes (Value.newLine level ++ s) ts := by
  refine .space rfl ?_
  induction 2 * level with
  | zero => exact h
  | succ n ih => exact .space rfl ih

/-! ### Scalars -/

/-- A string is one token, whatever is in it. -/
theorem lexes_writeString (s : String) : Lexes (writeString s) [.string (some s)] := by
  intro rest _
  have ht : tokenAt '"' (s.toList.flatMap writeChar ++ '"' :: rest) = (.string (some s), rest) := by
    simp [tokenAt, pieces?_flatMap_writeChar_append, textOf?_map_ofChar]
  rw [writeString, List.cons_append, List.cons_append, List.append_assoc]
  exact tokens_cons rfl ht nofun

/-- An integer is one token, with its sign. -/
theorem lexes_writeInteger (n : Int) : Lexes (writeInteger n) [.number (.ofInt n)] := by
  intro rest hrest
  have hnumeral := numeral?_toDigits_append (n < 0) n.natAbs hrest
  rw [writeInteger]
  split
  · next hn =>
    have ht : tokenAt '-' (Nat.toDigits 10 n.natAbs ++ rest) = (.number (.ofInt n), rest) := by
      simp only [tokenAt]
      rw [← decide_eq_true hn, hnumeral]
      rfl
    exact tokens_cons rfl ht nofun
  · next hn =>
    obtain ⟨c, s, hs⟩ := List.exists_cons_of_ne_nil (Nat.toDigits_ne_nil (n := n.natAbs) (b := 10))
    have hc : c.isDigit :=
      Nat.isDigit_of_mem_toDigits (by decide) (by decide) (hs ▸ List.mem_cons_self)
    rw [hs, decide_eq_false hn, List.cons_append] at hnumeral
    have hspace : isSpace c = false := by
      refine Bool.eq_false_iff.2 fun h => ?_
      simp only [isSpace, Bool.or_eq_true, decide_eq_true_eq] at h
      rcases h with ((rfl | rfl) | rfl) | rfl <;> exact absurd hc (by decide)
    rw [hs, List.cons_append, tokens_cons hspace (tokenAt_of_isDigit hc hnumeral) nofun,
      Numeral.ofInt, decide_eq_false hn, hs]
    rfl

theorem lexes_writeBool (b : Bool) : Lexes (writeBool b) [.bool b] := by
  intro rest _
  cases b with
  | false => exact tokens_cons rfl rfl nofun
  | true => exact tokens_cons rfl rfl nofun

theorem lexes_null : Lexes "null".toList [.null] :=
  fun _ _ => tokens_cons rfl rfl nofun

/-! ### Values -/

namespace Value

mutual

/-- The tokens that a value is **written with**. -/
def tokens : Value → List Token
  | .null => [.null]
  | .bool b => [.bool b]
  | .integer n => [.number (.ofInt n)]
  | .string text => [.string (some text)]
  | .array [] => [.openArray, .closeArray]
  | .array (v :: rest) => .openArray :: v.tokens ++ itemTokens rest ++ [.closeArray]
  | .object [] => [.openObject, .closeObject]
  | .object ((key, v) :: rest) =>
    .openObject :: .string (some key) :: .colon :: v.tokens ++ memberTokens rest ++ [.closeObject]

/-- The tokens of the items behind the first. -/
def itemTokens : List Value → List Token
  | [] => []
  | v :: rest => .comma :: v.tokens ++ itemTokens rest

/-- The tokens of the members behind the first. -/
def memberTokens : List (String × Value) → List Token
  | [] => []
  | (key, v) :: rest => .comma :: .string (some key) :: .colon :: v.tokens ++ memberTokens rest

end

theorem ends_newLine (level : Nat) (s : List Char) : Ends (newLine level ++ s) :=
  ⟨by decide, by decide, by decide, by decide⟩

/-- Behind an item comes a comma or the end of a line, never a digit. -/
theorem ends_prettyItems (level : Nat) (vs : List Value) : Ends (prettyItems level vs) := by
  cases vs with
  | nil => rw [prettyItems]; trivial
  | cons v vs =>
    rw [prettyItems]
    exact ⟨by decide, by decide, by decide, by decide⟩

/-- So it is behind a member. -/
theorem ends_prettyMembers (level : Nat) (ms : List (String × Value)) :
    Ends (prettyMembers level ms) := by
  cases ms with
  | nil => rw [prettyMembers]; trivial
  | cons m ms =>
    rw [prettyMembers]
    exact ⟨by decide, by decide, by decide, by decide⟩

/-- The bracket that closes a list or an object stands on a line of its own. -/
theorem lexes_closing {c : Char} {t : Token} (hc : isSpace c = false)
    (ht : ∀ rest, tokenAt c rest = (t, rest)) (hbad : t ≠ .bad) (level : Nat) :
    Lexes (newLine level ++ [c]) [t] :=
  (Lexes.cons hc ht hbad .nil).newLine level

/-- A key and what stands behind it. -/
theorem lexes_member (key : String) {s : List Char} {ts : List Token} (h : Lexes s ts) :
    Lexes (writeString key ++ ':' :: s) (.string (some key) :: .colon :: ts) := by
  have hvalue : Lexes (':' :: s) (.colon :: ts) := .cons rfl (fun _ => rfl) nofun h
  exact (lexes_writeString key).append hvalue ⟨by decide, by decide, by decide, by decide⟩

mutual

/-- **The text of a value is cut into its tokens.** -/
theorem lexes_prettyChars (level : Nat) (v : Value) : Lexes (v.prettyChars level) v.tokens := by
  match v with
  | .null =>
    rw [prettyChars, tokens]
    exact lexes_null
  | .bool b =>
    rw [prettyChars, tokens]
    exact lexes_writeBool b
  | .integer n =>
    rw [prettyChars, tokens]
    exact lexes_writeInteger n
  | .string text =>
    rw [prettyChars, tokens]
    exact lexes_writeString text
  | .array [] =>
    rw [prettyChars, tokens]
    exact .cons rfl (fun _ => rfl) nofun (.cons rfl (fun _ => rfl) nofun .nil)
  | .array (v :: rest) =>
    simp only [prettyChars, tokens, List.cons_append, List.append_assoc]
    have hclose := lexes_closing (c := ']') (t := .closeArray) rfl (fun _ => rfl) nofun level
    have hrest := (lexes_prettyItems (level + 1) rest).append hclose (ends_newLine level _)
    have hends := (ends_prettyItems (level + 1) rest).append (ends_newLine level [']'])
    refine .cons rfl (fun _ => rfl) nofun (.newLine ?_ (level + 1))
    exact (v.lexes_prettyChars (level + 1)).append hrest hends
  | .object [] =>
    rw [prettyChars, tokens]
    exact .cons rfl (fun _ => rfl) nofun (.cons rfl (fun _ => rfl) nofun .nil)
  | .object ((key, v) :: rest) =>
    simp only [prettyChars, tokens, List.cons_append, List.append_assoc]
    have hclose := lexes_closing (c := '\x7d') (t := .closeObject) rfl (fun _ => rfl) nofun level
    have hrest := (lexes_prettyMembers (level + 1) rest).append hclose (ends_newLine level _)
    have hends := (ends_prettyMembers (level + 1) rest).append (ends_newLine level ['\x7d'])
    refine .cons rfl (fun _ => rfl) nofun (.newLine ?_ (level + 1))
    exact lexes_member key (.space rfl ((v.lexes_prettyChars (level + 1)).append hrest hends))

/-- Items are printed each on a line; the lines and the indentation leave no token. -/
theorem lexes_prettyItems (level : Nat) (vs : List Value) :
    Lexes (prettyItems level vs) (itemTokens vs) := by
  match vs with
  | [] =>
    rw [prettyItems, itemTokens]
    exact .nil
  | v :: rest =>
    rw [prettyItems, itemTokens, List.cons_append, List.cons_append, List.append_assoc]
    refine .cons rfl (fun _ => rfl) nofun (.newLine ?_ level)
    exact (v.lexes_prettyChars level).append (lexes_prettyItems level rest)
      (ends_prettyItems level rest)

/-- Members are printed each on a line, with a blank behind the colon. -/
theorem lexes_prettyMembers (level : Nat) (ms : List (String × Value)) :
    Lexes (prettyMembers level ms) (memberTokens ms) := by
  match ms with
  | [] =>
    rw [prettyMembers, memberTokens]
    exact .nil
  | (key, v) :: rest =>
    simp only [prettyMembers, memberTokens, List.cons_append, List.append_assoc]
    refine .cons rfl (fun _ => rfl) nofun (.newLine (lexes_member key (.space rfl ?_)) level)
    exact (v.lexes_prettyChars level).append (lexes_prettyMembers level rest)
      (ends_prettyMembers level rest)

end

/-! ### Compact texts -/

theorem ends_itemChars (vs : List Value) : Ends (itemChars vs) := by
  cases vs with
  | nil => rw [itemChars]; trivial
  | cons v vs =>
    rw [itemChars]
    exact ⟨by decide, by decide, by decide, by decide⟩

theorem ends_memberChars (ms : List (String × Value)) : Ends (memberChars ms) := by
  cases ms with
  | nil => rw [memberChars]; trivial
  | cons m ms =>
    rw [memberChars]
    exact ⟨by decide, by decide, by decide, by decide⟩

mutual

/-- **The compact text of a value is cut into its tokens.** -/
theorem lexes_chars (v : Value) : Lexes v.chars v.tokens := by
  match v with
  | .null =>
    rw [chars, tokens]
    exact lexes_null
  | .bool b =>
    rw [chars, tokens]
    exact lexes_writeBool b
  | .integer n =>
    rw [chars, tokens]
    exact lexes_writeInteger n
  | .string text =>
    rw [chars, tokens]
    exact lexes_writeString text
  | .array [] =>
    rw [chars, tokens]
    exact .cons rfl (fun _ => rfl) nofun (.cons rfl (fun _ => rfl) nofun .nil)
  | .array (v :: rest) =>
    simp only [chars, tokens, List.cons_append, List.append_assoc]
    have hclose : Lexes [']'] [.closeArray] := .cons rfl (fun _ => rfl) nofun .nil
    have hends : Ends [']'] := ⟨by decide, by decide, by decide, by decide⟩
    refine .cons rfl (fun _ => rfl) nofun (v.lexes_chars.append ?_ ?_)
    · exact (lexes_itemChars rest).append hclose hends
    · exact (ends_itemChars rest).append hends
  | .object [] =>
    rw [chars, tokens]
    exact .cons rfl (fun _ => rfl) nofun (.cons rfl (fun _ => rfl) nofun .nil)
  | .object ((key, v) :: rest) =>
    simp only [chars, tokens, List.cons_append, List.append_assoc]
    have hclose : Lexes ['\x7d'] [.closeObject] := .cons rfl (fun _ => rfl) nofun .nil
    have hends : Ends ['\x7d'] := ⟨by decide, by decide, by decide, by decide⟩
    refine .cons rfl (fun _ => rfl) nofun (lexes_member key (v.lexes_chars.append ?_ ?_))
    · exact (lexes_memberChars rest).append hclose hends
    · exact (ends_memberChars rest).append hends

/-- Items that are not the first have a comma in front, in one line. -/
theorem lexes_itemChars (vs : List Value) : Lexes (itemChars vs) (itemTokens vs) := by
  match vs with
  | [] =>
    rw [itemChars, itemTokens]
    exact .nil
  | v :: rest =>
    rw [itemChars, itemTokens, List.cons_append, List.cons_append]
    refine .cons rfl (fun _ => rfl) nofun ?_
    exact v.lexes_chars.append (lexes_itemChars rest) (ends_itemChars rest)

theorem lexes_memberChars (ms : List (String × Value)) :
    Lexes (memberChars ms) (memberTokens ms) := by
  match ms with
  | [] =>
    rw [memberChars, memberTokens]
    exact .nil
  | (key, v) :: rest =>
    simp only [memberChars, memberTokens, List.cons_append, List.append_assoc]
    refine .cons rfl (fun _ => rfl) nofun (lexes_member key ?_)
    exact v.lexes_chars.append (lexes_memberChars rest) (ends_memberChars rest)

end

end Value

/-- **A text in one line has the tokens of its value.** -/
theorem tokens_compact (v : Value) : tokens v.compact.toList = v.tokens := by
  have hnil : tokens [] = [] := tokens_eq []
  have hlexes := v.lexes_chars [] trivial
  rw [hnil, List.append_nil, List.append_nil] at hlexes
  rw [Value.compact, String.toList_ofList, hlexes]

/-- **A text in several lines has the same tokens**, so the two ways to print cannot be told apart
by a reader. -/
theorem tokens_pretty (v : Value) : tokens v.pretty.toList = v.tokens := by
  have hnil : tokens [] = [] := tokens_eq []
  have hlexes := v.lexes_prettyChars 0 [] trivial
  rw [hnil, List.append_nil, List.append_nil] at hlexes
  rw [Value.pretty, String.toList_ofList, hlexes]

end GameGateway.Json
