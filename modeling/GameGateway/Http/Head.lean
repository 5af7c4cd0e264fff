import GameGateway.Http.Field
import GameGateway.Http.Scan

/-!
# The head of a request

A **head** is a request line with a method, a target and a version, and the fields behind it, each
on its line, up to an empty line. Lines end in a line feed, in front of which a carriage return may
stand; empty lines in front of the head are skipped.

`Head.scan` reads a head off the front of bytes that may still be coming in.
-/

namespace GameGateway.Http

open Wire (Byte)

/-- The **head** of a request. -/
structure Head where
  method : List Byte
  target : List Byte
  /-- The digit behind `HTTP/1.`. -/
  minorVersion : Nat
  fields : Fields
  deriving DecidableEq, Repr

namespace Head

open Scanner (Stable)

/-- The most fields that a head may have. -/
def maxFields : Nat := 100

/-! ### Classes of bytes -/

/-- A byte of a method or a field's name. -/
def isTokenByte (b : Byte) : Bool :=
  let c := Char.ofNat b.toNat
  c.isAlphanum || b ∈ asciiBytes "!#$%&'*+-.^_|~" || b = 0x60

/-- A byte of a target: no control character and no blank. -/
def isTargetByte (b : Byte) : Bool :=
  0x21 ≤ b && b ≠ 0x7f

/-- A byte of a field's value: no control character but the tab. -/
def isValueByte (b : Byte) : Bool :=
  (0x20 ≤ b && b ≠ 0x7f) || b = 0x09

/-- A blank or a tab. -/
def isPadding (b : Byte) : Bool :=
  b = 0x20 || b = 0x09

/-! ### Lines -/

/-- Skips empty lines. -/
def skipEmptyLines : Scanner Unit
  | [] => .incomplete
  | b :: rest =>
    if b = 0x0a then skipEmptyLines rest
    else if b = 0x0d then
      match rest with
      -- Its line feed may be still to come.
      | [] => .incomplete
      | c :: rest => if c = 0x0a then skipEmptyLines rest else .malformed .newLine
    else .complete () (b :: rest)

/-- Reads the end of a line. -/
def lineEnd (cause : HeadError) : Scanner Unit := do
  match ← Scanner.next with
  | 0x0d => Scanner.expect 0x0a cause
  | 0x0a => pure ()
  | _ => Scanner.refuse cause

/-- Reads bytes of a class, one at least, and the blank behind them. -/
def word (p : Byte → Bool) : Scanner (List Byte) := do
  let bytes ← Scanner.span p
  if bytes.isEmpty then Scanner.refuse .token
  else
    Scanner.expect 0x20 .token
    pure bytes

/-- Reads the version. -/
def version : Scanner Nat := do
  Scanner.expectAll .version (asciiBytes "HTTP/1.")
  match ← Scanner.next with
  | 0x30 => pure 0
  | 0x31 => pure 1
  | _ => Scanner.refuse .version

/-- A name in lower case. -/
def lowerName (bytes : List Byte) : String :=
  lowerAscii (asciiText bytes)

/-- A value without the blanks and tabs behind it. -/
def trimValue (bytes : List Byte) : List Byte :=
  (bytes.reverse.dropWhile isPadding).reverse

/-- Reads a field. -/
def field : Scanner Field := do
  let name ← Scanner.span isTokenByte
  Scanner.expect (asciiByte ':') .fieldName
  let _ ← Scanner.span isPadding
  let value ← Scanner.span isValueByte
  lineEnd .fieldValue
  pure ⟨lowerName name, trimValue value⟩

/-- Reads the empty line that ends a head, or else what `next` reads of a further line. -/
def endOr (next : Scanner Fields) : Scanner Fields := do
  let b ← Scanner.peek
  if b = 0x0d || b = 0x0a then
    lineEnd .newLine
    pure []
  else if isTokenByte b then next
  else Scanner.refuse .fieldName

/-- Reads a number of fields, at most, and the empty line behind them. -/
def fieldLines : Nat → Scanner Fields
  | 0 => endOr (Scanner.refuse .tooManyFields)
  | most + 1 => endOr do
    let f ← field
    let rest ← fieldLines most
    pure (f :: rest)

/-- Reads a head. -/
def scan : Scanner Head := do
  skipEmptyLines
  let method ← word isTokenByte
  let target ← word isTargetByte
  let minorVersion ← version
  lineEnd .newLine
  let fields ← fieldLines maxFields
  pure { method, target, minorVersion, fields }

/-! ### Stability -/

theorem skipEmptyLines_lineFeed (rest : List Byte) :
    skipEmptyLines (0x0a :: rest) = skipEmptyLines rest := by
  cases rest <;> simp [skipEmptyLines]

/-- What does not begin with the end of a line is left as it is. -/
theorem skipEmptyLines_of_ne {b : Byte} (hf : b ≠ 0x0a) (hr : b ≠ 0x0d) (rest : List Byte) :
    skipEmptyLines (b :: rest) = .complete () (b :: rest) := by
  cases rest <;> simp [skipEmptyLines, hf, hr]

/-- A carriage return at the very end waits for its line feed, so nothing is skipped too early. -/
theorem stable_skipEmptyLines : Stable skipEmptyLines := by
  intro bytes more h
  fun_induction skipEmptyLines bytes with
  | case1 => exact absurd rfl h
  | case2 rest ih =>
    rw [List.cons_append, skipEmptyLines_lineFeed]
    exact ih h
  | case3 => exact absurd rfl h
  | case4 rest _ ih =>
    rw [List.cons_append, List.cons_append, skipEmptyLines]
    exact ih h
  | case5 c rest hc =>
    rw [List.cons_append, List.cons_append, skipEmptyLines]
    simp [hc, Scanned.extend]
  | case6 b rest hf hr =>
    rw [List.cons_append, skipEmptyLines_of_ne hf hr]
    rfl

/-- Both ways to end a line are told apart by their first byte. -/
theorem stable_lineEnd (cause : HeadError) : Stable (lineEnd cause) := by
  refine Stable.next.bind fun b => ?_
  split
  · exact Stable.expect _ _
  · exact Stable.pure ()
  · exact Stable.refuse cause

/-- A word is complete with the blank behind it, which must have come. -/
theorem stable_word (p : Byte → Bool) : Stable (word p) :=
  (Stable.span p).bind fun _ =>
    (Stable.refuse _).ite ((Stable.expect _ _).bind fun _ => Stable.pure _)

/-- The digit of a version comes behind a text that is the same for all. -/
theorem stable_version : Stable version := by
  refine (Stable.expectAll _ _).bind fun _ => Stable.next.bind fun b => ?_
  split
  · exact Stable.pure 0
  · exact Stable.pure 1
  · exact Stable.refuse _

/-- A field is complete with the end of its line: only then has all of its value come. -/
theorem stable_field : Stable field :=
  (Stable.span _).bind fun _ => (Stable.expect _ _).bind fun _ => (Stable.span _).bind fun _ =>
    (Stable.span _).bind fun _ => (stable_lineEnd _).bind fun _ => Stable.pure _

/-- Whether a further field follows is told by one byte. -/
theorem stable_endOr {next : Scanner Fields} (h : Stable next) : Stable (endOr next) :=
  Stable.peek.bind fun _ =>
    ((stable_lineEnd _).bind fun _ => Stable.pure _).ite (h.ite (Stable.refuse _))

/-- The fields of a head are read one after the other, up to the empty line. -/
theorem stable_fieldLines (most : Nat) : Stable (fieldLines most) := by
  induction most with
  | zero => exact stable_endOr (Stable.refuse _)
  | succ most ih =>
    exact stable_endOr (stable_field.bind fun _ => ih.bind fun _ => Stable.pure _)

/-- A head is read the same whatever follows it. -/
theorem stable_scan : Stable scan :=
  stable_skipEmptyLines.bind fun _ => (stable_word _).bind fun _ => (stable_word _).bind fun _ =>
    stable_version.bind fun _ => (stable_lineEnd _).bind fun _ =>
      (stable_fieldLines _).bind fun _ => Stable.pure _

/-! ### Writing -/

/-- The bytes of a head. -/
def write (h : Head) : List Byte :=
  h.method ++ asciiBytes " " ++ h.target ++ asciiBytes s!" HTTP/1.{h.minorVersion}" ++ lineBreak ++
    h.fields.write

end Head

end GameGateway.Http
