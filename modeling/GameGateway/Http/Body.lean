import GameGateway.Http.Field

/-!
# The bodies of messages

A **body** follows the head of a message. Its **framing** tells where it ends: behind so many bytes,
behind a last chunk, or with its connection. A `Reader` takes the payload out of a body that is
coming in, and `Framing.encode` writes a piece of payload the way a body has it.
-/

namespace GameGateway.Http

open Wire (Byte)

/-- How a body tells where it **ends**. -/
inductive Framing where
  | sized (length : Nat)
  | chunked
  | untilEnd
  deriving DecidableEq, Repr

namespace Body

/-! ### The coding in chunks -/

/-- How far a body in chunks has been read; numbers are sizes of chunks. -/
inductive Chunked where
  /-- Within the digits of a chunk's size. -/
  | size (digits : Option Nat)
  /-- Behind them, up to the end of the line. -/
  | padding (size : Nat)
  | extension (size : Nat)
  | sizeLineFeed (size : Nat)
  | data (missing : Nat)
  | dataReturn
  | dataLineFeed
  /-- Behind the last chunk: at the start of a line, within a trailer, at the end. -/
  | lineStart
  | trailer
  | lastLineFeed
  deriving DecidableEq, Repr

namespace Chunked

/-- What a further byte makes of a body in chunks. -/
inductive Step where
  | more (state : Chunked)
  /-- The byte is one of the payload. -/
  | payload (state : Chunked)
  | done
  | malformed

/-- The value of a hexadecimal digit. -/
def hexValue? (b : Byte) : Option Nat :=
  if 0x30 ≤ b && b ≤ 0x39 then some (b.toNat - 0x30)
  else if 0x61 ≤ b && b ≤ 0x66 then some (b.toNat - 0x57)
  else if 0x41 ≤ b && b ≤ 0x46 then some (b.toNat - 0x37)
  else none

/-- Takes a byte behind the digits of a chunk's size. -/
def takeSizeLine (size : Nat) (b : Byte) : Step :=
  if b = 0x0d then .more (.sizeLineFeed size)
  else if b = 0x3b then .more (.extension size)
  else if b = 0x20 || b = 0x09 then .more (.padding size)
  else .malformed

/-- Takes one byte. -/
def take (b : Byte) : Chunked → Step
  | size digits =>
    match hexValue? b, digits with
    | some d, _ =>
      let n := digits.getD 0 * 16 + d
      if n < UInt64.size then .more (size (some n)) else .malformed
    | none, some n => takeSizeLine n b
    | none, none => .malformed
  | padding n => takeSizeLine n b
  | extension n => if b = 0x0d then .more (sizeLineFeed n) else .more (extension n)
  | sizeLineFeed n =>
    if b ≠ 0x0a then .malformed
    else if n = 0 then .more lineStart
    else .more (data n)
  | data missing => .payload (if missing ≤ 1 then dataReturn else data (missing - 1))
  | dataReturn => if b = 0x0d then .more dataLineFeed else .malformed
  | dataLineFeed => if b = 0x0a then .more (size none) else .malformed
  | lineStart => if b = 0x0d then .more lastLineFeed else .more trailer
  | trailer => if b = 0x0a then .more lineStart else .more trailer
  | lastLineFeed => if b = 0x0a then .done else .malformed

end Chunked

/-! ### Reading -/

/-- How far a body has been read. -/
inductive Reader where
  | sized (missing : Nat)
  | chunked (state : Chunked)
  | untilEnd
  deriving DecidableEq, Repr

/-- What a piece of the stream makes of a body in progress: the payload in it, and the bytes behind
the body when it is complete. -/
inductive Fed where
  | more (reader : Reader) (payload : List Byte)
  | done (payload rest : List Byte)
  | malformed

/-- The same with a byte of payload in front. -/
def Fed.cons (b : Byte) : Fed → Fed
  | more reader payload => more reader (b :: payload)
  | done payload rest => done (b :: payload) rest
  | malformed => malformed

/-- Takes a piece of a body in chunks. -/
def feedChunks (state : Chunked) : List Byte → Fed
  | [] => .more (.chunked state) []
  | b :: rest =>
    match state.take b with
    | .more state => feedChunks state rest
    | .payload state => (feedChunks state rest).cons b
    | .done => .done [] rest
    | .malformed => .malformed

namespace Reader

/-- The reader of a body that has not begun. -/
def start : Framing → Reader
  | .sized length => sized length
  | .chunked => chunked (.size none)
  | .untilEnd => untilEnd

/-- Takes a piece of the stream. -/
def feed (bytes : List Byte) : Reader → Fed
  | sized missing =>
    -- Exactly at the last byte the body is complete, even if nothing follows it.
    if bytes.length < missing then .more (sized (missing - bytes.length)) bytes
    else .done (bytes.take missing) (bytes.drop missing)
  | chunked state => feedChunks state bytes
  | untilEnd => .more untilEnd bytes

/-- Whether the body may end where the stream ends. -/
def mayEnd : Reader → Bool
  | untilEnd => true
  | sized _ | chunked _ => false

end Reader

end Body

/-! ### Writing -/

namespace Framing

/-- The hexadecimal digits of a number, in bytes. -/
def hexBytes (n : Nat) : List Byte :=
  (Nat.toDigits 16 n).map asciiByte

/-- A piece of payload in the body. -/
def encode (payload : List Byte) : Framing → List Byte
  | sized _ | untilEnd => payload
  | chunked =>
    if payload.isEmpty then [] else hexBytes payload.length ++ lineBreak ++ payload ++ lineBreak

/-- What ends the body. -/
def terminator : Framing → List Byte
  | sized _ | untilEnd => []
  | chunked => asciiBytes "0" ++ lineBreak ++ lineBreak

/-! ### The framing of a message -/

/-- The length that fields tell: all of them, if they are several, must tell the same. -/
inductive Length where
  | absent
  | told (length : Nat)
  | invalid

/-- The number that digits write. -/
def number? (value : List Byte) : Option Nat :=
  if value.isEmpty || !value.all fun b => 0x30 ≤ b && b ≤ 0x39 then none
  else
    let n := value.foldl (fun n b => n * 10 + (b.toNat - 0x30)) 0
    if n < UInt64.size then some n else none

/-- The length that fields tell. -/
def length (fs : Fields) : Length :=
  match (fs.values "content-length").map number? with
  | [] => .absent
  | first :: rest =>
    match first with
    | none => .invalid
    | some n => if rest.all (· = some n) then .told n else .invalid

/-- Whether the fields say that a body is coded, and if so, whether it ends in chunks. -/
def coded? (fs : Fields) : Option Bool :=
  (fs.lastValue? "transfer-encoding").map fun value =>
    ((Field.text? value).map listItems).any fun items =>
      items.getLast?.any fun item => lowerAscii item = "chunked"

/-- The framing of a request's body, if its fields make sense. -/
def ofRequest? (minorVersion : Nat) (fs : Fields) : Option Framing :=
  match coded? fs, length fs with
  -- A coding overrules a length, and one that does not end in chunks has no end.
  | some true, _ => if minorVersion = 0 then none else some chunked
  | some false, _ | none, .invalid => none
  | none, .told n => some (sized n)
  | none, .absent => some (sized 0)

/-- The framing of a response's body, if its fields make sense; `bodiless` says that there is none
whatever the fields tell. -/
def ofResponse? (bodiless : Bool) (fs : Fields) : Option Framing :=
  if bodiless then some (sized 0)
  else
    match coded? fs, length fs with
    | some true, _ => some chunked
    | some false, _ | none, .absent => some untilEnd
    | none, .told n => some (sized n)
    | none, .invalid => none

end Framing

end GameGateway.Http
