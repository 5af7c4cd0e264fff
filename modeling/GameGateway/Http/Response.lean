import GameGateway.Http.Body
import GameGateway.Http.Head

/-!
# The head of a response

A response begins with a status line, which has the version, a status of three digits and a reason
in words that may be missing, and fields follow as in a request.
-/

namespace GameGateway.Http

open Wire (Byte)

/-- The head of a **response**. -/
structure Response where
  /-- The digit behind `HTTP/1.`. -/
  minorVersion : Nat
  status : Nat
  reason : List Byte
  fields : Fields
  deriving DecidableEq, Repr

namespace Response

/-- Reads a digit. -/
def digit : Scanner Nat := do
  let b ← Scanner.next
  if 0x30 ≤ b && b ≤ 0x39 then pure (b.toNat - 0x30) else Scanner.refuse .status

/-- Reads a status. -/
def scanStatus : Scanner Nat := do
  let hundreds ← digit
  let tens ← digit
  let ones ← digit
  pure (hundreds * 100 + tens * 10 + ones)

/-- Reads the reason, if there is one, up to the end of the line. -/
def scanReason : Scanner (List Byte) := do
  if (← Scanner.peek) ≠ 0x20 then pure []
  else
    Scanner.expect 0x20 .status
    Scanner.span Head.isValueByte

/-- Reads the head of a response. -/
def scan : Scanner Response := do
  Head.skipEmptyLines
  let minorVersion ← Head.version
  Scanner.expect 0x20 .version
  let status ← scanStatus
  let reason ← scanReason
  Head.lineEnd .status
  let fields ← Head.fieldLines Head.maxFields
  pure { minorVersion, status, reason, fields }

/-- The bytes of the head of a response. -/
def write (r : Response) : List Byte :=
  asciiBytes s!"HTTP/1.{r.minorVersion} {r.status} " ++ r.reason ++ lineBreak ++
    r.fields.write

/-- Whether another response to the same request follows. -/
def isInterim (r : Response) : Bool :=
  100 ≤ r.status && r.status < 200 && r.status ≠ 101

/-- The most interim responses that a response may follow. -/
def maxInterim : Nat := 100

/-- Reads the head of a response behind a number of interim ones, at most. -/
def scanBehind : Nat → Scanner Response
  | 0 => Scanner.refuse .status
  | most + 1 => do
    let r ← scan
    if r.isInterim then scanBehind most else pure r

/-- Reads the head of the response that is the last to its request. -/
def scanFinal : Scanner Response :=
  scanBehind (maxInterim + 1)

end Response

end GameGateway.Http
