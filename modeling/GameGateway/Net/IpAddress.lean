import GameGateway.Decimal.Digits

/-!
# Internet addresses

An **address** has four octets (version 4) or eight groups of 16 bits (version 6). Its text is the
shortest usual one: in version 6, colons stand for the longest run of zero groups, if it has two of
them at least, and an address that stands for one of version 4 ends in the text of that.

`IpAddress.toString` writes an address and `IpAddress.parse?` reads one. Reading takes no zeros in
front of an octet, up to four digits in a group, and `::` wherever at least one group is left out.
-/

namespace GameGateway

open Decimal

/-- An internet **address**. -/
inductive IpAddress where
  | v4 (octets : Vector UInt8 4)
  | v6 (groups : Vector UInt16 8)
  deriving DecidableEq, Repr

namespace IpAddress

/-- The address that programs of one machine reach each other by. -/
def loopback : IpAddress := .v4 #v[127, 0, 0, 1]

/-- The address that stands for all addresses of a machine. -/
def any : IpAddress := .v4 #v[0, 0, 0, 0]

/-! ### Writing -/

/-- The text of four octets. -/
def writeOctets (octets : List UInt8) : String :=
  ".".intercalate (octets.map fun octet => toString octet.toNat)

/-- The text of groups. -/
def writeGroups (groups : List UInt16) : String :=
  ":".intercalate (groups.map fun g => String.ofList (Nat.toDigits 16 g.toNat))

/-- The number of zeros at the front. -/
def zerosAtFront (groups : List UInt16) : Nat :=
  (groups.takeWhile (· = 0)).length

/-- Where the first of the longest runs of zeros starts, and its length. -/
def longestZeros (groups : List UInt16) : Nat × Nat :=
  (List.range groups.length).foldl
    (fun best i =>
      let n := zerosAtFront (groups.drop i)
      if best.2 < n then (i, n) else best)
    (0, 0)

/-- The two octets of a group. -/
def octetsOf (group : UInt16) : List UInt8 :=
  [UInt8.ofNat (group.toNat / 256), UInt8.ofNat (group.toNat % 256)]

/-- The text of eight groups. -/
def writeV6 (groups : List UInt16) : String :=
  match groups with
  | [0, 0, 0, 0, 0, 0xffff, hi, lo] => "::ffff:" ++ writeOctets (octetsOf hi ++ octetsOf lo)
  | groups =>
    let (start, length) := longestZeros groups
    if 2 ≤ length then
      writeGroups (groups.take start) ++ "::" ++ writeGroups (groups.drop (start + length))
    else writeGroups groups

/-- The text of an address. -/
protected def toString : IpAddress → String
  | v4 octets => writeOctets octets.toList
  | v6 groups => writeV6 groups.toList

instance : ToString IpAddress := ⟨IpAddress.toString⟩

/-! ### Reading -/

/-- A step that reads something off the front of a text, if it is there. -/
abbrev Scan (α : Type) := List Char → Option (α × List Char)

/-- Reads a given character. -/
def scanChar (c : Char) : Scan Unit
  | [] => none
  | d :: s => if d = c then some ((), s) else none

/-- Reads a number of one to three digits, without zeros in front of it, below 256. -/
def scanOctet : Scan UInt8 := fun s =>
  let (digits, rest) := spanDigits s
  let n := natOfDigits digits
  if digits.isEmpty ∨ 3 < digits.length ∨ 256 ≤ n ∨ (1 < digits.length ∧ digits.head? = some '0')
  then none
  else some (UInt8.ofNat n, rest)

/-- Reads four octets with points between them. -/
def scanOctets : Scan (Vector UInt8 4) := fun s => do
  let (a, s) ← scanOctet s
  let ((), s) ← scanChar '.' s
  let (b, s) ← scanOctet s
  let ((), s) ← scanChar '.' s
  let (c, s) ← scanOctet s
  let ((), s) ← scanChar '.' s
  let (d, s) ← scanOctet s
  return (#v[a, b, c, d], s)

/-- The value of a hexadecimal digit. -/
def hexValue? (c : Char) : Option Nat :=
  if c.isDigit then some (c.toNat - '0'.toNat)
  else if 'a' ≤ c ∧ c ≤ 'f' then some (c.toNat - 'a'.toNat + 10)
  else if 'A' ≤ c ∧ c ≤ 'F' then some (c.toNat - 'A'.toNat + 10)
  else none

/-- Reads a group of one to four hexadecimal digits. -/
def scanGroup : Scan UInt16 := fun s =>
  let values := (s.takeWhile fun c => (hexValue? c).isSome).filterMap hexValue?
  if values.isEmpty ∨ 4 < values.length then none
  else some (UInt16.ofNat (values.foldl (fun n v => n * 16 + v) 0), s.drop values.length)

/-- Reads a colon unless this is the first group. -/
def scanSeparator (first : Bool) : Scan Unit := fun s =>
  if first then some ((), s) else scanChar ':' s

/-- The group of two octets. -/
def groupOf (hi lo : UInt8) : UInt16 :=
  UInt16.ofNat (hi.toNat * 256 + lo.toNat)

/-- Reads up to `most` groups with colons between them, the last two of which may be written as
four octets. Also tells whether they were. -/
def scanGroups (first : Bool) : (most : Nat) → List Char → (List UInt16 × Bool) × List Char
  | 0, s => (([], false), s)
  | most + 1, s =>
    let octets := do
      let ((), s) ← scanSeparator first s
      scanOctets s
    match if 0 < most then octets else none with
    | some (o, s) => (([groupOf o[0] o[1], groupOf o[2] o[3]], true), s)
    | none =>
      let group := do
        let ((), s) ← scanSeparator first s
        scanGroup s
      match group with
      | none => (([], false), s)
      | some (g, s) =>
        let ((groups, octets), s) := scanGroups false most s
        ((g :: groups, octets), s)

/-- The address of groups at the front and at the back, with zeros between them. -/
def ofGroups (front back : List UInt16) : IpAddress :=
  let groups := front ++ List.replicate (8 - front.length - back.length) 0 ++ back
  .v6 (Vector.ofFn fun i => groups.getD i 0)

/-- Reads an address of version 6. -/
def scanV6 : Scan IpAddress := fun s => do
  let ((front, octets), s) := scanGroups true 8 s
  if front.length = 8 then
    return (ofGroups front [], s)
  if octets then
    none
  let ((), s) ← scanChar ':' s
  let ((), s) ← scanChar ':' s
  let ((back, _), s) := scanGroups true (7 - front.length) s
  return (ofGroups front back, s)

/-- Reads an address of either version. -/
def scan : Scan IpAddress := fun s =>
  match scanOctets s with
  | some (octets, s) => some (.v4 octets, s)
  | none => scanV6 s

/-- The address that a text writes. -/
def parse? (s : String) : Option IpAddress :=
  match scan s.toList with
  | some (address, []) => some address
  | _ => none

/-- The message for a text that is no address. -/
def parseMessage : String := "invalid IP address syntax"

end IpAddress

end GameGateway
