import GameGateway.Json.Draft
import GameGateway.Json.Error

/-!
# Reading typed values

A **reader** turns a draft into a value of some type, and stops at the first problem from left to
right. Members of a record that it does not know are skipped: nothing in them matters but that they
are JSON. All else is read, and what is read may nest `maxDepth` deep.

Records are described by `Fields`, one field after the other, and may be written as an object or as
an array of their fields in order. A value whose tag stands behind its content is read from the
buffered content (`Mode.buffered`).
-/

namespace GameGateway.Json

/-- How a draft is read. -/
structure Mode where
  /-- The number of containers that may still be entered. -/
  depth : Nat
  /-- The draft has been looked through before. -/
  buffered : Bool := false
  deriving DecidableEq, Repr

/-- How deep the containers that are read may nest. -/
def maxDepth : Nat := 127

/-- A **reader** of values. -/
abbrev Reader (α : Type) := Mode → Draft → Except ReadError α

/-- Enters a container. -/
def Mode.enter (mode : Mode) : Except ReadError Mode :=
  if mode.buffered then .ok mode
  else if mode.depth = 0 then .error .malformed
  else .ok { mode with depth := mode.depth - 1 }

/-- What stands in a draft, if that can be told. -/
def Draft.found : Draft → Except ReadError Found
  | .null => .ok .null
  | .bool value => .ok (.bool value)
  | .number numeral =>
    match numeral.value? with
    | some (.integer value) => .ok (.integer value)
    | some (.double text) => .ok (.double text)
    | none => .error .malformed
  | .string (some text) => .ok (.string text)
  | .string none => .error .malformed
  | .array _ _ => .ok .sequence
  | .object _ _ => .ok .map
  | .broken => .error .malformed

/-- Refuses a draft that is not what is expected. -/
def refuse {α : Type} (expected : String) (d : Draft) : Except ReadError α := do
  throw (.mismatch (.invalidType (← d.found) expected))

/-! ### Skipping and buffering -/

mutual

/-- Whether a draft may be **skipped**: it is JSON throughout. -/
def Draft.skippable : Draft → Bool
  | .null | .bool _ | .number _ | .string _ => true
  | .array items closed => skippableItems items && closed
  | .object members closed => skippableMembers members && closed
  | .broken => false

/-- Whether all items may be skipped. -/
def skippableItems : List Draft → Bool
  | [] => true
  | d :: rest => d.skippable && skippableItems rest

/-- Whether all values may be skipped. -/
def skippableMembers : List (Option String × Draft) → Bool
  | [] => true
  | (_, d) :: rest => d.skippable && skippableMembers rest

end

mutual

/-- Whether a draft may be **buffered**: it is JSON, its numbers are in range, its strings have
texts, and it nests no deeper than `depth`. -/
def Draft.bufferable (depth : Nat) : Draft → Bool
  | .null | .bool _ => true
  | .number numeral => numeral.value?.isSome
  | .string text => text.isSome
  | .array items closed => 0 < depth && bufferableItems (depth - 1) items && closed
  | .object members closed => 0 < depth && bufferableMembers (depth - 1) members && closed
  | .broken => false

/-- Whether all items may be buffered. -/
def bufferableItems (depth : Nat) : List Draft → Bool
  | [] => true
  | d :: rest => d.bufferable depth && bufferableItems depth rest

/-- Whether all members may be buffered. -/
def bufferableMembers (depth : Nat) : List (Option String × Draft) → Bool
  | [] => true
  | (key, d) :: rest => key.isSome && d.bufferable depth && bufferableMembers depth rest

end

/-! ### Scalars and lists -/

/-- Reads a string. -/
def readString : Reader String := fun _ d =>
  match d with
  | .string (some text) => .ok text
  | d => refuse "a string" d

/-- Reads a truth value. -/
def readBool : Reader Bool := fun _ d =>
  match d with
  | .bool value => .ok value
  | d => refuse "a boolean" d

/-- Reads an integer between two bounds. -/
def readInteger (expected : String) (low high : Int) : Reader Int := fun _ d => do
  match ← d.found with
  | .integer value =>
    if low ≤ value ∧ value ≤ high then return value
    else throw (.mismatch (.invalidValue (.integer value) expected))
  | found => throw (.mismatch (.invalidType found expected))

/-- Reads an unsigned word of 16 bits. -/
def readUInt16 : Reader UInt16 := fun mode d => do
  return UInt16.ofNat (← readInteger "u16" 0 (UInt16.size - 1) mode d).toNat

/-- Reads an unsigned word of 32 bits. -/
def readUInt32 : Reader UInt32 := fun mode d => do
  return UInt32.ofNat (← readInteger "u32" 0 (UInt32.size - 1) mode d).toNat

/-- Reads a signed word of 32 bits. -/
def readInt32 : Reader Int32 := fun mode d => do
  return Int32.ofInt (← readInteger "i32" Int32.minValue.toInt Int32.maxValue.toInt mode d)

/-- Reads a signed word of 64 bits. -/
def readInt64 : Reader Int64 := fun mode d => do
  return Int64.ofInt (← readInteger "i64" Int64.minValue.toInt Int64.maxValue.toInt mode d)

/-- Reads a value that may be absent, written as `null`. -/
def readOption {α : Type} (read : Reader α) : Reader (Option α) := fun mode d =>
  match d with
  | .null => .ok none
  | d => (read mode d).map some

/-- Reads a list. -/
def readList {α : Type} (read : Reader α) : Reader (List α) := fun mode d =>
  match d with
  | .array items closed => do
    let mode ← mode.enter
    let values ← items.mapM (read mode)
    if closed then return values else throw .malformed
  | d => refuse "a sequence" d

/-- Reads an identifier. -/
def readId (r : Resource) : Reader (Id r) := fun mode d => do
  match Id.parse r (← readString mode d) with
  | .ok id => return id
  | .error cause => throw (.mismatch (.badId cause))

/-- Reads a moment. -/
def readTimestamp : Reader Time.Timestamp := fun _ d => do
  match d with
  | .string (some text) =>
    match Time.Timestamp.parse text with
    | .ok time => return time
    | .error cause => throw (.mismatch (.badTime cause))
  | d => refuse "an RFC 3339 formatted date and time string" d

/-! ### Names out of a list -/

/-- The choices of an enumeration: their names and values. -/
abbrev Variants (α : Type) := List (String × α)

/-- The value of a name. -/
def Variants.value {α : Type} (variants : Variants α) (name : String) : Except ReadError α :=
  match variants.lookup name with
  | some value => .ok value
  | none => .error (.mismatch (.unknownVariant name (variants.map Prod.fst)))

/-- Reads a name out of a list, as a string. -/
def readName {α : Type} (variants : Variants α) : Reader α := fun _ d =>
  match d with
  | .string (some name) => variants.value name
  | d => refuse "variant identifier" d

/-- Reads `null`; an empty object does too where a value has been buffered. -/
def readUnit : Reader Unit := fun mode d =>
  match d with
  | .null => .ok ()
  | .object [] true => if mode.buffered then .ok () else refuse "unit" d
  | d => refuse "unit" d

/-- Reads a name out of a list: a string, or an object with the name as its only key and `null`
for a value. -/
def readVariant {α : Type} (variants : Variants α) : Reader α := fun mode d =>
  match d with
  | .string (some name) => variants.value name
  | .object members closed => do
    if mode.buffered && members.length ≠ 1 then
      throw (.mismatch (.invalidValue .map "map with a single key"))
    let mode ← mode.enter
    match members with
    | (some name, d) :: rest =>
      let value ← variants.value name
      readUnit mode d
      if rest.isEmpty && closed then return value else throw .malformed
    | _ => throw .malformed
  | d => if mode.buffered then refuse "string or map" d else .error .malformed

/-! ### Records -/

/-- The **fields** of a record, in order, and how they make a value. -/
structure Fields (α : Type) where
  /-- The names of the fields, each with a reader that checks its value. -/
  checks : List (String × Reader Unit)
  /-- The value of the members of an object, each of which has been read. -/
  ofMembers : Mode → List (String × Draft) → Except ReadError α
  /-- The value of the first items of an array, and the items that are left. The array's end is
  known, and `short` is the error for one that lacks the item of a number. -/
  ofItems : Mode → (closed : Bool) → (short : Nat → ReadError) → List Draft →
    Except ReadError (α × List Draft)

namespace Fields

variable {α β : Type}

/-- The record without fields. -/
def of (a : α) : Fields α where
  checks := []
  ofMembers _ _ := .ok a
  ofItems _ _ _ items := .ok (a, items)

/-- Adds a field. One that is absent has the value `absent`, if that is given. -/
def field (f : Fields (α → β)) (name : String) (read : Reader α) (absent : Option α) :
    Fields β where
  checks := f.checks ++ [(name, fun mode d => (read mode d).map fun _ => ())]
  ofMembers mode members := do
    let make ← f.ofMembers mode members
    match members.lookup name, absent with
    | some d, _ => return make (← read mode d)
    | none, some a => return make a
    | none, none => throw (.mismatch (.missingField name))
  ofItems mode closed short items := do
    let (make, items) ← f.ofItems mode closed short items
    match items, absent with
    | d :: items, _ => return (make (← read mode d), items)
    | [], some a => if closed then return (make a, []) else throw .malformed
    | [], none => if closed then throw (short f.checks.length) else throw .malformed

/-- Makes another value of the fields. -/
def map (g : α → β) (f : Fields α) : Fields β where
  checks := f.checks
  ofMembers mode members := (f.ofMembers mode members).map g
  ofItems mode closed short items :=
    (f.ofItems mode closed short items).map fun (a, items) => (g a, items)

/-- Adds a field that must be present. -/
def required (f : Fields (α → β)) (name : String) (read : Reader α) : Fields β :=
  f.field name read none

/-- Adds a field that has a default value. -/
def optional (f : Fields (α → β)) (name : String) (default : α) (read : Reader α) : Fields β :=
  f.field name read (some default)

/-- Adds a field that is read only to see that it can be, if it is present. -/
def check (f : Fields α) (name : String) (read : Reader β) : Fields α :=
  (f.map fun a (_ : Option β) => a).optional name none (readOption read)

/-- Adds fields that are read only to see that they can be. -/
def checkAll (f : Fields α) (names : List String) (read : Reader β) : Fields α :=
  names.foldl (fun f name => f.check name read) f

/-- Reads the members of an object from left to right: those that are fields are checked and kept,
the others skipped. -/
def checkMembers (checks : List (String × Reader Unit)) (mode : Mode) (closed : Bool) :
    (seen : List String) → List (Option String × Draft) → Except ReadError (List (String × Draft))
  | _, [] => if closed then .ok [] else .error .malformed
  | _, (none, _) :: _ => .error .malformed
  | seen, (some key, d) :: rest =>
    match checks.lookup key with
    | none =>
      if d.skippable then checkMembers checks mode closed seen rest else .error .malformed
    | some check => do
      if key ∈ seen then
        throw (.mismatch (.duplicateField key))
      check mode d
      let members ← checkMembers checks mode closed (key :: seen) rest
      return (key, d) :: members

/-- Reads the members of an object as a record. -/
def readMembers (f : Fields α) (mode : Mode) (members : List (Option String × Draft))
    (closed : Bool) : Except ReadError α := do
  let mode ← mode.enter
  -- Everything is looked at in the order of the text before the first field is missed.
  let members ← checkMembers f.checks mode closed [] members
  f.ofMembers mode members

/-- Reads a record from an object; `expected` says what it is. -/
def readObject (f : Fields α) (expected : String) : Reader α := fun mode d =>
  match d with
  | .object members closed => f.readMembers mode members closed
  | d => refuse expected d

/-- Reads a record from an object, or from an array of its fields in order. -/
def read (f : Fields α) (name : String) : Reader α := fun mode d =>
  match d with
  | .array items closed => do
    let mode ← mode.enter
    let short (n : Nat) : ReadError :=
      .mismatch (.invalidLength n s!"struct {name} with {f.checks.length} elements")
    let (value, rest) ← f.ofItems mode closed short items
    if rest.isEmpty && closed then return value else throw .malformed
  | d => f.readObject ("struct " ++ name) mode d

end Fields

/-! ### Tagged values -/

/-- A value that is written as a **tag**, which says how to read it, beside its content. -/
structure Tagged (α : Type) where
  /-- What is read. -/
  expected : String
  /-- The key of the tag. -/
  tag : String
  /-- The key of the content. -/
  content : String
  /-- The readers of the contents, by tag. -/
  variants : Variants (Reader α)

namespace Tagged

variable {α : Type} (t : Tagged α)

/-- The first member that is the tag (`true`) or the content, and the members behind it. -/
def nextMember (closed : Bool) : List (Option String × Draft) →
    Except ReadError (Option (Bool × Draft × List (Option String × Draft)))
  | [] => if closed then .ok none else .error .malformed
  | (none, _) :: _ => .error .malformed
  | (some key, d) :: rest =>
    if key = t.tag then .ok (some (true, d, rest))
    else if key = t.content then .ok (some (false, d, rest))
    else if d.skippable then nextMember closed rest
    else .error .malformed

/-- Skips the members that are left, among which there must be no second tag or content. -/
def finish (closed : Bool) (members : List (Option String × Draft)) (value : α) :
    Except ReadError α := do
  match ← t.nextMember closed members with
  | none => return value
  | some (true, _, _) => throw (.mismatch (.duplicateField t.tag))
  | some (false, _, _) => throw (.mismatch (.duplicateField t.content))

/-- Reads the members of an object. -/
def readMembers (mode : Mode) (closed : Bool) (members : List (Option String × Draft)) :
    Except ReadError α := do
  match ← t.nextMember closed members with
  | none => throw (.mismatch (.missingField t.tag))
  | some (true, tag, rest) =>
    let read ← readVariant t.variants mode tag
    match ← t.nextMember closed rest with
    | none => throw (.mismatch (.missingField t.content))
    | some (true, _, _) => throw (.mismatch (.duplicateField t.tag))
    | some (false, content, rest) =>
      let value ← read mode content
      t.finish closed rest value
  | some (false, content, rest) =>
    -- The content comes before its tag, so it is looked through and kept.
    if !content.bufferable mode.depth then
      throw .malformed
    match ← t.nextMember closed rest with
    | none => throw (.mismatch (.missingField t.tag))
    | some (false, _, _) => throw (.mismatch (.duplicateField t.content))
    | some (true, tag, rest) =>
      let read ← readVariant t.variants mode tag
      let value ← read { mode with buffered := true } content
      t.finish closed rest value

/-- Reads a tagged value from an object, or from an array of its tag and its content. In an array
the tag is a string. -/
def read : Reader α := fun mode d =>
  match d with
  | .object members closed => do
    let mode ← mode.enter
    t.readMembers mode closed members
  | .array items closed => do
    let mode ← mode.enter
    match items with
    | [] =>
      if closed then throw (.mismatch (.invalidLength 0 t.expected)) else throw .malformed
    | tag :: items =>
      let read ← readName t.variants mode tag
      match items with
      | [] => if closed then throw (.mismatch (.invalidLength 1 t.expected)) else throw .malformed
      | content :: rest =>
        let value ← read mode content
        if rest.isEmpty && closed then return value else throw .malformed
  | d => refuse t.expected d

end Tagged

/-! ### Whole texts -/

/-- Reads a text that holds one value. -/
def ofText {α : Type} (read : Reader α) (text : String) : Except ReadError α := do
  let document := Document.ofText text
  let value ← read { depth := maxDepth } document.root
  -- What follows the value comes to light last.
  if document.whole then return value else throw .malformed

end GameGateway.Json
