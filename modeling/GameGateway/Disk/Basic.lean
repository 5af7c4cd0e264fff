import GameGateway.Disk.Path
import Std.Data.ExtTreeMap

/-!
# Files and directories

A **disk** holds files and directories at its places. A path is followed step by step to a place,
and a call to the disk fails where that is not possible or where its place does not hold what it
needs. A call also fails where a fault has been planned for it: a run in which the calls fail that
are to fail is a run on a disk with these faults to come. One that fails changes nothing, but that
a failed write may leave anything in the file, and that some of the directories on the way to one
that cannot be made may have been made.

`Disk.read` is the disk as a partial map from paths to contents.
-/

namespace GameGateway

/-- Why a call to a disk fails. -/
inductive IoError where
  | notFound
  | alreadyExists
  | notADirectory
  | isADirectory
  /-- A path with a character that no name may have. -/
  | invalidInput
  | nameTooLong
  | busy
  | invalidData
  | noSpace
  deriving DecidableEq, Repr

/-- The message of an error. -/
def IoError.message : IoError → String
  | .notFound => "No such file or directory (os error 2)"
  | .alreadyExists => "File exists (os error 17)"
  | .notADirectory => "Not a directory (os error 20)"
  | .isADirectory => "Is a directory (os error 21)"
  | .invalidInput => "file name contained an unexpected NUL byte"
  | .nameTooLong => "File name too long (os error 36)"
  | .busy => "Device or resource busy (os error 16)"
  | .invalidData => "stream did not contain valid UTF-8"
  | .noSpace => "No space left on device (os error 28)"

namespace Disk

/-- A **place** on a disk: the names of the directories on the way from the root, and its own. -/
abbrev Place := List String

/-- What is at a place. -/
inductive Node where
  | file (content : ByteArray)
  | directory

/-- How a call **fails** for which that has been planned; a write that fails may leave `debris` in
the file. -/
structure Fault where
  error : IoError
  debris : Option ByteArray := none

end Disk

/-- A **disk**. -/
structure Disk where
  nodes : Std.ExtTreeMap Disk.Place Disk.Node := ∅
  /-- What befalls the calls to come that change the disk. -/
  faults : List (Option Disk.Fault) := []

namespace Disk

/-- What is at a place; the root is always there. -/
def node? (d : Disk) (place : Place) : Option Node :=
  if place = [] then some .directory else d.nodes[place]?

/-! ### Following paths -/

/-- The number of bytes that a name may have. -/
def nameLimit : Nat := 255

/-- The number of bytes that a path may have. -/
def pathLimit : Nat := 4095

/-- The place that steps lead to from another. Nothing need be there, but all places on the way
are directories. -/
def follow (d : Disk) : Place → (steps : List String) → Except IoError Place
  | place, [] => .ok place
  | place, step :: steps =>
    match d.node? place with
    | none => .error .notFound
    | some (.file _) => .error .notADirectory
    | some .directory =>
      if step = ".." then follow d place.dropLast steps
      else if nameLimit < step.utf8ByteSize then .error .nameTooLong
      else follow d (place ++ [step]) steps

/-- The place that a path leads to; one that is not absolute starts at the root, too. -/
def locate (d : Disk) (p : Path) : Except IoError Place :=
  let text := toString p
  if text.toList.contains '\x00' then .error .invalidInput
  else if pathLimit < text.utf8ByteSize then .error .nameTooLong
  else if p.isEmpty then .error .notFound
  else d.follow [] p.steps

/-- What a path leads to. -/
def reach (d : Disk) (p : Path) : Except IoError (Option Node) := do
  match d.node? (← d.locate p) with
  | some (.file content) =>
    if p.trailing.isEmpty then return some (.file content) else throw .notADirectory
  | node => return node

/-- Whether a path leads to a directory. -/
def isDirectory (d : Disk) (p : Path) : Bool :=
  d.reach p matches .ok (some .directory)

/-- The content of a file. -/
def read (d : Disk) (p : Path) : Except IoError ByteArray := do
  match ← d.reach p with
  | some (.file content) => return content
  | some .directory => throw .isADirectory
  | none => throw .notFound

/-- The text of a file. -/
def readText (d : Disk) (p : Path) : Except IoError String := do
  match String.fromUTF8? (← d.read p) with
  | some text => return text
  | none => throw .invalidData

/-! ### Writing and renaming files -/

/-- The fault of the next call that changes the disk, and the disk behind it. -/
def nextFault (d : Disk) : Option Fault × Disk :=
  match d.faults with
  | [] => (none, d)
  | fault :: faults => (fault, { d with faults })

/-- Puts a file at a place. -/
def put (d : Disk) (place : Place) (content : ByteArray) : Disk :=
  { d with nodes := d.nodes.insert place (.file content) }

/-- The place at which a file can be written. -/
def writable (d : Disk) (p : Path) : Except IoError Place := do
  let place ← d.locate p
  match d.node? place, p.trailing with
  | some .directory, _ | _, _ :: _ => throw .isADirectory
  | _, [] => return place

/-- Writes a file, in place of any that is there. -/
def write (d : Disk) (p : Path) (content : ByteArray) : Except IoError Unit × Disk :=
  let (fault, d) := d.nextFault
  match d.writable p, fault with
  | .error e, none => (.error e, d)
  | .ok place, none => (.ok (), d.put place content)
  | .ok place, some ⟨e, some debris⟩ => (.error e, d.put place debris)
  | _, some ⟨e, _⟩ => (.error e, d)

/-- The place that a file can be moved to. -/
def movable (d : Disk) (p : Path) : Except IoError Place := do
  let place ← d.locate p
  if p.name?.isNone || p.trailing.contains "." then
    match d.node? place with
    | some .directory => throw .busy
    | some (.file _) => throw .notADirectory
    | none => throw .notFound
  else if !p.trailing.isEmpty then throw .notADirectory
  else
    match d.node? place with
    | some .directory => throw .isADirectory
    | _ => return place

/-- Gives a file another path, in place of any file that is there. -/
def rename (d : Disk) (p q : Path) : Except IoError Unit × Disk :=
  let (fault, d) := d.nextFault
  match fault, d.locate p, d.read p, d.movable q with
  | some ⟨e, _⟩, _, _, _ | none, .error e, _, _ | none, .ok _, .error e, _
  | none, .ok _, .ok _, .error e => (.error e, d)
  | none, .ok source, .ok content, .ok target =>
    (.ok (), { d with nodes := d.nodes.erase source }.put target content)

/-! ### Making and removing directories -/

/-- Makes a directory where nothing is. -/
def makeDirectory (d : Disk) (p : Path) : Except IoError Disk := do
  let place ← d.locate p
  match d.node? place with
  | some _ => throw .alreadyExists
  | none =>
    -- The dot would be looked for in what is to be made.
    if p.trailing.contains "." then throw .notFound
    return { d with nodes := d.nodes.insert place .directory }

/-- Makes a directory unless it is there. -/
def ensureDirectory (d : Disk) (p : Path) : Except IoError Unit × Disk :=
  match d.makeDirectory p with
  | .ok d => (.ok (), d)
  | .error e => (if d.isDirectory p then .ok () else .error e, d)

/-- Makes the first one of directories of which each lies in the next one, and before it those that
it lies in, as far as it cannot be made without. -/
def ensureAll (d : Disk) : List Path → Except IoError Unit × Disk
  | [] => (.ok (), d)
  | p :: outer =>
    match d.ensureDirectory p with
    | (.error .notFound, d) =>
      match ensureAll d outer with
      | (.ok (), d) => d.ensureDirectory p
      | failed => failed
    | done => done

/-- Makes a directory and those on the way to it, as far as they are not there. -/
def createDirectories (d : Disk) (p : Path) : Except IoError Unit × Disk :=
  let (fault, d) := d.nextFault
  match fault with
  | some ⟨e, _⟩ => (.error e, d)
  | none => d.ensureAll p.lineage

/-- Removes a directory: first everything in it, and then what the path leads to by now. Nothing
is left to do if the path led through what is gone, and dots at its end do not name a directory. -/
def removeDirectory (d : Disk) (p : Path) : Except IoError Unit × Disk :=
  let without (isGone : Place → Bool) : Disk :=
    { d with nodes := d.nodes.filter fun place _ => !isGone place }
  match d.reach p, d.locate p with
  | .error e, _ | _, .error e => (.error e, d)
  | .ok none, _ => (.error .notFound, d)
  | .ok (some (.file _)), _ => (.error .notADirectory, d)
  | .ok (some .directory), .ok directory =>
    let emptied := without fun place => directory.isPrefixOf place && place ≠ directory
    match emptied.locate p with
    | .error _ => (.ok (), emptied)
    | .ok _ =>
      if p.trailing.contains "." then (.error .invalidInput, emptied)
      else if p.name?.isNone then (.error .busy, emptied)
      else (.ok (), without directory.isPrefixOf)

/-- Everything within a directory, by the names on the way from there with slashes between them;
directories have a slash at the end. -/
def listing (d : Disk) (directory : Place) : List String :=
  d.nodes.toList.filterMap fun (place, node) =>
    if directory.isPrefixOf place && place ≠ directory then
      let name := "/".intercalate (place.drop directory.length)
      match node with
      | .file _ => some name
      | .directory => some (name ++ "/")
    else none

end Disk

end GameGateway
