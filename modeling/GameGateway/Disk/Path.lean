/-!
# Paths

A **path** leads to a file or a directory, from one directory to the next, by the **steps** that
stand between its slashes. The step `..` leads to the directory above; where nothing stands between
two slashes, or a single dot, there is no step. A path keeps how it is written, since messages show
it so, and since one that goes on behind its last step leads to a directory only.

The last step of a path is a **name** unless it is `..`. A name may end in an extension, which is
what follows its last dot unless that dot comes first.
-/

namespace GameGateway

/-- The **path** of a file or a directory. -/
structure Path where
  /-- Whether a slash comes first. -/
  absolute : Bool := false
  /-- What stands between the slashes behind that. -/
  pieces : List String
  deriving DecidableEq, Repr, Inhabited

namespace Path

/-- The path that a text writes. -/
def ofText (text : String) : Path :=
  match text.splitOn "/" with
  | [""] => ⟨false, []⟩
  | ["", ""] => ⟨true, []⟩
  | "" :: pieces => ⟨true, pieces⟩
  | pieces => ⟨false, pieces⟩

/-- The text of a path. -/
protected def toString (p : Path) : String :=
  (if p.absolute then "/" else "") ++ "/".intercalate p.pieces

instance : ToString Path := ⟨Path.toString⟩

/-- Whether the text of a path is empty. -/
def isEmpty (p : Path) : Bool :=
  !p.absolute && p.pieces.isEmpty

/-- The path that `q` is when one starts at `p`. -/
def join (p q : Path) : Path :=
  if q.absolute then q
  else { p with pieces := p.pieces ++ if q.pieces.isEmpty then [""] else q.pieces }

/-! ### Steps -/

/-- Whether a piece of a path is a step. -/
def isStep (piece : String) : Bool :=
  piece ≠ "" && piece ≠ "."

/-- The steps of a path. -/
def steps (p : Path) : List String :=
  p.pieces.filter isStep

/-- The pieces up to the last step, that step first. -/
def backward (p : Path) : List String :=
  p.pieces.reverse.dropWhile fun piece => !isStep piece

/-- The pieces behind the last step. -/
def trailing (p : Path) : List String :=
  (p.pieces.reverse.takeWhile fun piece => !isStep piece).reverse

/-- The pieces of a path are those up to its last step and those behind it. -/
theorem backward_reverse_append_trailing (p : Path) :
    p.backward.reverse ++ p.trailing = p.pieces := by
  rw [backward, trailing, ← List.reverse_append, List.takeWhile_append_dropWhile,
    List.reverse_reverse]

/-- The path without what stands behind its last step but one, from the pieces up to that step. -/
def ofBackward (absolute : Bool) (backward : List String) : Path :=
  ⟨absolute, (backward.dropWhile fun piece => !isStep piece).reverse⟩

/-- The directory that holds what a path leads to, or the path itself if it has no step. -/
def parent (p : Path) : Path :=
  match p.backward with
  | [] => p
  | _ :: outer => ofBackward p.absolute outer

/-- The directories that lead to the last one of the pieces, from that one outwards. -/
def outward (absolute : Bool) : (backward : List String) → List Path
  | [] => []
  | piece :: outer =>
    if isStep piece then ⟨absolute, (piece :: outer).reverse⟩ :: outward absolute outer
    else outward absolute outer

/-- A path and the directories on the way to it, from the path outwards. -/
def lineage (p : Path) : List Path :=
  match p.backward with
  | [] => []
  | _ :: outer => p :: outward p.absolute outer

/-! ### Names -/

/-- The name that a path ends in. -/
def name? (p : Path) : Option String :=
  match p.backward with
  | [] => none
  | step :: _ => if step = ".." then none else some step

/-- The path with another last step, and nothing behind it. -/
def withLast (p : Path) (step : String) : Path :=
  match p.backward with
  | [] => p
  | _ :: outer => { p with pieces := (step :: outer).reverse }

/-- A name without its extension, and the extension. -/
def splitName (name : String) : String × Option String :=
  let backward := name.toList.reverse
  match backward.dropWhile (· ≠ '.') with
  | [] | [_] => (name, none)
  | _ :: stem =>
    (String.ofList stem.reverse, some (String.ofList (backward.takeWhile (· ≠ '.')).reverse))

/-- The path whose name has another extension. The old one is taken off the end of the path
first, and what is left gets the new one if it ends in a name. -/
def withExtension (p : Path) (extension : String) : Path :=
  match p.name? with
  | none => p
  | some name =>
    match splitName name, p.trailing with
    -- Nothing but dots is left: this is no name.
    | (".", some _), [] => p.withLast ".."
    | (stem, _), _ => p.withLast (stem ++ "." ++ extension)

end Path

end GameGateway
