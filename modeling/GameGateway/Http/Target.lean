import GameGateway.Http.Field

/-!
# The target of a request

The target is a path, or a full address with a host in front of the path, or a host alone. The part
of it that a backend is asked for is the path with its query.
-/

namespace GameGateway.Http

open Wire (Byte)

/-- The **target** of a request. -/
structure Target where
  /-- The host that the target names. -/
  authority : Option String
  path : List Byte
  deriving DecidableEq, Repr

namespace Target

/-- A byte of the name of a scheme. -/
def isSchemeByte (b : Byte) : Bool :=
  let c := Char.ofNat b.toNat
  c.isAlphanum || c = '+' || c = '-' || c = '.'

/-- A byte that ends a host. -/
def endsHost (b : Byte) : Bool :=
  b = asciiByte '/' || b = asciiByte '?' || b = asciiByte '#'

/-- A path as backends are asked for it: it starts with a slash and has no fragment. -/
def pathOf (bytes : List Byte) : List Byte :=
  let path := bytes.takeWhile (· ≠ asciiByte '#')
  if path.head?.any fun b => b = asciiByte '/' || b = asciiByte '*' then path
  else asciiByte '/' :: path

/-- The target with a host and what follows the host. -/
def ofHost (bytes : List Byte) : Target where
  authority := some (asciiText (bytes.takeWhile fun b => !endsHost b))
  path := pathOf (bytes.dropWhile fun b => !endsHost b)

/-- The target in a request line. -/
def ofBytes (bytes : List Byte) : Target :=
  -- Only a target that is no path can begin with a scheme.
  let behindScheme := bytes.dropWhile isSchemeByte
  if bytes.head?.any fun b => b = asciiByte '/' || b = asciiByte '*' then ⟨none, pathOf bytes⟩
  else if (asciiBytes "://").isPrefixOf behindScheme then ofHost (behindScheme.drop 3)
  else ofHost bytes

end Target

end GameGateway.Http
