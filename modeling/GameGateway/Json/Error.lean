import GameGateway.Ident.Id
import GameGateway.Text.Quoted
import GameGateway.Time.Timestamp

/-!
# Why a JSON text cannot be read

A text is **malformed** when it is no JSON up to the place where reading stops, and a **mismatch**
when a value in it is not what is read there. `Mismatch.message` words the second kind.
-/

namespace GameGateway.Json

/-- What stands in a text where something else is expected. -/
inductive Found where
  | null
  | bool (value : Bool)
  | integer (value : Int)
  | double (text : String)
  | string (text : String)
  | sequence
  | map
  deriving DecidableEq, Repr

/-- The words for what was found. -/
def Found.describe : Found → String
  | .null => "null"
  | .bool value => s!"boolean `{value}`"
  | .integer value => s!"integer `{value}`"
  | .double text => s!"floating point `{text}`"
  | .string text => "string " ++ Text.quoted text
  | .sequence => "sequence"
  | .map => "map"

/-- The cause for which a value is **not what is read** in its place. -/
inductive Mismatch where
  | invalidType (found : Found) (expected : String)
  | invalidValue (found : Found) (expected : String)
  | invalidLength (length : Nat) (expected : String)
  | missingField (name : String)
  | duplicateField (name : String)
  | unknownVariant (name : String) (expected : List String)
  | badId (cause : IdError)
  | badTime (cause : Time.Timestamp.ParseError)
  deriving DecidableEq, Repr

/-- A name between back quotes. -/
def backQuoted (name : String) : String :=
  s!"`{name}`"

/-- The message of a mismatch. -/
def Mismatch.message : Mismatch → String
  | .invalidType found expected => s!"invalid type: {found.describe}, expected {expected}"
  | .invalidValue found expected => s!"invalid value: {found.describe}, expected {expected}"
  | .invalidLength length expected => s!"invalid length {length}, expected {expected}"
  | .missingField name => "missing field " ++ backQuoted name
  | .duplicateField name => "duplicate field " ++ backQuoted name
  | .unknownVariant name expected =>
    s!"unknown variant {backQuoted name}, expected one of " ++
      ", ".intercalate (expected.map backQuoted)
  | .badId cause => cause.message
  | .badTime cause => cause.message

/-- The cause for which a text **cannot be read** as a value of some type. -/
inductive ReadError where
  | malformed
  | mismatch (cause : Mismatch)
  deriving DecidableEq, Repr

end GameGateway.Json
