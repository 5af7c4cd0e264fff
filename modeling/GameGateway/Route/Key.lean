import GameGateway.Text.Blank

/-!
# Routing keys

Clients spell a host in many ways: in any case, with a port, with a final dot, between blanks. Its
**routing key** is what these spellings have in common. `Key.normalize` takes the blanks at the two
ends away, then a port, then the dots at the end, and then puts the letters `A` to `Z` in lower
case. A port is what follows the bracket that closes a bracketed address, or the only colon.
-/

namespace GameGateway.Route.Key

/-- The text in front of its only colon. A text with no colon or several has no port. -/
def dropPort (s : List Char) : List Char :=
  match s.dropWhile (· ≠ ':') with
  | [] => s
  | _ :: port => if ':' ∈ port then s else s.takeWhile (· ≠ ':')

/-- The text up to the first bracket that closes, if there is one. -/
def dropBehindBracket (s : List Char) : List Char :=
  match s.dropWhile (· ≠ ']') with
  | [] => s
  | bracket :: _ => s.takeWhile (· ≠ ']') ++ [bracket]

/-- The host of a text without blanks at its ends. -/
def host (s : List Char) : List Char :=
  match s with
  | '[' :: _ => dropBehindBracket s
  | _ => dropPort s

/-- The routing key of a spelling, as characters. -/
def chars (s : List Char) : List Char :=
  (Text.dropEndWhile (· = '.') (host (Text.trim s))).map Char.toLower

/-- The **routing key** of a spelling of a host. -/
def normalize (s : String) : String :=
  String.ofList (chars s.toList)

/-- The key of the only backend of a port that has no virtual hosts. -/
def only : String := "*"

end GameGateway.Route.Key
