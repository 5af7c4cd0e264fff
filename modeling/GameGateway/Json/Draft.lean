import GameGateway.Json.Token

/-!
# Drafts of JSON values

Readers of records go through a JSON text from left to right and stop at the first problem, be
it a value of the wrong type or a place where the text is no JSON at all. A **draft** is a value in
which both can be found in order: the tokens of a text are assembled into a draft up to the first
syntax error, which stands in the draft where it stands in the text, and containers that are open
there stay open.

`Assembly` is the machine that does this, a token at a time, on a stack of open containers;
`Document.ofText` runs it on a text.
-/

namespace GameGateway.Json

/-- A JSON value as far as it could be read. -/
inductive Draft where
  | null
  | bool (value : Bool)
  | number (numeral : Numeral)
  | string (text : Option String)
  | array (items : List Draft) (closed : Bool)
  | object (members : List (Option String × Draft)) (closed : Bool)
  /-- The place of a syntax error. -/
  | broken
  deriving Repr, Inhabited

/-- A container that is open: what it holds so far, last one first. -/
inductive Frame where
  | array (items : List Draft)
  | object (members : List (Option String × Draft))
  /-- An object that awaits the value of a key. -/
  | member (members : List (Option String × Draft)) (key : Option String)

/-- What may come next in the innermost open container. -/
inductive Awaiting where
  | value
  | firstItem
  | firstKey
  | key
  | colon
  | afterValue
  deriving DecidableEq, Repr

/-- The state of the assembly of a draft. -/
inductive Assembly where
  | within (awaiting : Awaiting) (stack : List Frame)
  /-- The whole value has been read. -/
  | complete (root : Draft)
  /-- The value ends at a syntax error, or something follows it. -/
  | stopped (root : Draft)

namespace Assembly

/-- The draft of a text that cannot be read on behind `d`, inside the open containers. -/
def abandon (d : Draft) : List Frame → Draft
  | [] => d
  | .array items :: stack => abandon (.array (d :: items).reverse false) stack
  | .object members :: stack => abandon (.object members.reverse false) stack
  | .member members key :: stack => abandon (.object ((key, d) :: members).reverse false) stack

/-- Goes on behind a complete value. -/
def deliver (d : Draft) : List Frame → Assembly
  | [] => .complete d
  | .array items :: stack => .within .afterValue (.array (d :: items) :: stack)
  | .object members :: stack => .stopped (abandon d (.object members :: stack))
  | .member members key :: stack => .within .afterValue (.object ((key, d) :: members) :: stack)

/-- Stops at a syntax error. -/
def stop (stack : List Frame) : Assembly :=
  .stopped (abandon .broken stack)

/-- Takes a token where a value is awaited. -/
def takeValue (stack : List Frame) : Token → Assembly
  | .null => deliver .null stack
  | .bool b => deliver (.bool b) stack
  | .number n => deliver (.number n) stack
  | .string text => deliver (.string text) stack
  | .openArray => .within .firstItem (.array [] :: stack)
  | .openObject => .within .firstKey (.object [] :: stack)
  | _ => stop stack

/-- Takes the next token. -/
def take : Assembly → Token → Assembly
  | .within .value stack, token => takeValue stack token
  | .within .firstItem (.array [] :: stack), .closeArray => deliver (.array [] true) stack
  | .within .firstItem stack, token => takeValue stack token
  | .within .firstKey (.object [] :: stack), .closeObject => deliver (.object [] true) stack
  | .within .firstKey (.object [] :: stack), .string key => .within .colon (.member [] key :: stack)
  | .within .key (.object members :: stack), .string key =>
    .within .colon (.member members key :: stack)
  | .within .colon stack, .colon => .within .value stack
  | .within .afterValue (.array items :: stack), .comma => .within .value (.array items :: stack)
  | .within .afterValue (.array items :: stack), .closeArray =>
    deliver (.array items.reverse true) stack
  | .within .afterValue (.object members :: stack), .comma =>
    .within .key (.object members :: stack)
  | .within .afterValue (.object members :: stack), .closeObject =>
    deliver (.object members.reverse true) stack
  | .within .afterValue (.array items :: stack), _ =>
    .stopped (abandon (.array items.reverse false) stack)
  | .within _ stack, _ => stop stack
  | .complete root, _ => .stopped root
  | .stopped root, _ => .stopped root

end Assembly

/-- The draft of a whole text. -/
structure Document where
  root : Draft
  /-- The text holds one whole value and nothing else. -/
  whole : Bool
  deriving Repr

/-- The document of an assembly that gets no more tokens. -/
def Assembly.finish : Assembly → Document
  | .within .afterValue (.array items :: stack) =>
    ⟨abandon (.array items.reverse false) stack, false⟩
  | .within _ stack => ⟨abandon .broken stack, false⟩
  | .complete root => ⟨root, true⟩
  | .stopped root => ⟨root, false⟩

/-- The draft of a text. -/
def Document.ofText (text : String) : Document :=
  ((tokens text.toList).foldl Assembly.take (.within .value [])).finish

end GameGateway.Json
