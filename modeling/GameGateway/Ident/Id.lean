import GameGateway.Ident.Ulid

/-!
# Typed identifiers

Servers, listeners and modules are named by a ULID behind a tag for what they are: `srv_`, `lst_`
or `mod_`. What is named is part of the type, so that the identifier of a server cannot stand
where a listener's is expected, in the program or in a text that is read.

`Id.toString` writes an identifier and `Id.parse` reads one; `EventId` is the position of an
event in the stream of events.
-/

namespace GameGateway

/-- The things that typed identifiers name. -/
inductive Resource where
  | server
  | listener
  | module
  deriving DecidableEq, Repr

/-- The tag in front of the identifiers of a resource. -/
def Resource.tag : Resource → String
  | .server => "srv"
  | .listener => "lst"
  | .module => "mod"

/-- The **identifier** of a server, a listener or a module. -/
structure Id (r : Resource) where
  ulid : Ulid
  deriving DecidableEq, Repr

abbrev ServerId := Id .server
abbrev ListenerId := Id .listener
abbrev ModuleId := Id .module

/-- Why a text is not an identifier of some resource. -/
inductive IdError where
  | empty
  | missingSeparator
  | wrongTag (expected actual : String)
  | invalidUlid (cause : Ulid.ParseError)
  deriving DecidableEq, Repr

namespace IdError

/-- The message of an error. -/
def message : IdError → String
  | .empty => "ID cannot be empty"
  | .missingSeparator => "ID missing underscore separator"
  | .wrongTag expected actual => s!"invalid ID prefix: expected '{expected}', got '{actual}'"
  | .invalidUlid cause => "invalid ULID: " ++ cause.message

/-- Whether the text is an identifier of another resource, or looks like one. -/
def isWrongTag : IdError → Bool
  | .wrongTag _ _ => true
  | _ => false

end IdError

namespace Id

variable {r : Resource}

instance : LT (Id r) := ⟨fun a b => a.ulid < b.ulid⟩
instance : LE (Id r) := ⟨fun a b => a.ulid ≤ b.ulid⟩
instance (a b : Id r) : Decidable (a < b) := inferInstanceAs (Decidable (a.ulid < b.ulid))
instance (a b : Id r) : Decidable (a ≤ b) := inferInstanceAs (Decidable (a.ulid ≤ b.ulid))

/-- The identifier whose ULID has this number. -/
def ofNat (r : Resource) (n : Nat) : Id r := ⟨Ulid.ofNat n⟩

/-- The text of an identifier: the tag, an underscore and the ULID. -/
protected def toString (id : Id r) : String :=
  r.tag ++ "_" ++ id.ulid.toString

instance : ToString (Id r) := ⟨Id.toString⟩

/-- The parts of a text in front of and behind its first underscore. -/
def splitTag? (s : String) : Option (String × String) :=
  match s.toList.dropWhile (· ≠ '_') with
  | [] => none
  | _ :: rest => some (String.ofList (s.toList.takeWhile (· ≠ '_')), String.ofList rest)

/-- Reads an identifier of a resource. -/
def parse (r : Resource) (s : String) : Except IdError (Id r) :=
  if s.isEmpty then .error .empty
  else
    match splitTag? s with
    | none => .error .missingSeparator
    | some (tag, digits) =>
      if tag ≠ r.tag then .error (.wrongTag r.tag tag)
      else
        match Ulid.ofDigits digits with
        | .ok ulid => .ok ⟨ulid⟩
        | .error cause => .error (.invalidUlid cause)

end Id

/-- The **position of an event** in the stream of events. -/
structure EventId where
  value : Int64
  deriving DecidableEq, Repr

namespace EventId

instance : LT EventId := ⟨fun a b => a.value < b.value⟩
instance : LE EventId := ⟨fun a b => a.value ≤ b.value⟩
instance (a b : EventId) : Decidable (a < b) := inferInstanceAs (Decidable (a.value < b.value))
instance (a b : EventId) : Decidable (a ≤ b) := inferInstanceAs (Decidable (a.value ≤ b.value))

/-- The position before that of every event. -/
def zero : EventId := ⟨0⟩

instance : Inhabited EventId := ⟨zero⟩

/-- The position after this one. -/
def next (e : EventId) : EventId := ⟨e.value + 1⟩

instance : ToString EventId := ⟨fun e => toString e.value.toInt⟩

end EventId

end GameGateway
