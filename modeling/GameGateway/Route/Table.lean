import GameGateway.Net.Socket
import GameGateway.Route.Key
import Std.Data.ExtTreeMap

/-!
# Routes and route tables

A **route** leads from a routing key to the address of a backend, and belongs to a server or a
module. A **route table** holds at most one route for a key. A table with virtual hosts finds keys
by `Key.normalize`; a table without has one backend, under `Key.only`, whatever key is asked for.

`Table.get?` is the table as a partial map; `get?_add`, `get?_update`, `get?_remove`,
`get?_removeOwner` and `get?_clear` say what each operation does to it.
-/

namespace GameGateway

/-- A **route** to a backend. -/
structure Route where
  /-- The server or module that the route belongs to. -/
  owner : String
  key : String
  backendHost : String
  backendPort : UInt16
  /-- A route that is not active is kept, but leads nowhere. -/
  active : Bool
  deriving DecidableEq, Repr

namespace Route

/-- The address of a route's backend. -/
def address (r : Route) : String :=
  joinPort r.backendHost r.backendPort

/-- The **route table** of a port. -/
structure Table where
  virtualHosts : Bool
  entries : Std.ExtTreeMap String Route
  deriving DecidableEq

namespace Table

/-- A table without routes. -/
def empty (virtualHosts : Bool) : Table :=
  ⟨virtualHosts, ∅⟩

/-- The key under which the table keeps what a spelling asks for. -/
def keyOf (t : Table) (spelling : String) : String :=
  if t.virtualHosts then Key.normalize spelling else Key.only

/-- The route under a key. -/
def get? (t : Table) (key : String) : Option Route :=
  t.entries[key]?

/-- The routes of the table, in the order of their keys. -/
def routes (t : Table) : List Route :=
  t.entries.values

/-- The keys of the table, in order. -/
def keys (t : Table) : List String :=
  t.entries.keys

/-- The number of routes. -/
def size (t : Table) : Nat :=
  t.entries.size

/-- Whether there is no route. -/
def isEmpty (t : Table) : Bool :=
  t.entries.isEmpty

/-- The active route for a spelling of a key. -/
def lookup (t : Table) (spelling : String) : Option Route :=
  (t.get? (t.keyOf spelling)).filter Route.active

/-! ### Changing a table -/

/-- Adds a route, in place of any that was there. -/
def add (t : Table) (owner spelling host : String) (port : UInt16) : Table :=
  let key := t.keyOf spelling
  { t with
    entries := t.entries.insert key
      { owner, key, backendHost := host, backendPort := port, active := true } }

/-- Whether there is a route for a spelling of a key, active or not. -/
def contains (t : Table) (spelling : String) : Bool :=
  (t.get? (t.keyOf spelling)).isSome

/-- Leads the route for a spelling to another backend, if there is one. -/
def update (t : Table) (spelling host : String) (port : UInt16) : Table :=
  { t with
    entries := t.entries.modify (t.keyOf spelling)
      fun r => { r with backendHost := host, backendPort := port } }

/-- Removes the route for a spelling. -/
def remove (t : Table) (spelling : String) : Table :=
  { t with entries := t.entries.erase (t.keyOf spelling) }

/-- The keys of the routes that belong to an owner, in order. -/
def keysOf (t : Table) (owner : String) : List String :=
  (t.entries.filter fun _ r => r.owner = owner).keys

/-- Removes the routes that belong to an owner. -/
def removeOwner (t : Table) (owner : String) : Table :=
  { t with entries := t.entries.filter fun _ r => r.owner ≠ owner }

/-- Removes all routes. -/
def clear (t : Table) : Table :=
  { t with entries := ∅ }

/-! ### The table as a partial map -/

section Lemmas

variable {t : Table} {k s host owner : String} {port : UInt16}

/-- A table is told by its kind and by what is found under each key. -/
@[ext]
theorem ext {t u : Table} (h : t.virtualHosts = u.virtualHosts) (hg : ∀ k, t.get? k = u.get? k) :
    t = u := by
  cases t
  cases u
  cases h
  exact congrArg _ (Std.ExtTreeMap.ext_getElem? hg)

@[simp]
theorem get?_empty {b : Bool} : (empty b).get? k = none := by
  simp [get?, empty]

/-- Adding a route puts it under its key in place of any other. -/
theorem get?_add : (t.add owner s host port).get? k =
    if t.keyOf s = k then some ⟨owner, k, host, port, true⟩ else t.get? k := by
  simp only [get?, add, Std.ExtTreeMap.getElem?_insert, Std.LawfulEqCmp.compare_eq_iff_eq]
  split
  · next h => rw [h]
  · rfl

/-- Updating leads a route elsewhere, and adds none. -/
theorem get?_update : (t.update s host port).get? k =
    if t.keyOf s = k then
      (t.get? k).map fun r => { r with backendHost := host, backendPort := port }
    else t.get? k := by
  simp only [get?, update, Std.ExtTreeMap.getElem?_modify, Std.LawfulEqCmp.compare_eq_iff_eq]
  split
  · next h => rw [h]
  · rfl

theorem get?_remove : (t.remove s).get? k = if t.keyOf s = k then none else t.get? k := by
  simp only [get?, remove, Std.ExtTreeMap.getElem?_erase, Std.LawfulEqCmp.compare_eq_iff_eq]

/-- Of all routes, those of the owner are removed. -/
theorem get?_removeOwner : (t.removeOwner owner).get? k = (t.get? k).filter (·.owner ≠ owner) := by
  simp [get?, removeOwner]

@[simp]
theorem get?_clear : t.clear.get? k = none := by
  simp [get?, clear]

end Lemmas

end Table

end Route

end GameGateway
