import GameGateway.Route.Table
import Mathlib.Data.Set.Card

/-!
# Route tables as partial maps

A **mapping** has at most one target under a key, and takes keys as they are. A table does with the
spellings that it is given what a mapping does with their keys: with their routing keys where there
are virtual hosts, and with the one key of all spellings where there are none. It **holds** the
mapping at all times, and its answers are those of the mapping (`refines_mapping`).

One change is followed by `Holds.apply`, and any number of them by `Holds.foldl`.
-/

namespace GameGateway.Route

/-! ### Changes and answers -/

namespace Table

/-- A **change** of a table. -/
inductive Change where
  | add (owner spelling host : String) (port : UInt16)
  | update (spelling host : String) (port : UInt16)
  | remove (spelling : String)
  | removeOwner (owner : String)
  | clear

/-- The table behind a change. -/
def apply (t : Table) : Change → Table
  | .add owner spelling host port => t.add owner spelling host port
  | .update spelling host port => t.update spelling host port
  | .remove spelling => t.remove spelling
  | .removeOwner owner => t.removeOwner owner
  | .clear => t.clear

/-- What is **answered** to a change. -/
inductive Answer where
  | done
  /-- Whether there was a route to be led to another backend. -/
  | found (known : Bool)
  /-- The route that is removed. -/
  | removed (route : Option Route)
  /-- The keys of the routes that are removed. -/
  | removedKeys (keys : List String)

/-- What a table answers to a change. -/
def answer (t : Table) : Change → Answer
  | .add .. => .done
  | .update spelling .. => .found (t.contains spelling)
  | .remove spelling => .removed (t.get? (t.keyOf spelling))
  | .removeOwner owner => .removedKeys (t.keysOf owner)
  | .clear => .done

variable {t : Table} {c : Change} {key owner : String}

/-- The kind of a table never changes. -/
theorem virtualHosts_apply : (t.apply c).virtualHosts = t.virtualHosts := by
  cases c <;> rfl

/-- So a spelling has the same key behind every change. -/
theorem keyOf_apply : (t.apply c).keyOf = t.keyOf := by
  funext spelling
  rw [keyOf, keyOf, virtualHosts_apply]

theorem mem_keys : key ∈ t.keys ↔ (t.get? key).isSome := by
  rw [keys, Std.ExtTreeMap.mem_keys, Std.ExtTreeMap.mem_iff_isSome_getElem?, get?]

/-- The keys of an owner are those of its routes. -/
theorem mem_keysOf : key ∈ t.keysOf owner ↔ ∃ r, t.get? key = some r ∧ r.owner = owner := by
  rw [keysOf, Std.ExtTreeMap.mem_keys, Std.ExtTreeMap.mem_iff_isSome_getElem?,
    Std.ExtTreeMap.getElem?_filter', ← get?, Option.isSome_iff_exists]
  simp only [Option.filter_eq_some_iff, decide_eq_true_eq]

/-- The change of the same kind to other keys. -/
def Change.mapKey (f : String → String) : Change → Change
  | .add owner key host port => .add owner (f key) host port
  | .update key host port => .update (f key) host port
  | .remove key => .remove (f key)
  | .removeOwner owner => .removeOwner owner
  | .clear => .clear

end Table

/-! ### Mappings -/

/-- The **target** under a key: where its route leads, and whose it is. -/
structure Target where
  owner : String
  backendHost : String
  backendPort : UInt16

/-- The active route from a key to a target. -/
def Target.route (key : String) (d : Target) : Route :=
  ⟨d.owner, key, d.backendHost, d.backendPort, true⟩

/-- A **mapping** of keys to targets. -/
abbrev Mapping := String → Option Target

namespace Mapping

/-- The mapping without targets. -/
def empty : Mapping := fun _ => none

/-- The keys that have a target. -/
def keys (m : Mapping) : Set String :=
  {key | (m key).isSome}

/-- The mapping behind a change, whose keys are taken as they are. -/
def apply (m : Mapping) : Table.Change → Mapping
  | .add owner key host port => Function.update m key (some ⟨owner, host, port⟩)
  | .update key host port =>
    Function.update m key
      ((m key).map fun d => { d with backendHost := host, backendPort := port })
  | .remove key => Function.update m key none
  | .removeOwner owner => fun key => (m key).filter (·.owner ≠ owner)
  | .clear => empty

/-- What is to be **answered** to a change of a mapping; the keys that an owner loses may be named
in any order, but each of them once. -/
inductive Answers (m : Mapping) : Table.Change → Table.Answer → Prop
  | add {owner key host : String} {port : UInt16} : Answers m (.add owner key host port) .done
  | update {key host : String} {port : UInt16} :
      Answers m (.update key host port) (.found (m key).isSome)
  | remove {key : String} : Answers m (.remove key) (.removed ((m key).map (Target.route key)))
  | removeOwner {owner : String} {keys : List String} (hnodup : keys.Nodup)
      (hmem : ∀ key, key ∈ keys ↔ ∃ d, m key = some d ∧ d.owner = owner) :
      Answers m (.removeOwner owner) (.removedKeys keys)
  | clear : Answers m .clear .done

variable {m : Mapping} {f : String → String}

theorem keys_update {key : String} {target : Option Target} :
    keys (Function.update m key target) ⊆ insert key m.keys := by
  intro k hk
  by_cases heq : k = key
  · exact .inl heq
  · rw [keys, Set.mem_ofPred_eq, Function.update_of_ne heq] at hk
    exact .inr hk

/-- Only the key of a change can become a key. -/
theorem keys_apply (h : m.keys ⊆ Set.range f) (c : Table.Change) :
    (m.apply (c.mapKey f)).keys ⊆ Set.range f := by
  have hinsert (spelling : String) : insert (f spelling) m.keys ⊆ Set.range f :=
    Set.insert_subset (Set.mem_range_self spelling) h
  cases c with
  | add _ spelling _ _ => exact keys_update.trans (hinsert spelling)
  | update spelling _ _ => exact keys_update.trans (hinsert spelling)
  | remove spelling => exact keys_update.trans (hinsert spelling)
  | removeOwner owner =>
    refine Set.Subset.trans (fun k hk => ?_) h
    exact Option.isSome_of_isSome_filter _ _ hk
  | clear =>
    rintro k hk
    cases hk

/-- **Only keys of spellings are ever keys.** -/
theorem keys_foldl (h : m.keys ⊆ Set.range f) (cs : List Table.Change) :
    ((cs.map (Table.Change.mapKey f)).foldl apply m).keys ⊆ Set.range f := by
  induction cs generalizing m with
  | nil => exact h
  | cons c cs ih => exact ih (keys_apply h c)

end Mapping

/-! ### Tables that hold a mapping -/

namespace Table

variable {t : Table} {m : Mapping}

/-- A table **holds** a mapping when it has just the routes to its targets. -/
def Holds (t : Table) (m : Mapping) : Prop :=
  ∀ key, t.get? key = (m key).map (Target.route key)

/-- The empty table holds the empty mapping. -/
theorem holds_empty {virtualHosts : Bool} : (empty virtualHosts).Holds Mapping.empty :=
  fun _ => get?_empty

/-- **A change of a table is one of the mapping that it holds.** -/
theorem Holds.apply (h : t.Holds m) (c : Change) :
    (t.apply c).Holds (m.apply (c.mapKey t.keyOf)) := by
  intro key
  cases c with
  | add owner spelling host port =>
    simp only [Table.apply, Mapping.apply, Change.mapKey, get?_add, Function.update_apply,
      eq_comm (a := key), h key]
    split <;> rfl
  | update spelling host port =>
    simp only [Table.apply, Mapping.apply, Change.mapKey, get?_update, Function.update_apply,
      eq_comm (a := key), h key]
    split
    · next hkey =>
      rw [hkey, Option.map_map, Option.map_map]
      rfl
    · rfl
  | remove spelling =>
    simp only [Table.apply, Mapping.apply, Change.mapKey, get?_remove, Function.update_apply,
      eq_comm (a := key), h key]
    split <;> rfl
  | removeOwner owner =>
    simp only [Table.apply, Mapping.apply, Change.mapKey, get?_removeOwner, h key]
    exact Option.filter_map
  | clear => exact get?_clear

/-- **What a table answers is what its mapping answers.** -/
theorem Holds.answers (h : t.Holds m) (c : Change) :
    m.Answers (c.mapKey t.keyOf) (t.answer c) := by
  cases c with
  | add owner spelling host port => exact .add
  | update spelling host port =>
    rw [answer, contains, h, Option.isSome_map]
    exact .update
  | remove spelling =>
    rw [answer, h]
    exact .remove
  | removeOwner owner =>
    refine .removeOwner Std.ExtTreeMap.nodup_keys fun key => ?_
    rw [mem_keysOf, h]
    simp [Target.route]
  | clear => exact .clear

/-- **A table holds its mapping through all changes.** -/
theorem Holds.foldl (h : t.Holds m) (cs : List Change) :
    (cs.foldl Table.apply t).Holds
      ((cs.map (Change.mapKey t.keyOf)).foldl Mapping.apply m) := by
  induction cs generalizing t m with
  | nil => exact h
  | cons c cs ih =>
    -- a change leaves it as it is whether there are virtual hosts, and with it all keys
    have hrest := ih (h.apply c)
    rwa [keyOf_apply] at hrest

theorem keyOf_foldl (t : Table) (cs : List Change) : (cs.foldl apply t).keyOf = t.keyOf := by
  induction cs generalizing t with
  | nil => rfl
  | cons c cs ih => exact (ih (t.apply c)).trans keyOf_apply

/-- What is found under a spelling is what its key is mapped to. -/
theorem Holds.lookup (h : t.Holds m) (spelling : String) :
    t.lookup spelling = (m (t.keyOf spelling)).map (Target.route (t.keyOf spelling)) := by
  rw [Table.lookup, h]
  cases m (t.keyOf spelling) <;> rfl

/-- The size of a table is the number of keys that are mapped. -/
theorem Holds.size (h : t.Holds m) : t.size = m.keys.ncard := by
  have hkeys : m.keys = ↑t.keys.toFinset := by
    ext key
    rw [List.coe_toFinset, Set.mem_ofPred_eq, mem_keys, h, Option.isSome_map]
    rfl
  have hnodup : t.keys.Nodup := Std.ExtTreeMap.nodup_keys
  rw [hkeys, Set.ncard_coe_finset, List.toFinset_card_of_nodup hnodup]
  exact Std.ExtTreeMap.length_keys.symm

/-- **A table is a partial map of keys.** After any changes a new table holds the mapping behind the
same changes of the keys of spellings. What it answers, and what is looked up by a spelling, is what
the mapping has under the key; each route names its own key, and there are as many routes as keys.
Without virtual hosts there is one at most. -/
theorem refines_mapping (virtualHosts : Bool) (cs : List Change) :
    let keyOf (spelling : String) := if virtualHosts then Key.normalize spelling else Key.only
    let t := cs.foldl apply (empty virtualHosts)
    let m := (cs.map (Change.mapKey keyOf)).foldl Mapping.apply Mapping.empty
    (∀ key, t.get? key = (m key).map (Target.route key)) ∧
      (∀ c, m.Answers (c.mapKey keyOf) (t.answer c)) ∧
      (∀ spelling,
        t.lookup spelling = (m (keyOf spelling)).map (Target.route (keyOf spelling))) ∧
      (∀ key r, t.get? key = some r → r.key = key) ∧
      t.size = m.keys.ncard ∧ m.keys ⊆ Set.range keyOf ∧ (virtualHosts = false → t.size ≤ 1) := by
  intro keyOf t m
  have hkeyOf : t.keyOf = keyOf := keyOf_foldl _ _
  have hholds : t.Holds m := holds_empty.foldl cs
  have hrange : m.keys ⊆ Set.range keyOf := by
    refine Mapping.keys_foldl ?_ cs
    rintro key hkey
    cases hkey
  refine ⟨hholds, fun c => ?_, fun spelling => ?_, fun key r hr => ?_, hholds.size, hrange, ?_⟩
  · exact hkeyOf ▸ hholds.answers c
  · exact hkeyOf ▸ hholds.lookup spelling
  · rw [hholds] at hr
    obtain ⟨d, -, rfl⟩ := Option.map_eq_some_iff.mp hr
    rfl
  · rintro rfl
    have honly : m.keys ⊆ {Key.only} := hrange.trans (Set.range_subset_iff.mpr fun _ => rfl)
    rw [hholds.size]
    exact (Set.ncard_le_ncard honly).trans_eq (Set.ncard_singleton _)

/-- Without virtual hosts a second route takes the place of the first one, by whatever spelling. -/
theorem refines_mapping_without_hosts :
    let cs : List Change := [.add "mod_a" "any" "10.0.0.9" 19132,
      .add "mod_b" "Other." "10.0.0.10" 19133, .update "third" "10.0.0.11" 19134]
    let t := cs.foldl apply (empty false)
    t.size ≤ 1 ∧ t.lookup "fourth" = some ⟨"mod_b", "*", "10.0.0.11", 19134, true⟩ := by
  intro cs t
  obtain ⟨-, -, hlookup, -, -, -, hsize⟩ := refines_mapping false cs
  exact ⟨hsize rfl, (hlookup "fourth").trans (by decide +kernel)⟩

end Table

end GameGateway.Route
