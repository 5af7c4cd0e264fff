import GameGateway.Proofs.Gateway.Service
import GameGateway.Proofs.Store.Records

/-!
# Removing listeners

Removing the listener of a port finds it by the port, which was opened for it or, if it is not open,
is that of its record. What can happen then is one of two things (`removeListener_cases`).
-/

namespace GameGateway

namespace Store

variable {s s' : Store} {cause : StoreError} {id : ListenerId}

/-! ### What a failure leaves of a store -/

/-- A store is **spared** by a failure when its document is what it was, and all of it is unless the
disk is what has failed. -/
structure Spared (cause : StoreError) (s s' : Store) : Prop where
  panel : s'.panel = s.panel
  eq : (∀ path io, cause ≠ .io path io) → s' = s

theorem Spared.refl : s.Spared cause s :=
  ⟨rfl, fun _ => rfl⟩

theorem spared_of_commit_eq_error {α : Type} {result : α} {panel : Panel}
    (h : s.commit result panel = (.error cause, s')) : s.Spared cause s' where
  panel := panel_of_commit_eq_error h
  eq hother := by
    obtain ⟨path, io, hio⟩ := io_of_commit_eq_error (congrArg Prod.fst h)
    exact absurd hio (hother path io)

theorem spared_of_change_eq_error {result : Except RecordError Panel}
    (h : s.change result = (.error cause, s')) : s.Spared cause s' := by
  unfold change at h
  split at h
  · obtain ⟨-, rfl⟩ := Prod.mk.inj h
    exact .refl
  · exact spared_of_commit_eq_error h

theorem spared_of_takeAway_eq_error {α : Type} {result : Except RecordError (α × Panel)}
    (h : s.takeAway result = (.error cause, s')) : s.Spared cause s' := by
  unfold takeAway at h
  split at h
  · obtain ⟨-, rfl⟩ := Prod.mk.inj h
    exact .refl
  · exact spared_of_commit_eq_error h

/-! ### What deleting a listener does to a store -/

theorem panel_of_deleteListener_eq_ok {l : Listener} (h : s.deleteListener id = (.ok l, s')) :
    s'.panel = { s.panel with listeners := s.panel.listeners.eraseP (·.id = id) } :=
  (Panel.deleteListener_eq_ok_iff.mp (of_takeAway_eq_ok h)).2.2

/-- A store tells that a listener is not there only if that is so. -/
theorem listener?_of_deleteListener {other : ListenerId}
    (h : (s.deleteListener id).1 = .error (.refused (.listenerNotFound other))) :
    s.panel.listener? id = none := by
  have hdelete : s.panel.deleteListener id = .error (.listenerNotFound other) :=
    takeAway_eq_refused_iff.mp h
  unfold Panel.deleteListener at hdelete
  split at hdelete
  · cases hdelete
  · assumption
  · cases hdelete

end Store

namespace Gateway

variable {machine : Machine} {g : Gateway} {id other : ListenerId} {port : UInt16}

/-! ### What removing a listener does to a gateway -/

/-- The listener of a port is the one that the port was opened for, or has a record for a port that
is not open. -/
theorem listenerOn?_cases (h : g.listenerOn? port = some other) :
    g.ports.listenerAt port = some other ∨
      g.ports.get? port = none ∧ ∃ l ∈ g.panel.listeners, l.port = port ∧ l.id = other := by
  unfold listenerOn? at h
  split at h
  · next he =>
    rw [Ports.listenerAt, he]
    exact .inl h
  · next hfree =>
    obtain ⟨l, hfind, hid⟩ := Option.map_eq_some_iff.mp h
    have hport := List.find?_some hfind
    exact .inr ⟨hfree, l, List.mem_of_find?_eq_some hfind, of_decide_eq_true hport, hid⟩

theorem removeListener_of_none (h : g.listenerOn? port = none) :
    g.removeListener port = (.error (.portNotFound port), g) := by
  rw [removeListener, h]

/-- **Removing the listener of a port** deletes its record, if there is one, and closes the port, or
else fails and changes neither. -/
theorem removeListener_cases (h : g.listenerOn? port = some other) : ∃ store : Store,
    (g.removeListener port = (.ok (), { g with store, ports := g.ports.closePort port }) ∧
      store.panel = { g.panel with listeners := g.panel.listeners.eraseP (·.id = other) }) ∨
    ∃ cause, g.removeListener port = (.error (.store cause), { g with store }) ∧
      store.panel = g.panel := by
  rw [removeListener, h]
  dsimp only
  split
  · next store hdelete =>
    exact ⟨store, .inl ⟨rfl, Store.panel_of_deleteListener_eq_ok hdelete⟩⟩
  · next store hdelete =>
    have hnone := Store.listener?_of_deleteListener (congrArg Prod.fst hdelete)
    have herased : g.panel.listeners.eraseP (·.id = other) = g.panel.listeners :=
      List.eraseP_of_forall_not (List.find?_eq_none.mp hnone)
    refine ⟨store, .inl ⟨rfl, (Store.spared_of_takeAway_eq_error hdelete).panel.trans ?_⟩⟩
    rw [herased]
    rfl
  · next cause store _ hdelete =>
    exact ⟨store, .inr ⟨cause, rfl, (Store.spared_of_takeAway_eq_error hdelete).panel⟩⟩

/-- The event of a deletion removes the listener of its port, if that has one. -/
theorem applyEvent_listenerDeleted : g.applyEvent machine (.listenerDeleted id port) =
    match g.listenerOn? port with
    | none => (.ok (), g)
    | some _ => g.removeListener port := by
  rw [applyEvent]
  cases hon : g.listenerOn? port with
  | none => rw [removeListener_of_none hon]
  | some other =>
    obtain ⟨store, ⟨heq, -⟩ | ⟨cause, heq, -⟩⟩ := removeListener_cases hon
    · rw [heq]
    · rw [heq]

end Gateway

end GameGateway
