import GameGateway.Proofs.Except
import GameGateway.Proofs.Gateway.Provenance

/-!
# What goes with the listener of a port

Removing the listener of a port deletes the record of the listener that the port was opened for.
That record may have moved to another port since, and another listener may have taken its place. So
a removal takes no more than one record of that port exactly when the record that it deletes has
the port still (`removesOnly_removeListener_iff`). All other records and ports are left in any case.
-/

namespace GameGateway

/-- Erasing the first item with a property is erasing that item. -/
theorem eraseP_eq_erase_of_find? {α : Type} [DecidableEq α] {p : α → Bool} {a : α} {l : List α}
    (h : l.find? p = some a) : l.eraseP p = l.erase a := by
  induction l with
  | nil => cases h
  | cons b l ih =>
    rw [List.find?_cons] at h
    split at h
    · next hb =>
      obtain rfl := Option.some.inj h
      rw [List.eraseP_cons_of_pos hb, List.erase_cons_head]
    · next hb =>
      have hne : b ≠ a := by
        rintro rfl
        rw [List.find?_some h] at hb
        cases hb
      rw [List.eraseP_cons_of_neg (Bool.eq_false_iff.mp hb),
        List.erase_cons_tail (mt eq_of_beq hne), ih h]

namespace Ports

theorem get?_closePort {p : Ports} {port k : UInt16} :
    (p.closePort port).get? k = if k = port then none else p.get? k := by
  rw [closePort, get?_close]
  cases p.get? k with
  | none => simp
  | some e => by_cases hk : k = port <;> simp [Option.filter, hk]

end Ports

namespace Gateway

variable {config : Config} {store : Store} {g g' : Gateway} {id : ListenerId} {port : UInt16}

/-- A gateway becomes another one and **removes only** what is on a port, when no more than one
record of a listener is gone, which has the port, and no other port has changed. -/
structure RemovesOnly (port : UInt16) (g g' : Gateway) : Prop where
  records : g'.panel = g.panel ∨ ∃ l ∈ g.panel.listeners, l.port = port ∧
    g'.panel = { g.panel with listeners := g.panel.listeners.erase l }
  ports : ∀ k, k ≠ port → g'.ports.get? k = g.ports.get? k

/-- A removal that succeeds deletes the record of the port's listener, and closes the port. -/
theorem exists_of_removeListener_eq_ok (h : (g.removeListener port).1 = .ok ()) :
    ∃ id, g.listenerOn? port = some id ∧
      (g.removeListener port).2.panel =
        { g.panel with listeners := g.panel.listeners.eraseP (·.id = id) } ∧
      (g.removeListener port).2.ports = g.ports.closePort port := by
  cases hon : g.listenerOn? port with
  | none =>
    rw [removeListener_of_none hon] at h
    cases h
  | some id =>
    obtain ⟨store, ⟨heq, hpanel⟩ | ⟨cause, heq, -⟩⟩ := removeListener_cases hon
    · rw [heq]
      exact ⟨id, rfl, hpanel, rfl⟩
    · rw [heq] at h
      cases h

/-- Deleting the record of a listener removes only what is on a port just when that record, if
there is one, has the port. -/
theorem removesOnly_iff_of_erased
    (hpanel : g'.panel = { g.panel with listeners := g.panel.listeners.eraseP (·.id = id) })
    (hports : g'.ports = g.ports.closePort port) :
    g.RemovesOnly port g' ↔ ∀ l ∈ g.panel.listener? id, l.port = port := by
  have hothers : ∀ k, k ≠ port → g'.ports.get? k = g.ports.get? k := by
    intro k hk
    rw [hports, Ports.get?_closePort, if_neg hk]
  cases hl : g.panel.listener? id with
  | none =>
    have herased : g.panel.listeners.eraseP (·.id = id) = g.panel.listeners :=
      List.eraseP_of_forall_not (List.find?_eq_none.mp hl)
    rw [herased] at hpanel
    exact iff_of_true ⟨.inl hpanel, hothers⟩ (by rintro _ ⟨⟩)
  | some l =>
    have hmem : l ∈ g.panel.listeners := List.mem_of_find?_eq_some hl
    rw [eraseP_eq_erase_of_find? hl] at hpanel
    constructor
    · rintro hremoves _ ⟨⟩
      -- the records that are gone are counted: `l` is one of them
      have hcount : 0 < g.panel.listeners.count l := List.count_pos_iff.mpr hmem
      rcases hremoves.records with hsame | ⟨l', -, hport, hsame⟩
      · have herase := congrArg Panel.listeners (hpanel.symm.trans hsame)
        have hless := congrArg (List.count l) herase
        rw [List.count_erase_self] at hless
        omega
      · have herase := congrArg Panel.listeners (hpanel.symm.trans hsame)
        have hless := congrArg (List.count l) herase
        rw [List.count_erase_self] at hless
        by_cases heq : l = l'
        · rw [heq]
          exact hport
        · rw [List.count_erase_of_ne heq] at hless
          omega
    · intro hport
      exact ⟨.inr ⟨l, hmem, hport l rfl, hpanel⟩, hothers⟩

/-- The charter by which a listener is on a port only if some record has it there. -/
def recorded (panels : List Panel) : Charter where
  opens port id := ∃ panel ∈ panels, ∃ l ∈ panel.listeners, l.port = port ∧ l.id = id
  routes _ _ _ := True

theorem admits_recorded {panels : List Panel} {panel : Panel} (h : panel ∈ panels) :
    (recorded panels).Admits config panel where
  listeners l hl := ⟨panel, h, l, hl, rfl, rfl⟩
  servers _ _ _ _ _ := trivial
  modules _ _ _ _ _ _ _ := trivial

/-- The listener of a port has a record on it, in some document of the run. -/
theorem recorded_of_listenerOn? {turns : List Turn}
    (h : ((new config store).after turns).listenerOn? port = some id) :
    (recorded (records store turns)).opens port id := by
  have hobeys : ((new config store).after turns).Obeys (recorded (records store turns)) :=
    obeys_after fun _ => admits_recorded
  rcases listenerOn?_cases h with hat | ⟨-, l, hl, rfl, rfl⟩
  · obtain ⟨e, he, horigin⟩ := Ports.listenerAt_eq_some.mp hat
    exact (hobeys.ports.within he).opened horigin
  · exact hobeys.panel.listeners l hl

/-- **What is gone when the listener of a port has been removed**, after every run. The record of
the listener on that port is, and so is the port. No other port and no other record has changed.
That record had the port if no listener has another port in the records of the run, and only then
has nothing been removed but what is on the port. -/
theorem removesOnly_removeListener_iff (config : Config) (store : Store) (turns : List Turn)
    (port : UInt16) :
    let g := (new config store).after turns
    let outcome := g.removeListener port
    outcome.1 = .ok () →
      (∃ id, g.listenerOn? port = some id ∧
        outcome.2.panel = { g.panel with listeners := g.panel.listeners.eraseP (·.id = id) } ∧
        (∀ k, outcome.2.ports.get? k = if k = port then none else g.ports.get? k) ∧
        (g.RemovesOnly port outcome.2 ↔ ∀ l ∈ g.panel.listener? id, l.port = port)) ∧
      ((∀ panel ∈ records store turns, ∀ panel' ∈ records store turns,
          ∀ l ∈ panel.listeners, ∀ l' ∈ panel'.listeners,
            l.port = port → l'.id = l.id → l'.port = port) →
        g.RemovesOnly port outcome.2) := by
  intro g outcome hok
  obtain ⟨id, hon, hpanel, hports⟩ := exists_of_removeListener_eq_ok hok
  have hiff : g.RemovesOnly port outcome.2 ↔ ∀ l ∈ g.panel.listener? id, l.port = port :=
    removesOnly_iff_of_erased hpanel hports
  refine ⟨⟨id, hon, hpanel, fun k => ?_, hiff⟩, fun hrecords => hiff.mpr fun l hl => ?_⟩
  · exact (congrArg (Ports.get? · k) hports).trans Ports.get?_closePort
  · have hobeys : g.Obeys (recorded (records store turns)) :=
      obeys_after fun _ => admits_recorded
    obtain ⟨panel, hp, l₀, hl₀, hport, hid⟩ := recorded_of_listenerOn? hon
    obtain ⟨panel', hp', l', hl', hport', hid'⟩ :=
      hobeys.panel.listeners l (List.mem_of_find?_eq_some hl)
    have hfind : g.panel.listeners.find? (·.id = id) = some l := hl
    have htest := List.find?_some hfind
    have hlid : l.id = id := of_decide_eq_true htest
    rw [← hport']
    exact hrecords panel hp panel' hp' l₀ hl₀ l' hl' hport (hid'.trans (hlid.trans hid.symm))

/-- The listener of one port of two is removed, with its record, and the other is left. -/
theorem removesOnly_after_removal :
    let machine : Machine := {
      address := fun _ _ => .error .unknown, bindFault := fun _ => none }
    let main : Listener := { id := ⟨.ofNat 1⟩, port := 25565, name := "main" }
    let games : Listener := { id := ⟨.ofNat 2⟩, port := 25566, name := "games" }
    let store := Store.ofPanel { version := 1, listeners := [main, games] }
    let g := (new {} store).after [.call machine .start]
    let outcome := g.removeListener 25565
    outcome.1 = .ok () ∧ outcome.2.panel.listeners = [games] ∧
      (outcome.2.ports.get? 25566).isSome ∧ g.RemovesOnly 25565 outcome.2 := by
  intro machine main games store g outcome
  have hok : outcome.1 = .ok () := by decide +kernel
  have h := removesOnly_removeListener_iff {} store [.call machine .start] 25565 hok
  exact ⟨hok, by decide +kernel, by decide +kernel, h.2 (by decide +kernel)⟩

/-- When the listener of a port has moved to another one and its old one has been taken by another
listener, removing the listener of the old port deletes the record that is on the new one. -/
theorem not_removesOnly_of_moved :
    let machine : Machine := {
      address := fun _ _ => .error .unknown, bindFault := fun _ => none }
    let main : Listener := { id := ⟨.ofNat 1⟩, port := 25565, name := "main" }
    let moved : Listener := { main with port := 25566 }
    let games : Listener := { id := ⟨.ofNat 2⟩, port := 25565, name := "games" }
    let before := (new {} (.ofPanel { version := 1, listeners := [main] })).after
      [.call machine .start]
    let g := before.after [
      .store (before.store.saveListener moved).2,
      .store ((before.store.saveListener moved).2.saveListener games).2]
    let outcome := g.removeListener 25565
    g.panel.listeners = [moved, games] ∧ outcome.1 = .ok () ∧
      outcome.2.panel.listeners = [games] ∧ ¬g.RemovesOnly 25565 outcome.2 := by
  intro machine main moved games before g outcome
  have hbefore : g.panel.listeners = [moved, games] := by decide +kernel
  have hok : outcome.1 = .ok () := by decide +kernel
  have hafter : outcome.2.panel.listeners = [games] := by decide +kernel
  refine ⟨hbefore, hok, hafter, fun h => ?_⟩
  obtain ⟨id, hon, hpanel, hports⟩ := exists_of_removeListener_eq_ok hok
  have hid : id = main.id := by
    have hon' : g.listenerOn? 25565 = some main.id := by decide +kernel
    exact Option.some.inj (hon.symm.trans hon')
  have hport := (removesOnly_iff_of_erased hpanel hports).mp h moved
    (by rw [hid]; decide +kernel)
  revert hport
  decide +kernel

end Gateway

end GameGateway
