import GameGateway.Proofs.Except
import GameGateway.Proofs.Gateway.Provenance

/-!
# The deletion of a listener

The event of a deletion names the listener and the port that it had, but the gateway removes
whichever listener has the port by then. So other listeners are spared exactly when the port is not
another's, or its removal is refused (`sparesListeners_listenerDeleted_iff`). The port cannot be
another's behind a run whose records have no other listener on it.
-/

namespace GameGateway

/-! ### Erasing and filtering -/

/-- Erasing an item that a filter leaves out does not change what the filter keeps. -/
theorem filter_eraseP {α : Type} {p f : α → Bool} {l : List α}
    (h : ∀ a, p a = true → f a = false) : (l.eraseP p).filter f = l.filter f := by
  rcases List.exists_or_eq_self_of_eraseP p l with heq | ⟨a, l₁, l₂, -, ha, rfl, heq⟩
  · rw [heq]
  · rw [heq, List.filter_append, List.filter_append, List.filter_cons_of_neg]
    rw [h a ha]
    exact Bool.false_ne_true

/-- Erasing an item that a filter keeps changes what it keeps. -/
theorem filter_eraseP_ne {α : Type} {p f : α → Bool} {l : List α} {a : α}
    (h : ∀ a, p a = true → f a = true) (hmem : a ∈ l) (ha : p a = true) :
    (l.eraseP p).filter f ≠ l.filter f := by
  intro heq
  have hp : (fun x => p x && f x) = p := by
    funext x
    cases hx : p x with
    | false => rfl
    | true => rw [h x hx, Bool.true_and]
  have herased := List.eraseP_filter (p := p) (f := f) (l := l)
  rw [hp, heq] at herased
  exact List.eraseP_eq_self_iff.mp herased a (List.mem_filter.mpr ⟨hmem, h a ha⟩) ha

namespace Gateway

variable {config : Config} {store : Store} {g : Gateway} {id other : ListenerId} {port : UInt16}

/-! ### Sparing listeners -/

/-- A gateway becomes another one and **spares** all listeners but one when the records of those
stay in place, and their ports stay open. -/
structure SparesListeners (id : ListenerId) (g g' : Gateway) : Prop where
  records : g'.panel.listeners.filter (·.id ≠ id) = g.panel.listeners.filter (·.id ≠ id)
  ports : ∀ k e other, g.ports.get? k = some e → e.origin = .listener other → other ≠ id →
    g'.ports.get? k = some e ∧ e.running = true

theorem sparesListeners_of_eq (hl : g.ports.Lawful g.config) (hpanel : store.panel = g.panel) :
    g.SparesListeners id { g with store } where
  records := congrArg (fun panel => panel.listeners.filter (·.id ≠ id)) hpanel
  ports _ _ _ he _ _ := ⟨he, (hl.entry he).running⟩

/-- A listener that is removed from its port spares the others. -/
theorem sparesListeners_of_erased (hl : g.ports.Lawful g.config)
    (hon : g.listenerOn? port = some id)
    (hpanel : store.panel = { g.panel with listeners := g.panel.listeners.eraseP (·.id = id) }) :
    g.SparesListeners id { g with store, ports := g.ports.closePort port } where
  records := by
    change store.panel.listeners.filter _ = _
    rw [hpanel]
    exact filter_eraseP fun a ha => decide_eq_false fun hne => hne (of_decide_eq_true ha)
  ports k e other he horigin hne := by
    refine ⟨Ports.get?_close_eq_some.mpr ⟨he, decide_eq_false ?_⟩, (hl.entry he).running⟩
    -- the port was not opened for the listener that is removed
    rintro rfl
    rcases listenerOn?_cases hon with hat | ⟨hfree, -⟩
    · rw [Ports.listenerAt_eq_some.mpr ⟨e, he, horigin⟩] at hat
      exact hne (Option.some.inj hat)
    · rw [he] at hfree
      cases hfree

/-- A listener that is removed from its port is not spared. -/
theorem not_sparesListeners_of_erased (hon : g.listenerOn? port = some other) (hne : other ≠ id)
    (hpanel : store.panel =
      { g.panel with listeners := g.panel.listeners.eraseP (·.id = other) }) :
    ¬g.SparesListeners id { g with store, ports := g.ports.closePort port } := by
  intro hspares
  rcases listenerOn?_cases hon with hat | ⟨-, l, hl, -, rfl⟩
  · obtain ⟨e, he, horigin⟩ := Ports.listenerAt_eq_some.mp hat
    obtain ⟨hkept, -⟩ := hspares.ports port e other he horigin hne
    exact of_decide_eq_false (Ports.get?_close_eq_some.mp hkept).2 rfl
  · have hrecords : store.panel.listeners.filter (·.id ≠ id) = _ := hspares.records
    rw [hpanel] at hrecords
    refine filter_eraseP_ne (fun a ha => ?_) hl (decide_eq_true rfl) hrecords
    rw [of_decide_eq_true ha]
    exact decide_eq_true hne

/-- The charter by which no other listener is on a port. -/
def soleListener (id : ListenerId) (port : UInt16) : Charter where
  opens k other := k = port → other = id
  routes _ _ _ := True

/-- A port is no other listener's, if the records of a run have no other one on it. -/
theorem eq_of_listenerOn? {turns : List Turn}
    (h : ∀ panel ∈ records store turns, ∀ l ∈ panel.listeners, l.port = port → l.id = id)
    (hon : ((new config store).after turns).listenerOn? port = some other) : other = id := by
  have hadmits : ∀ panel ∈ records store turns, (soleListener id port).Admits config panel :=
    fun panel hpanel => ⟨h panel hpanel, fun _ _ _ _ _ => trivial, fun _ _ _ _ _ _ _ => trivial⟩
  have hobeys := obeys_after hadmits
  rcases listenerOn?_cases hon with hat | ⟨-, l, hl, hport, rfl⟩
  · obtain ⟨e, he, horigin⟩ := Ports.listenerAt_eq_some.mp hat
    exact (hobeys.ports.within he).opened horigin rfl
  · exact hobeys.panel.listeners l hl hport

/-- **Which listeners the event of a deletion spares**, after every run. It spares all others just
when, unless it fails, the port that it names is no other listener's, as it cannot be if the records
of the run have no other listener on the port. -/
theorem sparesListeners_listenerDeleted_iff (config : Config) (store : Store) (turns : List Turn)
    (machine : Machine) (id : ListenerId) (port : UInt16) :
    let g := (new config store).after turns
    let outcome := g.applyEvent machine (.listenerDeleted id port)
    (g.SparesListeners id outcome.2 ↔
      (outcome.1 = .ok () → ∀ other ∈ g.listenerOn? port, other = id)) ∧
    ((∀ panel ∈ records store turns, ∀ l ∈ panel.listeners, l.port = port → l.id = id) →
      g.SparesListeners id outcome.2) := by
  intro g outcome
  have hl : g.ports.Lawful g.config := Reachable.lawful ⟨config, store, turns, rfl⟩
  have hiff : g.SparesListeners id outcome.2 ↔
      (outcome.1 = .ok () → ∀ other ∈ g.listenerOn? port, other = id) := by
    have houtcome : outcome = _ := applyEvent_listenerDeleted
    rw [houtcome]
    cases hon : g.listenerOn? port with
    | none => exact iff_of_true (sparesListeners_of_eq hl rfl) (by rintro - _ ⟨⟩)
    | some other =>
      obtain ⟨store, ⟨heq, hpanel⟩ | ⟨cause, heq, hpanel⟩⟩ := removeListener_cases hon
      · dsimp only
        rw [heq]
        constructor
        · intro hspares _ other' hother'
          obtain rfl := Option.some.inj hother'
          refine Decidable.byContradiction fun hne => ?_
          exact not_sparesListeners_of_erased hon hne hpanel hspares
        · intro h
          obtain rfl := h rfl other rfl
          exact sparesListeners_of_erased hl hon hpanel
      · dsimp only
        rw [heq]
        exact iff_of_true (sparesListeners_of_eq hl hpanel) nofun
  exact ⟨hiff, fun h => hiff.mpr fun _ other hother => eq_of_listenerOn? h hother⟩

/-- A listener that is deleted from its port spares one on another port. -/
theorem sparesListeners_after_deletion :
    let machine : Machine := {
      address := fun _ _ => .error .unknown, bindFault := fun _ => none }
    let main : Listener := { id := ⟨.ofNat 1⟩, port := 25565, name := "main" }
    let games : Listener := { id := ⟨.ofNat 2⟩, port := 25566, name := "games" }
    let store := Store.ofPanel { version := 1, listeners := [main, games] }
    let g := (new {} store).after [.call machine .start]
    let outcome := g.applyEvent machine (.listenerDeleted main.id main.port)
    outcome.1 = .ok () ∧ outcome.2.panel.listeners = [games] ∧
      g.SparesListeners main.id outcome.2 := by
  intro machine main games store g outcome
  have h := sparesListeners_listenerDeleted_iff {} store [.call machine .start] machine main.id
    main.port
  exact ⟨by decide +kernel, by decide +kernel, h.2 (by decide +kernel)⟩

/-- The event of a listener's deletion deletes the one that has been added on its port since. -/
theorem not_sparesListeners_of_replaced :
    let machine : Machine := {
      address := fun _ _ => .error .unknown, bindFault := fun _ => none }
    let main : Listener := { id := ⟨.ofNat 1⟩, port := 25565, name := "main" }
    let games : Listener := { id := ⟨.ofNat 4⟩, port := 25565, name := "games" }
    let g := (new {} (.ofPanel { version := 1, listeners := [main] })).after [
      .call machine .start, .call machine (.removeListener 25565),
      .call machine (.addListener games)]
    let g' := (g.applyEvent machine (.listenerDeleted main.id 25565)).2
    g.panel.listeners = [games] ∧ (g.ports.get? 25565).isSome ∧ games.id ≠ main.id ∧
      g'.panel.listeners = [] ∧ g'.ports.get? 25565 = none ∧ ¬g.SparesListeners main.id g' := by
  intro machine main games g g'
  have hbefore : g.panel.listeners = [games] := by decide +kernel
  have hafter : g'.panel.listeners = [] := by decide +kernel
  refine ⟨hbefore, by decide +kernel, by decide +kernel, hafter, by decide +kernel, fun h => ?_⟩
  have hrecords := h.records
  rw [hbefore, hafter] at hrecords
  revert hrecords
  decide +kernel

end Gateway

end GameGateway
