import GameGateway.Proofs.Except
import GameGateway.Proofs.Gateway.Moves
import Mathlib.Data.List.Induction

/-!
# Listeners with two ports

A port is opened for a listener if no one has it. Whether the listener has another one is not asked,
as it may when its record has been given another port meanwhile. So ports are unshared as long as
each turn is **orderly**, which is to say that none opens a port for a listener that has another one
or is opened another one at once (`unshared_iff_orderly`); all turns are when the records of the run
have each listener on one port. A refresh closes the ports that listeners are no longer to have
before it opens others, and leaves unshared ports whatever they were before.
-/

namespace GameGateway

namespace Ports

variable {config : Gateway.Config} {p p' : Ports}

/-- Moves that open no port for a listener leave ports unshared. -/
theorem Unshared.moves (hu : p.Unshared) (h : p.Moves config (fun _ _ => False) p') :
    p'.Unshared := by
  intro k k' id hk hk'
  exact hu k k' id ((h.listenerAt hk).resolve_right not_false)
    ((h.listenerAt hk').resolve_right not_false)

/-- Ports to which others are added for listeners are unshared when none of these listeners has one
already or gets two. -/
theorem Unshared.iff_of_added (hu : p.Unshared) {added : UInt16 → Option ListenerId}
    (h : ∀ k id, p'.listenerAt k = some id ↔ p.listenerAt k = some id ∨ added k = some id) :
    p'.Unshared ↔ ∀ k id, added k = some id →
      ∀ k', p.listenerAt k' = some id ∨ added k' = some id → k' = k := by
  constructor
  · intro hu' k id hk k' hk'
    exact hu' k' k id ((h k' id).mpr hk') ((h k id).mpr (.inr hk))
  · intro horderly k k' id hk hk'
    rcases (h k id).mp hk with hp | hadded
    · rcases (h k' id).mp hk' with hp' | hadded'
      · exact hu k k' id hp hp'
      · exact horderly k' id hadded' k (.inl hp)
    · exact (horderly k id hadded k' ((h k' id).mp hk')).symm

end Ports

namespace Gateway

variable {config : Config} {machine : Machine} {panel : Panel} {p ports : Ports} {g : Gateway}
  {l : Listener} {k : UInt16} {id : ListenerId}

/-! ### Opening listeners -/

/-- A listener gets its port if no one has it and the machine is not in the way. -/
theorem get?_tryListener (h : p.Lawful config) : (tryListener config machine p l).get? k =
    if l.port = k ∧ p.get? k = none ∧
        machine.bindFault ⟨Protocol.minecraft.transport, k⟩ = none then
      some (.opened (.listener l.id) .minecraft (config.address k))
    else p.get? k := by
  rw [tryListener_eq]
  by_cases hk : l.port = k
  · subst hk
    cases hfree : p.get? l.port with
    | some e => simp [hfree]
    | none =>
      dsimp only
      rw [Ports.openPort_address, h.bindFault_eq hfree]
      cases hfault : machine.bindFault ⟨Protocol.minecraft.transport, l.port⟩ with
      | some cause => simp [hfree]
      | none => simp [Ports.get?]
  · rw [if_neg fun hcond => hk hcond.1]
    split
    · rfl
    · split
      · next hok => rw [Ports.get?_openPort hok, if_neg hk]
      · rfl

/-- Of the listeners on a port, the first gets it. -/
theorem get?_openListeners (h : p.Lawful config) (listeners : List Listener) :
    (openListeners config machine listeners p).get? k =
      if p.get? k = none ∧ machine.bindFault ⟨Protocol.minecraft.transport, k⟩ = none then
        (listeners.find? (·.port = k)).map fun l =>
          .opened (.listener l.id) .minecraft (config.address k)
      else p.get? k := by
  induction listeners generalizing p with
  | nil =>
    split
    · next hcond => exact hcond.1
    · rfl
  | cons l rest ih =>
    have htry : (tryListener config machine p l).get? k = _ := get?_tryListener h
    rw [openListeners, List.foldl_cons, ← openListeners, ih (builds_tryListener.keeps h).1,
      List.find?_cons]
    by_cases hfree : p.get? k = none ∧
        machine.bindFault ⟨Protocol.minecraft.transport, k⟩ = none
    · by_cases hk : l.port = k
      · simp [htry, hfree, hk]
      · simp [htry, hfree, hk]
    · rw [if_neg fun hcond => hfree hcond.2] at htry
      rw [htry, if_neg hfree, if_neg hfree]

/-! ### The ports that a turn opens -/

/-- The listener that a port is **added** for, if adding it succeeds and opens the port. -/
def added? (machine : Machine) (g : Gateway) (l : Listener) (k : UInt16) : Option ListenerId :=
  if l.port = k ∧ l.enabled = true ∧ (g.addListener machine l).1 = .ok () then some l.id else none

/-- The listener that a port is **opened** for in a turn other than a refresh, if it is. -/
def opened? (g : Gateway) (turn : Turn) (k : UInt16) : Option ListenerId :=
  match turn with
  | .call machine .start =>
    if g.ports.get? k = none ∧ machine.bindFault ⟨Protocol.minecraft.transport, k⟩ = none then
      ((g.panel.listeners.filter (·.enabled)).find? (·.port = k)).map (·.id)
    else none
  | .call machine (.addListener l) => g.added? machine l k
  | .call machine (.event (.listenerCreated id _)) =>
    (g.panel.listener? id).bind fun l => g.added? machine l k
  | _ => none

/-- A turn is **orderly** when no listener that it opens a port for has another one or is opened
another one. -/
def Orderly (g : Gateway) (turn : Turn) : Prop :=
  ∀ k id, g.opened? turn k = some id →
    ∀ k', g.ports.listenerAt k' = some id ∨ g.opened? turn k' = some id → k' = k

theorem orderly_of_none {turn : Turn} (h : ∀ k, g.opened? turn k = none) : g.Orderly turn := by
  intro k id hk
  rw [h k] at hk
  cases hk

theorem listenerAt_start (h : g.ports.Lawful g.config) :
    (g.start machine).ports.listenerAt k = some id ↔
      g.ports.listenerAt k = some id ∨ g.opened? (.call machine .start) k = some id := by
  refine leads_restoreAll.listenerAt.trans ?_
  rw [Ports.listenerAt, get?_openListeners h, opened?]
  split
  · next hcond =>
    rw [Ports.listenerAt, hcond.1, Option.bind_none, Option.bind_map,
      or_iff_right (Option.some_ne_none id).symm, Option.map_eq_bind]
    rfl
  · rw [or_iff_left (Option.some_ne_none id).symm]
    rfl

/-- **Adding a listener** takes a port that no one has, and opens it if the listener is enabled; or
else it fails and changes no port. -/
theorem addListener_cases (machine : Machine) (g : Gateway) (l : Listener) :
    ((g.addListener machine l).1 ≠ .ok () ∧
      ∀ k, (g.addListener machine l).2.ports.get? k = g.ports.get? k) ∨
    ((g.addListener machine l).1 = .ok () ∧ g.ports.get? l.port = none ∧
      ∀ k, (g.addListener machine l).2.ports.get? k =
        if l.port = k ∧ l.enabled = true then
          some (.opened (.listener l.id) .minecraft (g.config.address l.port))
        else g.ports.get? k) := by
  unfold addListener
  cases hfree : g.ports.contains l.port with
  | true => exact .inl ⟨nofun, fun _ => rfl⟩
  | false =>
    have hnone := Ports.get?_eq_none_of_contains hfree
    have hopened : ∀ ports, (if l.enabled then openListener g.config machine l g.ports
        else .ok g.ports) = .ok ports → ∀ k, ports.get? k =
          if l.port = k ∧ l.enabled = true then
            some (.opened (.listener l.id) .minecraft (g.config.address l.port))
          else g.ports.get? k := by
      intro ports hok k
      cases henabled : l.enabled with
      | false =>
        rw [henabled] at hok
        obtain rfl := Except.ok.inj hok
        simp
      | true =>
        rw [henabled, if_pos rfl, openListener, hfree] at hok
        rw [Ports.get?_openPort hok]
        simp
    simp only [Bool.false_eq_true, if_false]
    split
    · exact .inl ⟨nofun, fun _ => rfl⟩
    · next ports hok =>
      have hports := hopened ports hok
      split
      · exact .inr ⟨rfl, hnone, hports⟩
      · refine .inl ⟨nofun, fun k => ?_⟩
        -- the port is given up again
        rw [Ports.closePort, Ports.get?_close, hports]
        by_cases hk : l.port = k
        · subst hk
          rw [hnone]
          simp
        · rw [if_neg fun hcond => hk hcond.1]
          cases hget : g.ports.get? k with
          | none => rfl
          | some e => simp [Ne.symm hk]

theorem listenerAt_addListener :
    (g.addListener machine l).2.ports.listenerAt k = some id ↔
      g.ports.listenerAt k = some id ∨ g.added? machine l k = some id := by
  rw [Ports.listenerAt, added?]
  rcases addListener_cases machine g l with
    ⟨herror, hget⟩ | ⟨hok, hfree, hget⟩
  · rw [hget, if_neg fun hcond => herror hcond.2.2, or_iff_left (Option.some_ne_none id).symm]
    rfl
  · rw [hget]
    by_cases hcond : l.port = k ∧ l.enabled = true
    · rw [if_pos hcond, if_pos ⟨hcond.1, hcond.2, hok⟩, Ports.listenerAt, ← hcond.1, hfree,
        Option.bind_none, or_iff_right (Option.some_ne_none id).symm]
      rfl
    · rw [if_neg hcond, if_neg fun h => hcond ⟨h.1, h.2.1⟩,
        or_iff_left (Option.some_ne_none id).symm]
      rfl

/-! ### Turns -/

/-- A refresh leaves unshared ports, whatever they were. -/
theorem unshared_refresh : (g.refresh machine).ports.Unshared := by
  have hmoves : (reopenPorts g.config machine g.panel g.ports).Moves g.config (fun _ _ => False)
      (reconcile g.config machine g.panel g.ports) :=
    .trans moves_restoreAll Ports.moves_close
  exact unshared_reopenPorts.moves hmoves

theorem opened?_event {e : Event} (h : ¬∃ id port, e = .listenerCreated id port) :
    g.opened? (.call machine (.event e)) k = none := by
  cases e with
  | listenerCreated id port => exact absurd ⟨id, port, rfl⟩ h
  | _ => rfl

/-- The event of a listener's creation opens what adding the listener of the store opens. -/
theorem listenerAt_listenerCreated {id' : ListenerId} {port : UInt16} :
    (g.applyEvent machine (.listenerCreated id port)).2.ports.listenerAt k = some id' ↔
      g.ports.listenerAt k = some id' ∨
        g.opened? (.call machine (.event (.listenerCreated id port))) k = some id' := by
  rw [applyEvent, opened?]
  cases g.panel.listener? id with
  | none => exact (or_iff_left (Option.some_ne_none id').symm).symm
  | some l => exact listenerAt_addListener

/-- **A turn leaves ports unshared exactly when it is orderly.** -/
theorem unshared_take_iff (h : g.ports.Lawful g.config) (hu : g.ports.Unshared) (turn : Turn) :
    (g.take turn).ports.Unshared ↔ g.Orderly turn := by
  have hmoves : ∀ g', g.Moves (fun _ _ => False) g' → (∀ k, g.opened? turn k = none) →
      (g'.ports.Unshared ↔ g.Orderly turn) := fun g' hg' hnone =>
    iff_of_true (hu.moves hg'.2) (orderly_of_none hnone)
  cases turn with
  | store s => exact hmoves _ .refl fun _ => rfl
  | call machine call =>
    cases call with
    | start => exact hu.iff_of_added fun _ _ => listenerAt_start h
    | stop => exact hmoves _ moves_stop fun _ => rfl
    | refresh => exact iff_of_true unshared_refresh (orderly_of_none fun _ => rfl)
    | addListener l => exact hu.iff_of_added fun _ _ => listenerAt_addListener
    | removeListener port => exact hmoves _ moves_removeListener fun _ => rfl
    | updateServer s => exact hmoves _ moves_updateServer fun _ => rfl
    | removeServer id => exact hmoves _ moves_removeServer fun _ => rfl
    | removeHostname hostname listener => exact hmoves _ moves_removeHostname fun _ => rfl
    | addModule m s => exact hmoves _ moves_addModule fun _ => rfl
    | updateModule m s => exact hmoves _ moves_updateModule fun _ => rfl
    | removeModule id => exact hmoves _ moves_removeModule fun _ => rfl
    | event e =>
      by_cases hcreated : ∃ id port, e = .listenerCreated id port
      · obtain ⟨id, port, rfl⟩ := hcreated
        exact hu.iff_of_added fun _ _ => listenerAt_listenerCreated
      · have hother : g.Moves (fun _ _ => False) (g.applyEvent machine e).2 :=
          moves_applyEvent e fun id port he => absurd ⟨id, port, he⟩ hcreated
        exact hmoves _ hother fun _ => opened?_event hcreated

/-! ### Runs -/

theorem after_append {turns turns' : List Turn} :
    g.after (turns ++ turns') = (g.after turns).after turns' :=
  List.foldl_append

/-- The charter by which each listener has a port of its own. -/
def assigned (portOf : ListenerId → UInt16) : Charter where
  opens port id := port = portOf id
  routes _ _ _ := True

theorem unshared_of_assigned {store : Store} {turns : List Turn} {portOf : ListenerId → UInt16}
    (h : ∀ panel ∈ records store turns, ∀ l ∈ panel.listeners, l.port = portOf l.id) :
    ((new config store).after turns).ports.Unshared := by
  have hadmits : ∀ panel ∈ records store turns, (assigned portOf).Admits config panel :=
    fun panel hpanel => ⟨h panel hpanel, fun _ _ _ _ _ => trivial, fun _ _ _ _ _ _ _ => trivial⟩
  have hobeys := (obeys_after hadmits).ports
  intro k k' id hk hk'
  obtain ⟨e, he, hid⟩ := Ports.listenerAt_eq_some.mp hk
  obtain ⟨e', he', hid'⟩ := Ports.listenerAt_eq_some.mp hk'
  exact ((hobeys.within he).opened hid).trans ((hobeys.within he').opened hid').symm

/-- **When no listener has two ports.** Through a whole run none has just when each turn is orderly
where it is taken, as all are if the records of the run have each listener on one port. Whatever the
run was, none has two after a refresh. -/
theorem unshared_iff_orderly (config : Config) (store : Store) (turns : List Turn) :
    ((∀ earlier later, turns = earlier ++ later →
        ((new config store).after earlier).ports.Unshared) ↔
      ∀ earlier turn later, turns = earlier ++ turn :: later →
        ((new config store).after earlier).Orderly turn) ∧
    (∀ portOf : ListenerId → UInt16,
      (∀ panel ∈ records store turns, ∀ l ∈ panel.listeners, l.port = portOf l.id) →
      ((new config store).after turns).ports.Unshared) ∧
    ∀ machine, (((new config store).after turns).refresh machine).ports.Unshared := by
  have hstep : ∀ earlier turn, ((new config store).after earlier).ports.Unshared →
      (((new config store).after (earlier ++ [turn])).ports.Unshared ↔
        ((new config store).after earlier).Orderly turn) := by
    intro earlier turn hu
    have hl : ((new config store).after earlier).ports.Lawful _ :=
      Reachable.lawful ⟨config, store, earlier, rfl⟩
    rw [after_append]
    exact unshared_take_iff hl hu turn
  refine ⟨⟨fun h earlier turn later heq => ?_, fun h => ?_⟩, fun _ => unshared_of_assigned,
    fun _ => unshared_refresh⟩
  · refine (hstep earlier turn (h earlier _ heq)).mp (h (earlier ++ [turn]) later ?_)
    rw [heq, List.append_assoc]
    rfl
  · intro earlier
    induction earlier using List.reverseRecOn with
    | nil =>
      intro _ _ k k' id hk
      simp [after, new, Ports.listenerAt, Ports.get?] at hk
    | append_singleton earlier turn ih =>
      intro later heq
      rw [List.append_assoc] at heq
      exact (hstep earlier turn (ih _ heq)).mpr (h earlier turn later heq)

/-- Two listeners that stay on their ports have no other ones. -/
theorem unshared_after_adding :
    let machine : Machine := {
      address := fun _ _ => .error .unknown, bindFault := fun _ => none }
    let main : Listener := { id := ⟨.ofNat 1⟩, port := 25565, name := "main" }
    let spare : Listener := { id := ⟨.ofNat 2⟩, port := 25566, name := "spare" }
    let store := Store.ofPanel { version := 1, listeners := [main] }
    let turns := [.call machine .start, .call machine (.addListener spare)]
    let g := (new {} store).after turns
    g.ports.numbers = [25565, 25566] ∧ g.ports.Unshared := by
  intro machine main spare store turns g
  have h := (unshared_iff_orderly {} store turns).2.1 fun id =>
    if id = main.id then 25565 else 25566
  exact ⟨by decide +kernel, h (by decide +kernel)⟩

/-- A listener whose record has moved to another port has two, from the event of its creation until
a refresh. -/
theorem not_unshared_of_moved :
    let machine : Machine := {
      address := fun _ _ => .error .unknown, bindFault := fun _ => none }
    let main : Listener := { id := ⟨.ofNat 1⟩, port := 25565, name := "main" }
    let store := Store.ofPanel { version := 1, listeners := [main] }
    let g := (new {} store).after [
      .call machine .start, .store (store.saveListener { main with port := 25566 }).2,
      .call machine (.event (.listenerCreated main.id 25566))]
    g.ports.listenerAt 25565 = some main.id ∧ g.ports.listenerAt 25566 = some main.id ∧
      ¬g.ports.Unshared ∧ (g.refresh machine).ports.numbers = [25566] := by
  intro machine main store g
  have hold : g.ports.listenerAt 25565 = some main.id := by decide +kernel
  have hnew : g.ports.listenerAt 25566 = some main.id := by decide +kernel
  refine ⟨hold, hnew, fun hu => ?_, by decide +kernel⟩
  exact absurd (hu 25565 25566 main.id hold hnew) (by decide)

end Gateway

end GameGateway
