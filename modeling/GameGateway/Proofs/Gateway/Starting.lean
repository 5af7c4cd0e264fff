import GameGateway.Proofs.Gateway.Sharing

/-!
# Starting and refreshing

A new gateway starts by opening the ports of the enabled listeners and setting all routes. A refresh
of it does more: it clears routes and closes stale ports first, gives up idle ports at the end, and
opens the listeners' ports in an order that is not laid down. None of this matters when the document
is sound: there is nothing to clear or to close, no port of modules stays without a route, and no
two listeners compete for a port. So both yield the same (`start_new_eq_refresh`).

A gateway that has started fits its records, so that a further refresh changes nothing. It goes
about it in another way, though: ports of modules are open before the turn of their records comes,
and what could not be bound at the start may then be a mismatch of protocols. Both cut the ports of
a module off at the same place.
-/

namespace GameGateway

/-! ### Listeners that are wanted -/

namespace Distinct

variable {α κ : Type} [DecidableEq κ] {key : α → κ} {l l' : List α} {c : κ}

/-- What is found under a key does not depend on the order of items with distinct keys. -/
theorem find?_perm (h : Distinct key l) (hperm : l'.Perm l) :
    l'.find? (fun a => key a = c) = l.find? (fun a => key a = c) := by
  have hfind : ∀ {l : List α}, Distinct key l → ∀ x,
      l.find? (fun a => key a = c) = some x ↔ x ∈ l ∧ key x = c := by
    intro l h x
    constructor
    · intro hx
      exact ⟨List.mem_of_find?_eq_some hx, by simpa using List.find?_some hx⟩
    · rintro ⟨hx, rfl⟩
      exact h.find?_eq_some hx
  have h' : Distinct key l' := (hperm.pairwise_iff fun hne => hne.symm).mpr h
  refine Option.ext fun x => ?_
  rw [hfind h', hfind h, hperm.mem_iff]

end Distinct

namespace Gateway

variable {config : Config} {machine : Machine} {panel : Panel} {p q ports : Ports} {k : UInt16}
  {order : List Listener}

/-- With distinct identifiers, all listeners that are enabled are wanted. -/
theorem wantedListeners_eq_filter {listeners : List Listener} (h : Distinct (·.id) listeners) :
    wantedListeners listeners = listeners.filter (·.enabled) := by
  induction listeners with
  | nil => rfl
  | cons l rest ih =>
    obtain ⟨hl, hrest⟩ := List.pairwise_cons.mp h
    have hunique : (rest.filter (·.enabled)).all (·.id ≠ l.id) = true := by
      refine List.all_eq_true.mpr fun a ha => decide_eq_true ?_
      exact (hl a (List.mem_filter.mp ha).1).symm
    rw [wantedListeners, ih hrest, List.filter_cons]
    simp only [hunique, Bool.and_true]

/-! ### Starting a new gateway -/

theorem keepPorts_empty : keepPorts panel {} = {} :=
  Ports.ext_get? (fun k => by rw [get?_keepPorts_empty]; simp [Ports.get?]) rfl

/-- Evicting leaves busy ports as they are. -/
theorem evict_eq_self (h : p.Busy) : p.evict = p := by
  refine Ports.ext_get? (fun k => Option.ext fun e => ?_) ?_
  · exact Ports.get?_close_eq_some.trans (and_iff_left_of_imp (h k e))
  · refine List.filter_eq_self.mpr fun socket _ => ?_
    rw [Bool.not_eq_true', Bool.eq_false_iff, Ne, Ports.releases_iff]
    rintro ⟨k, e, he, hidle, -⟩
    rw [h k e he] at hidle
    cases hidle

/-- **A new gateway starts as a refresh would have it**, if no two listeners have one identifier. -/
theorem start_new_eq_refresh {store : Store} (h : Distinct (·.id) store.panel.listeners) :
    (new config store).start machine = (new config store).refresh machine := by
  have hports : reconcile config machine store.panel {} =
      restoreAll config machine store.panel
        (openListeners config machine (store.panel.listeners.filter (·.enabled)) {}) := by
    rw [reconcile_eq, evict_eq_self busy_rebuildPorts, rebuildPorts, reopenPorts, keepPorts_empty,
      wantedListeners_eq_filter h]
  exact congrArg (fun ports => { new config store with ports }) hports.symm

/-! ### The order in which listeners are opened -/

/-- A refresh that opens the listeners' ports in a given order. -/
def refreshIn (machine : Machine) (order : List Listener) (g : Gateway) : Gateway :=
  let ports := openListeners g.config machine order (keepPorts g.panel g.ports)
  { g with ports := (restoreAll g.config machine g.panel ports).evict }

theorem refreshIn_wantedListeners {g : Gateway} :
    g.refreshIn machine (wantedListeners g.panel.listeners) = g.refresh machine :=
  rfl

/-- Setting all routes depends on the entries of the ports only. -/
theorem get?_restoreAll_congr (hp : p.Lawful config) (hq : q.Lawful config)
    (h : ∀ k, p.get? k = q.get? k) (k : UInt16) :
    (restoreAll config machine panel p).get? k = (restoreAll config machine panel q).get? k := by
  have hempty : ∀ k e, Ports.get? {} k = some e → e.origin = .module :=
    fun k e he => by simp [Ports.get?] at he
  exact Ports.Respects.get?_congr (fun _ _ => Ports.respects_foldl
    (respects_restore Ports.refit_empty hempty panel) (fun _ _ => builds_restore) panel.servers)
    hp hq h k

/-- **The order in which listeners are opened does not matter** when no two have the same port. -/
theorem routes_refreshIn {g : Gateway} (hl : g.ports.Lawful g.config) (hsound : g.panel.Sound)
    (hperm : order.Perm (wantedListeners g.panel.listeners)) :
    (g.refreshIn machine order).routes = (g.refresh machine).routes := by
  have hkept : (keepPorts g.panel g.ports).Lawful g.config := lawful_keepPorts hl
  have hwanted : Distinct (·.port) (wantedListeners g.panel.listeners) := by
    rw [wantedListeners_eq_filter hsound.listeners]
    exact List.Pairwise.sublist List.filter_sublist hsound.ports
  have hopened : ∀ k, (openListeners g.config machine order (keepPorts g.panel g.ports)).get? k =
      (reopenPorts g.config machine g.panel g.ports).get? k := by
    intro k
    rw [reopenPorts, get?_openListeners hkept, get?_openListeners hkept, hwanted.find?_perm hperm]
  have hrestored : ∀ k,
      (restoreAll g.config machine g.panel (openListeners g.config machine order
        (keepPorts g.panel g.ports))).get? k =
      (restoreAll g.config machine g.panel (reopenPorts g.config machine g.panel g.ports)).get? k :=
    get?_restoreAll_congr ((builds_openListeners order).keeps hkept).1
      ((builds_openListeners (wantedListeners g.panel.listeners)).keeps hkept).1 hopened
  refine Std.ExtTreeMap.ext_getElem? fun k => ?_
  rw [getElem?_routes, getElem?_routes]
  refine congrArg _ ?_
  change ((restoreAll g.config machine g.panel _).evict).get? k =
    ((rebuildPorts g.config machine g.panel g.ports).evict).get? k
  rw [Ports.evict, Ports.get?_close, hrestored k, Ports.evict, Ports.get?_close]
  rfl

/-! ### The agreement -/

/-- **Starting and refreshing agree** on every document that changes have made of the empty one, on
any machine: a new gateway has the same routes after either, and a refresh of one that has started
changes none, whatever the order in which it opens the ports of listeners. -/
theorem start_agrees_with_refresh (config : Config) (path : Option Path) (disk : Disk)
    (turns : List Store.Turn) (machine : Machine) :
    let g := new config (({ panel := .empty, path, disk } : Store).after turns)
    (g.start machine).routes = (g.refresh machine).routes ∧
    ((g.start machine).refresh machine).routes = (g.start machine).routes ∧
    ∀ order, order.Perm (wantedListeners g.panel.listeners) →
      (g.refreshIn machine order).routes = (g.start machine).routes ∧
      ((g.start machine).refreshIn machine order).routes = (g.start machine).routes := by
  intro g
  have hsound : g.panel.Sound := Store.sound_after _ (.inl rfl) turns
  have hstart : g.start machine = g.refresh machine := start_new_eq_refresh hsound.listeners
  have hl : g.ports.Lawful g.config := Ports.lawful_empty
  have hfits : g.Fits machine := fits_of_routes_eq hl rfl
  have hagain : ((g.refresh machine).refresh machine).routes = (g.refresh machine).routes := by
    rw [routes, routes, hfits.refresh_refresh hl]
  rw [hstart]
  refine ⟨rfl, hagain, fun order hperm => ⟨?_, ?_⟩⟩
  · exact routes_refreshIn hl hsound hperm
  · have hl' : (g.refresh machine).ports.Lawful (g.refresh machine).config :=
      (keeps_refresh.2 hl).1
    exact (routes_refreshIn hl' hsound hperm).trans hagain

/-- A port that is taken on the machine for the one transport is opened for a module that uses the
other. After that it is a mismatch for a module that could not have it before. -/
theorem start_agrees_with_refresh_on_taken_port :
    let main : Listener := { id := ⟨.ofNat 1⟩, port := 25565, name := "main" }
    let spare : Listener := { id := ⟨.ofNat 2⟩, port := 25566, name := "spare" }
    let lobby : Server := {
      id := ⟨.ofNat 3⟩, name := "lobby", container := some "lobby", status := .running
      listener := some spare.id }
    let web : Module := {
      id := ⟨.ofNat 4⟩, server := lobby.id, name := "web"
      ports := [{ listenPort := 25565, backendPort := 80, tag := "tcp" },
        { listenPort := 8000, backendPort := 80, tag := "http" }] }
    let voice : Module := {
      id := ⟨.ofNat 5⟩, server := lobby.id, name := "voice"
      ports := [{ listenPort := 25565, backendPort := 90, tag := "udp" }] }
    let machine : Machine := {
      address := fun _ _ => .ok (.v4 #v[172, 18, 0, 2])
      bindFault := fun socket => if socket = ⟨.tcp, 25565⟩ then some .inUse else none }
    let turns := [.change (.saveListener main), .change (.saveListener spare),
      .change (.saveServer lobby), .change (.saveModule web), .change (.saveModule voice)]
    let g := new {} (({ panel := .empty, path := none, disk := {} } : Store).after turns)
    let order := [spare, main]
    (g.addModule machine web lobby).1 = .error (.bind (g.config.address 25565) .inUse) ∧
      ((g.start machine).addModule machine web lobby).1 =
        .error (.protocolMismatch 25565 .udp .tcp) ∧
      (g.start machine).ports.numbers = [25565, 25566] ∧
      order ≠ wantedListeners g.panel.listeners ∧
      order.Perm (wantedListeners g.panel.listeners) ∧
      ((g.start machine).refreshIn machine order).routes = (g.start machine).routes :=
  have hperm : List.Perm _ _ := by decide +kernel
  ⟨by decide +kernel, by decide +kernel, by decide +kernel, by decide +kernel, hperm,
    ((start_agrees_with_refresh {} none {} _ _).2.2 _ hperm).2⟩

end Gateway

end GameGateway
