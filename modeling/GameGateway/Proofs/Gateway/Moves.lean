import GameGateway.Proofs.Gateway.Provenance
import Mathlib.Logic.Relation

/-!
# What calls do to ports

Every call to a gateway changes ports by **moves** of four kinds: ports are given up, routes are
changed, and a free port is opened for a listener or for modules. So what each move keeps is kept by
all calls. Which listeners a call may open ports for is a parameter, since most calls open none.

Setting routes gives up no ports and opens none for listeners. Ports **lead** to those that come
from them so, which have the same listeners (`Leads.listenerAt`).
-/

namespace GameGateway

namespace Ports

variable {config : Gateway.Config} {machine : Machine} {opens : UInt16 → ListenerId → Prop}
  {p p' p'' : Ports} {k port : UInt16} {id : ListenerId}

/-- A **move** of ports, where ports may be opened for the listeners that `opens` tells. -/
inductive Move (config : Gateway.Config) (opens : UInt16 → ListenerId → Prop) (p : Ports) :
    Ports → Prop
  | close (closing : UInt16 → Entry → Bool) : Move config opens p (p.close closing)
  | reroute {p' : Ports} {f : UInt16 → Entry → Route.Table} (hr : Rerouted f p p')
      (hf : ∀ k e, p.get? k = some e → (f k e).virtualHosts = e.routes.virtualHosts) :
      Move config opens p p'
  | openListener {machine : Machine} {p' : Ports} {id : ListenerId} {port : UInt16}
      (hopens : opens port id) (hfree : p.get? port = none)
      (hok : p.openPort machine (.listener id) .minecraft (config.address port) = .ok p') :
      Move config opens p p'
  | openModule {machine : Machine} {p' : Ports} {protocol : Protocol} {port : UInt16}
      (hfree : p.get? port = none)
      (hok : p.openPort machine .module protocol (config.address port) = .ok p') :
      Move config opens p p'

/-- Ports are what **moves** make of others. -/
def Moves (config : Gateway.Config) (opens : UInt16 → ListenerId → Prop) : Ports → Ports → Prop :=
  Relation.ReflTransGen (Move config opens)

theorem Move.moves (h : Move config opens p p') : Moves config opens p p' :=
  .single h

theorem Moves.refl : Moves config opens p p :=
  Relation.ReflTransGen.refl

theorem Moves.trans (h₁ : Moves config opens p p') (h₂ : Moves config opens p' p'') :
    Moves config opens p p'' :=
  Relation.ReflTransGen.trans h₁ h₂

/-- Giving up ports is one move, whichever ports they are. -/
theorem moves_close {closing : UInt16 → Entry → Bool} : Moves config opens p (p.close closing) :=
  (Move.close closing).moves

/-- Routes may change on all ports at once, as long as no table changes between keys of hosts and
its one key. -/
theorem moves_mapRoutes {f : Entry → Route.Table}
    (hf : ∀ e, (f e).virtualHosts = e.routes.virtualHosts) :
    Moves config opens p (p.mapRoutes f) :=
  (Move.reroute rerouted_mapRoutes fun _ e _ => hf e).moves

/-- What changes the routes of one port is a move as well: the other tables stay as they are. -/
theorem moves_modifyRoutes {f : Route.Table → Route.Table}
    (hf : ∀ t, (f t).virtualHosts = t.virtualHosts) :
    Moves config opens p (p.modifyRoutes port f) := by
  refine (Move.reroute rerouted_modifyRoutes fun k e _ => ?_).moves
  split
  · exact hf e.routes
  · rfl

theorem moves_removeOwner {owner : String} : Moves config opens p (p.removeOwner owner) :=
  moves_mapRoutes fun _ => rfl

/-! ### Listeners -/

/-- The port that is opened gets its listener, or none; no other port gets another one. -/
theorem listenerAt_openPort {origin : Origin} {protocol : Protocol}
    (hok : p.openPort machine origin protocol (config.address port) = .ok p') :
    p'.listenerAt k = if port = k then origin.listener? else p.listenerAt k := by
  rw [listenerAt, get?_openPort hok]
  split
  · rfl
  · rfl

/-- Which routes a port has says nothing about its listener. -/
theorem Rerouted.listenerAt_eq {f : UInt16 → Entry → Route.Table} (h : Rerouted f p p') :
    p'.listenerAt k = p.listenerAt k :=
  h.sameShape.listenerAt_eq.symm

/-- A move gives a port to a listener only by opening it, for one that it may be opened for. -/
theorem Move.listenerAt (h : Move config opens p p') (hk : p'.listenerAt k = some id) :
    p.listenerAt k = some id ∨ opens k id := by
  cases h with
  | close closing =>
    obtain ⟨e, he, hid⟩ := listenerAt_eq_some.mp hk
    exact .inl (listenerAt_eq_some.mpr ⟨e, (get?_close_eq_some.mp he).1, hid⟩)
  | reroute hr => exact .inl (hr.listenerAt_eq.symm.trans hk)
  | @openListener machine p' id' port hopens hfree hok =>
    rw [listenerAt_openPort hok] at hk
    split at hk
    · next hport =>
      obtain rfl := Option.some.inj hk
      exact .inr (hport ▸ hopens)
    · exact .inl hk
  | openModule hfree hok =>
    rw [listenerAt_openPort hok] at hk
    split at hk
    · cases hk
    · exact .inl hk

/-- **A listener on a port was there before, or the port may be opened for it.** -/
theorem Moves.listenerAt (h : Moves config opens p p') (hk : p'.listenerAt k = some id) :
    p.listenerAt k = some id ∨ opens k id := by
  induction h with
  | refl => exact .inl hk
  | tail _ hmove ih => exact (hmove.listenerAt hk).elim ih .inr

/-! ### Leading to other ports -/

/-- Ports **lead** to others when these come from them by opening ports for modules and by adding
routes. -/
structure Leads (config : Gateway.Config) (machine : Machine) (p p' : Ports) : Prop where
  moves : p.Moves config (fun _ _ => False) p'
  grows : p.Grows machine p'

theorem Leads.refl : p.Leads config machine p :=
  ⟨.refl, .refl⟩

theorem Leads.trans (h₁ : p.Leads config machine p') (h₂ : p'.Leads config machine p'') :
    p.Leads config machine p'' :=
  ⟨h₁.moves.trans h₂.moves, h₁.grows.trans h₂.grows⟩

/-- What each of many records leads to, all of them lead to. -/
theorem leads_foldl {α : Type} {f : Ports → α → Ports}
    (hf : ∀ (p : Ports) (a : α), p.Leads config machine (f p a)) (l : List α) (p : Ports) :
    p.Leads config machine (l.foldl f p) :=
  List.foldlRecOn l f .refl fun _ h a _ => h.trans (hf _ a)

/-- Listeners are on the same ports all the way. -/
theorem Leads.listenerAt (h : p.Leads config machine p') {id : ListenerId} :
    p'.listenerAt k = some id ↔ p.listenerAt k = some id := by
  constructor
  · intro hk
    exact (h.moves.listenerAt hk).resolve_right not_false
  · intro hk
    obtain ⟨e, he, hid⟩ := listenerAt_eq_some.mp hk
    obtain ⟨e', he', hc⟩ := h.grows.kept k e he
    exact listenerAt_eq_some.mpr ⟨e', he', hc.origin.trans hid⟩

/-- Also when idle ports are given up behind it, a listener stays on its port. -/
theorem Leads.portOf?_eq (h : p.Leads config machine p') (id : ListenerId) :
    p'.evict.portOf? id = p.portOf? id := by
  refine portOf?_congr fun k => ?_
  rw [← listenerAt_eq_some, ← listenerAt_eq_some, listenerAt_evict, h.listenerAt]

end Ports

namespace Gateway

variable {config : Config} {machine : Machine} {opens : UInt16 → ListenerId → Prop}
  {ports ports' : Ports} {panel : Panel} {g g' g'' : Gateway} {s : Server} {m : Module}
  {l : Listener}

/-! ### Opening ports and setting routes -/

/-- A listener is opened on a free port only. -/
theorem moves_openListener (hopens : opens l.port l.id)
    (hok : openListener config machine l ports = .ok ports') :
    ports.Moves config opens ports' := by
  unfold openListener at hok
  split at hok
  · cases hok
  · next hc =>
    have hfree := Ports.get?_eq_none_of_contains (Bool.eq_false_iff.mpr hc)
    exact (Ports.Move.openListener hopens hfree hok).moves

/-- A listener that cannot be opened leaves the ports as they are. -/
theorem moves_tryListener (hopens : opens l.port l.id) :
    ports.Moves config opens (tryListener config machine ports l) := by
  unfold tryListener
  split
  · next hok => exact moves_openListener hopens hok
  · exact .refl

/-- The listeners of a document are opened one after the other, and each of them only on its own
port. -/
theorem moves_openListeners {listeners : List Listener}
    (hopens : ∀ l ∈ listeners, opens l.port l.id) :
    ports.Moves config opens (openListeners config machine listeners ports) :=
  List.foldlRecOn listeners _ .refl fun _ h l hl => h.trans (moves_tryListener (hopens l hl))

/-- A port that a module needs is there, or is opened for modules. -/
theorem moves_ensurePort {port : UInt16} {protocol : Protocol}
    (hok : ensurePort config machine port protocol ports = .ok ports') :
    ports.Moves config opens ports' := by
  unfold ensurePort at hok
  split at hok
  · split at hok
    · obtain rfl := Except.ok.inj hok
      exact .refl
    · cases hok
  · next hfree => exact (Ports.Move.openModule hfree hok).moves

/-- A route of a module takes two moves at most: one for its port, one for itself. -/
theorem moves_addModulePort {backendHost : String} {mp : ModulePort}
    (hok : addModulePort config machine m s backendHost mp ports = .ok ports') :
    ports.Moves config opens ports' := by
  unfold addModulePort at hok
  split at hok
  · cases hok
  · split at hok
    · cases hok
    · next hensure =>
      obtain rfl := Except.ok.inj hok
      exact (moves_ensurePort hensure).trans (Ports.moves_modifyRoutes fun _ => rfl)

/-- A module that fails at one of its ports has moved those before it all the same. -/
theorem moves_addModulePorts {backendHost : String} :
    ∀ (l : List ModulePort) (ports : Ports),
      ports.Moves config opens (addModulePorts config machine m s backendHost l ports).2
  | [], _ => .refl
  | mp :: rest, ports => by
    rw [addModulePorts]
    split
    · exact .refl
    · next hok => exact (moves_addModulePort hok).trans (moves_addModulePorts rest _)

/-- A server gets a route on a port that is open already. -/
theorem moves_restoreServer :
    ports.Moves config opens (restoreServer config machine s ports) := by
  unfold restoreServer
  split
  · split
    · exact .refl
    · exact Ports.moves_modifyRoutes fun _ => rfl
  · exact .refl

theorem moves_restoreModule :
    ports.Moves config opens (restoreModule config machine s ports m) := by
  unfold restoreModule
  split
  · exact .refl
  · split
    · exact .refl
    · exact moves_addModulePorts _ _

theorem moves_restore : ports.Moves config opens (restore config machine panel ports s) := by
  unfold restore
  split
  · exact List.foldlRecOn (panel.modulesOf s.id) _ moves_restoreServer
      fun _ h _ _ => h.trans moves_restoreModule
  · exact .refl

/-- Restoring the routes of a document opens no port for a listener. -/
theorem moves_restoreAll :
    ports.Moves config opens (restoreAll config machine panel ports) :=
  List.foldlRecOn panel.servers _ .refl fun _ h _ _ => h.trans moves_restore

/-- Reopening gives up the ports that no listener wants and empties the others, before it opens
those that are wanted. -/
theorem moves_reopenPorts (hopens : ∀ l ∈ panel.listeners, opens l.port l.id) :
    ports.Moves config opens (reopenPorts config machine panel ports) := by
  have hcleared : ports.Moves config opens (ports.mapRoutes fun e => e.routes.clear) :=
    Ports.moves_mapRoutes fun _ => rfl
  have hkept : ports.Moves config opens (keepPorts panel ports) :=
    hcleared.trans Ports.moves_close
  exact hkept.trans (moves_openListeners fun l hl => hopens l (mem_of_mem_wantedListeners hl))

/-- **Reconciling opens ports for the listeners of the document only.** -/
theorem moves_reconcile (hopens : ∀ l ∈ panel.listeners, opens l.port l.id) :
    ports.Moves config opens (reconcile config machine panel ports) :=
  ((moves_reopenPorts hopens).trans moves_restoreAll).trans Ports.moves_close

/-! ### Leading from step to step -/

/-- The ports of modules come on top of those that are there. -/
theorem leads_addModulePort {backendHost : String} {mp : ModulePort}
    (hok : addModulePort config machine m s backendHost mp ports = .ok ports') :
    ports.Leads config machine ports' :=
  ⟨moves_addModulePort hok, (builds_addModulePort hok).grows⟩

theorem leads_addModulePorts {backendHost : String} (l : List ModulePort) :
    ports.Leads config machine (addModulePorts config machine m s backendHost l ports).2 :=
  ⟨moves_addModulePorts l ports, (builds_addModulePorts l ports).grows⟩

/-- A route of a server comes on top of those that are there. -/
theorem leads_restoreServer : ports.Leads config machine (restoreServer config machine s ports) :=
  ⟨moves_restoreServer, builds_restoreServer.grows⟩

theorem leads_restoreModule : ports.Leads config machine (restoreModule config machine s ports m) :=
  ⟨moves_restoreModule, builds_restoreModule.grows⟩

theorem leads_restore : ports.Leads config machine (restore config machine panel ports s) :=
  ⟨moves_restore, builds_restore.grows⟩

/-- **Restoring routes leads on**: whatever was open stays open, for the same listener. -/
theorem leads_restoreAll : ports.Leads config machine (restoreAll config machine panel ports) :=
  ⟨moves_restoreAll, builds_restoreAll.grows⟩

/-! ### Calls -/

/-- A call **moves** a gateway when it leaves the configuration and makes moves of the ports. -/
def Moves (opens : UInt16 → ListenerId → Prop) (g g' : Gateway) : Prop :=
  g'.config = g.config ∧ g.ports.Moves g.config opens g'.ports

theorem Moves.refl : g.Moves opens g :=
  ⟨rfl, .refl⟩

theorem Moves.trans (h₁ : g.Moves opens g') (h₂ : g'.Moves opens g'') : g.Moves opens g'' :=
  ⟨h₂.1.trans h₁.1, h₁.2.trans (h₁.1 ▸ h₂.2)⟩

/-- Starting opens ports for the listeners of the store. -/
theorem moves_start (hopens : ∀ l ∈ g.panel.listeners, opens l.port l.id) :
    g.Moves opens (g.start machine) :=
  ⟨rfl, .trans (moves_openListeners fun l hl => hopens l (List.mem_filter.mp hl).1)
    moves_restoreAll⟩

theorem moves_stop : g.Moves opens g.stop :=
  ⟨rfl, Ports.moves_close⟩

/-- So does refreshing, and for no others. -/
theorem moves_refresh (hopens : ∀ l ∈ g.panel.listeners, opens l.port l.id) :
    g.Moves opens (g.refresh machine) :=
  ⟨rfl, moves_reconcile hopens⟩

/-- A listener that is added is the only one that gets a port. -/
theorem moves_addListener (hopens : opens l.port l.id) :
    g.Moves opens (g.addListener machine l).2 := by
  unfold addListener
  dsimp only
  split
  · exact .refl
  · next ports hok =>
    have hports : g.ports.Moves g.config opens ports := by
      split at hok
      · cases hok
      · split at hok
        · exact moves_openListener hopens hok
        · obtain rfl := Except.ok.inj hok
          exact .refl
    split
    · exact ⟨rfl, hports⟩
    · exact ⟨rfl, hports.trans Ports.moves_close⟩

/-- Removing a listener takes its port away at most. -/
theorem moves_removeListener {port : UInt16} : g.Moves opens (g.removeListener port).2 := by
  unfold removeListener
  split
  · exact .refl
  · split
    · exact ⟨rfl, Ports.moves_close⟩
    · exact ⟨rfl, Ports.moves_close⟩
    · exact ⟨rfl, .refl⟩

/-- No listener loses its port to the removal of a server. -/
theorem moves_removeServer {id : ServerId} : g.Moves opens (g.removeServer id).2 :=
  ⟨rfl, Ports.moves_removeOwner⟩

/-- Routes under a host go on the ports that are concerned, and where no listener is named, idle
ports go with them. -/
theorem moves_removeHostname {hostname : String} {listener : Option ListenerId} :
    g.Moves opens (g.removeHostname hostname listener).2 := by
  have hremoved : g.ports.Moves g.config opens (g.ports.mapRoutes fun e =>
      if concerns listener e then e.routes.remove hostname else e.routes) :=
    Ports.moves_mapRoutes fun e => (thins_of_concerns e).virtualHosts
  cases listener with
  | none => exact ⟨rfl, hremoved.trans Ports.moves_close⟩
  | some id => exact ⟨rfl, hremoved⟩

/-- A server that is updated gets or loses a route; its listener is not opened for it. -/
theorem moves_updateServer : g.Moves opens (g.updateServer machine s).2 := by
  unfold updateServer
  split
  · exact .refl
  · next plan _ =>
    cases plan with
    | nothing => exact .refl
    | withdraw listener hostname => exact moves_removeHostname
    | install listener hostname backendHost =>
      unfold carryOut
      dsimp only
      split
      · exact .refl
      · refine ⟨rfl, Ports.moves_modifyRoutes fun t => ?_⟩
        unfold upsertRoute
        split
        · rfl
        · rfl

/-- Adding a module opens no port for a listener, also where it fails. -/
theorem moves_addModule : g.Moves opens (g.addModule machine m s).2 := by
  unfold addModule
  split
  · exact .refl
  · split
    · exact .refl
    · exact ⟨rfl, moves_addModulePorts _ _⟩

/-- A module that is updated gives up what it has before it is added again. -/
theorem moves_updateModule : g.Moves opens (g.updateModule machine m s).2 := by
  unfold updateModule
  split
  · exact .refl
  · next backendHost _ =>
    have hclosed : g.ports.Moves g.config opens
        ((g.ports.removeOwner m.id.toString).close (isRetagged m)) :=
      Ports.moves_removeOwner.trans Ports.moves_close
    cases backendHost with
    | none => exact ⟨rfl, hclosed.trans Ports.moves_close⟩
    | some backendHost =>
      exact ⟨rfl, (hclosed.trans (moves_addModulePorts _ _)).trans Ports.moves_close⟩

theorem moves_removeModule {id : ModuleId} : g.Moves opens (g.removeModule id).2 :=
  ⟨rfl, Ports.moves_removeOwner.trans Ports.moves_close⟩

/-- **An event moves ports as the call that it stands for**; only the news that a listener has been
created opens a port for one. -/
theorem moves_applyEvent (e : Event) (hcreated : ∀ id port, e = .listenerCreated id port →
    ∀ l ∈ g.panel.listeners, opens l.port l.id) : g.Moves opens (g.applyEvent machine e).2 := by
  refine SyncInvariant.applyEvent (P := g.Moves opens) {
    removeServer := fun h => h.trans moves_removeServer
    removeHostname := fun h => h.trans moves_removeHostname
    updateServer := fun h _ _ => h.trans moves_updateServer
    removeListener := fun h => h.trans moves_removeListener
    updateModule := fun h _ => h.trans moves_updateModule
    removeModule := fun h => h.trans moves_removeModule } .refl e fun id port he l hl => ?_
  exact moves_addListener (hcreated id port he l hl)

end Gateway

end GameGateway
