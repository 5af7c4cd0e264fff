import GameGateway.Gateway.Events
import GameGateway.Proofs.Gateway.Building

/-!
# Runs of a gateway

A **run** is any sequence of calls to a gateway, each on a machine of its own, between which others
may do to the store whatever they like. Every call **keeps** the ports lawful and busy, even one
that fails on the way, so they are so after every run (`lawful_after`).
-/

namespace GameGateway

namespace Ports

variable {config : Gateway.Config} {machine : Machine} {p p' p'' : Ports} {port : UInt16}

/-- A change of lawful ports **keeps** them lawful, and busy if they were. -/
def Keeps (config : Gateway.Config) (p p' : Ports) : Prop :=
  p.Lawful config → p'.Lawful config ∧ (p.Busy → p'.Busy)

theorem Keeps.refl : p.Keeps config p :=
  fun h => ⟨h, id⟩

theorem Keeps.trans (h₁ : p.Keeps config p') (h₂ : p'.Keeps config p'') : p.Keeps config p'' := by
  intro h
  obtain ⟨hl, hb⟩ := h₁ h
  obtain ⟨hl', hb'⟩ := h₂ hl
  exact ⟨hl', hb' ∘ hb⟩

/-- Giving up ports leaves the others lawful and busy. -/
theorem keeps_close {closing : UInt16 → Entry → Bool} : p.Keeps config (p.close closing) :=
  fun h => ⟨h.close, fun hb => hb.close⟩

/-- Where routes change, lawful new tables are enough, if those of modules do not become empty. -/
theorem keeps_reroute {f : UInt16 → Entry → Route.Table} (hr : Rerouted f p p')
    (hf : ∀ k e, p.get? k = some e → e.Lawful config k →
      (f k e).Lawful e.protocol e.origin ∧
        (e.origin = .module → (f k e).isEmpty = true → e.routes.isEmpty = true)) :
    p.Keeps config p' :=
  fun h => ⟨h.reroute hr fun k e he => (hf k e he (h.entry he)).1,
    fun hb => hb.reroute hr fun k e he => (hf k e he (h.entry he)).2⟩

/-- Changing the routes of a listener's port keeps the law if its table stays lawful. -/
theorem keeps_modifyRoutes_listener {f : Route.Table → Route.Table} {l : ListenerId}
    (hport : p.portOf? l = some port)
    (hf : ∀ {t : Route.Table}, t.Lawful .minecraft (.listener l) →
      (f t).Lawful .minecraft (.listener l)) :
    p.Keeps config (p.modifyRoutes port f) := by
  obtain ⟨e₀, he₀, horigin⟩ := exists_of_portOf? hport
  refine keeps_reroute rerouted_modifyRoutes fun k e he hl => ?_
  split
  · next hk =>
    obtain rfl : e₀ = e := Option.some.inj (he₀ ▸ hk ▸ he)
    have ht := hl.table
    rw [horigin, hl.listener horigin] at ht ⊢
    exact ⟨hf ht, nofun⟩
  · exact ⟨hl.table, fun _ => id⟩

/-- A listener's port may be without routes. -/
theorem Busy.openListener (h : p.Busy) {id : ListenerId} {protocol : Protocol}
    {address : SocketAddress} (hok : p.openPort machine (.listener id) protocol address = .ok p') :
    p'.Busy := by
  obtain ⟨-, -, hget⟩ := openPort_eq_ok hok
  intro k e he
  rw [hget] at he
  split at he
  · obtain rfl := Option.some.inj he
    exact Entry.not_idle_of_listener rfl
  · exact h k e he

/-- A port that gets a route is not idle, whatever it was. -/
theorem busy_modifyRoutes_add {owner spelling host : String} {backendPort : UInt16}
    (h : ∀ k e, k ≠ port → p.get? k = some e → isIdle e = false) :
    (p.modifyRoutes port fun t => t.add owner spelling host backendPort).Busy := by
  intro k e he
  rw [get?_modifyRoutes] at he
  split at he
  · obtain ⟨e₀, -, rfl⟩ := Option.map_eq_some_iff.mp he
    simp [isIdle, Route.Table.isEmpty_add]
  · next hk => exact h k e (Ne.symm hk) he

/-- A route of a module may be on any port. -/
theorem Lawful.addModule (h : p.Lawful config) {m : ModuleId} {hostname host : String}
    {backendPort : UInt16} :
    (p.modifyRoutes port fun t => t.add m.toString hostname host backendPort).Lawful config := by
  refine h.reroute rerouted_modifyRoutes fun k e he => ?_
  split
  · exact (h.entry he).table.add fun _ => ⟨m, rfl⟩
  · exact (h.entry he).table

/-- **Every step of building keeps the law.** -/
theorem BuildStep.keeps (hstep : BuildStep config machine p p') : p.Keeps config p' := by
  cases hstep with
  | openListener hfree hok =>
    exact fun h => ⟨h.openPort hfree (fun _ _ => rfl) hok, fun hb => hb.openListener hok⟩
  | addServer hport server => exact keeps_modifyRoutes_listener hport fun ht => ht.add nofun
  | addModule hopen m =>
    exact fun h => ⟨h.addModule, fun hb => busy_modifyRoutes_add fun k e _ => hb k e⟩
  | openModule hfree hok m =>
    intro h
    refine ⟨(h.openPort hfree (by rintro _ ⟨⟩) hok).addModule, fun hb => ?_⟩
    refine busy_modifyRoutes_add fun k e hk he => ?_
    rw [get?_openPort hok, if_neg (Ne.symm hk)] at he
    exact hb k e he

/-- **Building keeps the law**, step by step. -/
theorem Builds.keeps (h : Builds config machine p p') : p.Keeps config p' := by
  induction h with
  | refl => exact .refl
  | step hstep _ ih => exact hstep.keeps.trans ih

end Ports

namespace Gateway

variable {config : Config} {machine : Machine} {ports : Ports} {g g' g'' : Gateway}

/-! ### Calls -/

/-- A call **keeps** a gateway when it leaves the configuration and keeps the law of the ports. -/
def Keeps (g g' : Gateway) : Prop :=
  g'.config = g.config ∧ g.ports.Keeps g.config g'.ports

theorem Keeps.refl : g.Keeps g :=
  ⟨rfl, .refl⟩

theorem Keeps.trans (h₁ : g.Keeps g') (h₂ : g'.Keeps g'') : g.Keeps g'' :=
  ⟨h₂.1.trans h₁.1, h₁.2.trans (h₁.1 ▸ h₂.2)⟩

theorem keeps_start : g.Keeps (g.start machine) :=
  ⟨rfl, ((builds_openListeners _).trans builds_restoreAll).keeps⟩

/-- Stopping gives up ports, with their sockets. -/
theorem keeps_stop : g.Keeps g.stop :=
  ⟨rfl, Ports.keeps_close⟩

/-- Refreshing leaves lawful ports busy again, though no port has a route in the middle. -/
theorem lawful_reconcile {panel : Panel} (h : ports.Lawful config) :
    (reconcile config machine panel ports).Lawful config ∧
      (reconcile config machine panel ports).Busy := by
  have hclear : (ports.mapRoutes fun e => e.routes.clear).Lawful config :=
    h.thin fun _ => Route.Table.thins_clear
  have hkept : ((ports.mapRoutes fun e => e.routes.clear).close
      (isStale (wantedListeners panel.listeners))).Lawful config := hclear.close
  have hopen : (openListeners config machine (wantedListeners panel.listeners) _).Lawful config :=
    ((builds_openListeners (wantedListeners panel.listeners)).keeps hkept).1
  exact ⟨(builds_restoreAll.keeps hopen).1.close, Ports.busy_evict⟩

/-- A refresh keeps lawful ports so, and what it yields is busy even if it was not before. -/
theorem keeps_refresh : g.Keeps (g.refresh machine) :=
  ⟨rfl, fun h => ⟨(lawful_reconcile h).1, fun _ => (lawful_reconcile h).2⟩⟩

/-- A listener that cannot be saved has its port given up again, with its socket. -/
theorem keeps_addListener {l : Listener} : g.Keeps (g.addListener machine l).2 := by
  unfold addListener
  dsimp only
  split
  · exact .refl
  · next ports hok =>
    have hports : g.ports.Keeps g.config ports := by
      split at hok
      · cases hok
      · split at hok
        · exact (builds_openListener hok).keeps
        · obtain rfl := Except.ok.inj hok
          exact .refl
    split
    · exact ⟨rfl, hports⟩
    · exact ⟨rfl, hports.trans Ports.keeps_close⟩

/-- A listener that is removed takes its port with it. -/
theorem keeps_removeListener {port : UInt16} : g.Keeps (g.removeListener port).2 := by
  unfold removeListener
  split
  · exact .refl
  · split
    · exact ⟨rfl, Ports.keeps_close⟩
    · exact ⟨rfl, Ports.keeps_close⟩
    · exact ⟨rfl, .refl⟩

/-- Removing the routes of a server leaves no module port idle: none there is a server's. -/
theorem keeps_removeServer {id : ServerId} : g.Keeps (g.removeServer id).2 := by
  refine ⟨rfl, Ports.keeps_reroute Ports.rerouted_mapRoutes fun k e _ hl =>
    ⟨hl.table.thin Route.Table.thins_removeOwner, ?_⟩⟩
  intro hm hempty
  rwa [Route.Table.removeOwner_eq_self] at hempty
  intro key r hr
  obtain ⟨m, hm⟩ := hl.table.owners hm key r hr
  rw [hm]
  exact Id.toString_ne (by decide) m id

/-- Of a table that a host concerns, what is left is thinner; the others stay. -/
theorem thins_of_concerns {hostname : String} {listener : Option ListenerId} (e : Entry) :
    e.routes.Thins (if concerns listener e then e.routes.remove hostname else e.routes) := by
  split
  · exact Route.Table.thins_remove
  · exact Route.Table.thins_refl

/-- Removing a host leaves ports of modules idle, which are given up at once where no listener is
named. -/
theorem keeps_removeHostname {hostname : String} {listener : Option ListenerId} :
    g.Keeps (g.removeHostname hostname listener).2 := by
  refine ⟨rfl, fun h => ?_⟩
  have hl : (g.ports.mapRoutes fun e =>
      if concerns listener e then e.routes.remove hostname else e.routes).Lawful g.config :=
    h.thin thins_of_concerns
  unfold removeHostname
  cases listener with
  | none => exact ⟨hl.close, fun _ => Ports.busy_evict⟩
  | some id =>
    refine ⟨hl, fun hb => hb.reroute Ports.rerouted_mapRoutes fun k e _ hm hempty => ?_⟩
    -- a port of modules is not that of the listener
    simpa [concerns, hm] using hempty

/-- A server has its routes on listeners' ports only, so no port of modules is left idle. -/
theorem keeps_updateServer {s : Server} : g.Keeps (g.updateServer machine s).2 := by
  unfold updateServer
  split
  · exact .refl
  · next plan _ =>
    cases plan with
    | nothing => exact .refl
    | withdraw listener hostname => exact keeps_removeHostname
    | install listener hostname backendHost =>
      unfold carryOut
      dsimp only
      split
      · exact .refl
      · next port hport =>
        refine ⟨rfl, Ports.keeps_modifyRoutes_listener hport fun ht => ?_⟩
        unfold upsertRoute
        split
        · exact ht.update
        · exact ht.add nofun

theorem keeps_addModule {m : Module} {s : Server} : g.Keeps (g.addModule machine m s).2 := by
  unfold addModule
  split
  · exact .refl
  · split
    · exact .refl
    · exact ⟨rfl, (builds_addModulePorts _ _).keeps⟩

/-- Taking the routes of a module away keeps the ports lawful; it may leave some idle. -/
theorem lawful_removeOwner {owner : String} (h : ports.Lawful config) :
    (ports.removeOwner owner).Lawful config :=
  h.thin fun _ => Route.Table.thins_removeOwner

/-- A module that is updated leaves idle ports, which are given up at the end, also where it
fails. -/
theorem keeps_updateModule {m : Module} {s : Server} : g.Keeps (g.updateModule machine m s).2 := by
  unfold updateModule
  split
  · exact .refl
  · next backendHost _ =>
    refine ⟨rfl, fun h => ?_⟩
    have hclosed : ((g.ports.removeOwner m.id.toString).close (isRetagged m)).Lawful g.config :=
      (lawful_removeOwner h).close
    cases backendHost with
    | none => exact ⟨hclosed.close, fun _ => Ports.busy_evict⟩
    | some backendHost =>
      exact ⟨((builds_addModulePorts _ _).keeps hclosed).1.close, fun _ => Ports.busy_evict⟩

theorem keeps_removeModule {id : ModuleId} : g.Keeps (g.removeModule id).2 :=
  ⟨rfl, fun h => ⟨(lawful_removeOwner h).close, fun _ => Ports.busy_evict⟩⟩

/-! ### Events -/

/-- A property of gateways is **invariant** under changes of records when it is kept by each of the
calls that following an event is made of, where those for a record are for one in the store, but for
the one that adds a listener. -/
structure SyncInvariant (machine : Machine) (P : Gateway → Prop) : Prop where
  removeServer : ∀ {g id}, P g → P (g.removeServer id).2
  removeHostname : ∀ {g hostname listener}, P g → P (g.removeHostname hostname listener).2
  updateServer : ∀ {g s}, P g → s ∈ g.panel.servers →
    ∀ status, P (g.updateServer machine { s with status }).2
  removeListener : ∀ {g port}, P g → P (g.removeListener port).2
  updateModule : ∀ {g m s}, P g → m ∈ g.panel.modules → P (g.updateModule machine m s).2
  removeModule : ∀ {g id}, P g → P (g.removeModule id).2

/-- A property of gateways is **invariant** under events when adding a listener of the store keeps
it, too. -/
structure EventInvariant (machine : Machine) (P : Gateway → Prop) : Prop extends
    SyncInvariant machine P where
  addListener : ∀ {g l}, P g → l ∈ g.panel.listeners → P (g.addListener machine l).2

theorem panel_updateModule {m : Module} {s : Server} :
    (g.updateModule machine m s).2.panel = g.panel := by
  unfold updateModule
  split
  · rfl
  · rfl

variable {P : Gateway → Prop}

/-- A property that calls for records of the store keep is kept by a server that changes, with its
modules. -/
theorem SyncInvariant.syncServer (h : SyncInvariant machine P) (hg : P g) {s : Server}
    (hs : s ∈ g.panel.servers) (status : Status) :
    P (g.syncServer machine { s with status }).2 := by
  let updated := (g.updateServer machine { s with status }).2
  -- updating a module leaves the store, where all of them are
  refine (List.foldlRecOn (motive := fun g' => P g' ∧ g'.panel = updated.panel)
    (updated.panel.modulesOf s.id) _ ⟨h.updateServer hg hs status, rfl⟩ fun g' hg' m hm => ?_).1
  have hm : m ∈ g'.panel.modules := hg'.2 ▸ (List.mem_filter.mp hm).1
  exact ⟨h.updateModule hg'.1 hm, panel_updateModule.trans hg'.2⟩

/-- **What is invariant under changes of records is kept by following an event**, if the listener
that it may add does not matter. -/
theorem SyncInvariant.applyEvent (h : SyncInvariant machine P) (hg : P g) (e : Event)
    (hcreated : ∀ id port, e = .listenerCreated id port →
      ∀ l ∈ g.panel.listeners, P (g.addListener machine l).2) :
    P (g.applyEvent machine e).2 := by
  cases e with
  | serverStatusChanged id status =>
    rw [Gateway.applyEvent]
    split
    · exact h.removeServer hg
    · next s hs => exact h.syncServer hg (List.mem_of_find?_eq_some hs) status
  | serverUpdated id previousHostname previousListener =>
    cases previousHostname with
    | none =>
      have hremoved : P (g.removeServer id).2 := h.removeServer hg
      rw [Gateway.applyEvent]
      split
      · exact hremoved
      · next s hs => exact h.syncServer hremoved (List.mem_of_find?_eq_some hs) s.status
    | some hostname =>
      have hremoved : P (g.removeHostname hostname previousListener).2 := h.removeHostname hg
      rw [Gateway.applyEvent]
      split
      · exact hremoved
      · next s hs => exact h.syncServer hremoved (List.mem_of_find?_eq_some hs) s.status
  | serverDeleted id => exact h.removeServer hg
  | listenerCreated id port =>
    rw [Gateway.applyEvent]
    split
    · exact hg
    · next l hl => exact hcreated id port rfl l (List.mem_of_find?_eq_some hl)
  | listenerDeleted id port =>
    have hremoved : P (g.removeListener port).2 := h.removeListener hg
    rw [Gateway.applyEvent]
    split
    · next heq => rwa [heq] at hremoved
    · exact hremoved
  | moduleUpdated id server =>
    rw [Gateway.applyEvent]
    split
    · exact h.removeModule hg
    · next m hm =>
      split
      · exact hg
      · exact h.updateModule hg (List.mem_of_find?_eq_some hm)
  | moduleDeleted id server => exact h.removeModule hg

/-- **What is invariant under events is kept by following one.** -/
theorem EventInvariant.applyEvent (h : EventInvariant machine P) (hg : P g) (e : Event) :
    P (g.applyEvent machine e).2 :=
  h.toSyncInvariant.applyEvent hg e fun _ _ _ _ hl => h.addListener hg hl

theorem keeps_applyEvent (e : Event) : g.Keeps (g.applyEvent machine e).2 :=
  EventInvariant.applyEvent {
    removeServer := fun h => h.trans keeps_removeServer
    removeHostname := fun h => h.trans keeps_removeHostname
    updateServer := fun h _ _ => h.trans keeps_updateServer
    addListener := fun h _ => h.trans keeps_addListener
    removeListener := fun h => h.trans keeps_removeListener
    updateModule := fun h _ => h.trans keeps_updateModule
    removeModule := fun h => h.trans keeps_removeModule } .refl e

/-! ### Runs -/

/-- A **call** to a gateway. -/
inductive Call where
  | start
  | stop
  | refresh
  | addListener (l : Listener)
  | removeListener (port : UInt16)
  | updateServer (s : Server)
  | removeServer (id : ServerId)
  | removeHostname (hostname : String) (listener : Option ListenerId)
  | addModule (m : Module) (s : Server)
  | updateModule (m : Module) (s : Server)
  | removeModule (id : ModuleId)
  | event (e : Event)

/-- The gateway behind a call, whatever this answers. -/
def perform (machine : Machine) (g : Gateway) : Call → Gateway
  | .start => g.start machine
  | .stop => g.stop
  | .refresh => g.refresh machine
  | .addListener l => (g.addListener machine l).2
  | .removeListener port => (g.removeListener port).2
  | .updateServer s => (g.updateServer machine s).2
  | .removeServer id => (g.removeServer id).2
  | .removeHostname hostname listener => (g.removeHostname hostname listener).2
  | .addModule m s => (g.addModule machine m s).2
  | .updateModule m s => (g.updateModule machine m s).2
  | .removeModule id => (g.removeModule id).2
  | .event e => (g.applyEvent machine e).2

/-- A **turn** of a run: a call on a machine, or a change of the store by others. -/
inductive Turn where
  | call (machine : Machine) (c : Call)
  | store (s : Store)

/-- The gateway behind a turn. -/
def take (g : Gateway) : Turn → Gateway
  | .call machine c => g.perform machine c
  | .store store => { g with store }

/-- The gateway **after** a run. -/
def after (g : Gateway) (turns : List Turn) : Gateway :=
  turns.foldl take g

/-- **Every call keeps the law**, and so does each change of the store. -/
theorem keeps_take (turn : Turn) : g.Keeps (g.take turn) := by
  cases turn with
  | store s => exact ⟨rfl, .refl⟩
  | call machine c =>
    cases c with
    | start => exact keeps_start
    | stop => exact keeps_stop
    | refresh => exact keeps_refresh
    | addListener l => exact keeps_addListener
    | removeListener port => exact keeps_removeListener
    | updateServer s => exact keeps_updateServer
    | removeServer id => exact keeps_removeServer
    | removeHostname hostname listener => exact keeps_removeHostname
    | addModule m s => exact keeps_addModule
    | updateModule m s => exact keeps_updateModule
    | removeModule id => exact keeps_removeModule
    | event e => exact keeps_applyEvent e

theorem keeps_after (turns : List Turn) : g.Keeps (g.after turns) :=
  List.foldlRecOn turns take .refl fun _ h turn _ => h.trans (keeps_take turn)

theorem config_after (turns : List Turn) : (g.after turns).config = g.config :=
  (keeps_after turns).1

/-- **The ports are lawful and busy after every run** of a gateway that had none before. -/
theorem lawful_after {config : Config} {store : Store} (turns : List Turn) :
    ((new config store).after turns).ports.Lawful config ∧
      ((new config store).after turns).ports.Busy := by
  obtain ⟨hl, hb⟩ := (keeps_after (g := new config store) turns).2 Ports.lawful_empty
  exact ⟨hl, hb Ports.busy_empty⟩

/-- A gateway is **reachable** when some run of a gateway that had no ports leads to it. -/
def Reachable (g : Gateway) : Prop :=
  ∃ config store turns, g = (new config store).after turns

theorem Reachable.lawful (h : g.Reachable) : g.ports.Lawful g.config := by
  obtain ⟨config, store, turns, rfl⟩ := h
  rw [config_after]
  exact (lawful_after turns).1

/-- **The ports after every run.** A port of a listener forwards the game's protocol. A port of
modules has a route, and its routes belong to modules and never to a server. Every forwarder runs,
and the sockets held are those of the forwarders. Every route is active and under its own key, which
is the only one where the protocol has no virtual hosts and a normalised one where it has. -/
theorem ports_after (config : Config) (store : Store) (turns : List Turn) :
    let ports := ((new config store).after turns).ports
    (∀ port e, ports.get? port = some e →
      (∀ listener, e.origin = .listener listener → e.protocol = .minecraft) ∧
      (e.origin = .module → (∃ k r, e.routes.get? k = some r) ∧
        ∀ k r, e.routes.get? k = some r →
          (∃ m : ModuleId, r.owner = m.toString) ∧ ∀ s : ServerId, r.owner ≠ s.toString) ∧
      e.running = true ∧
      ∀ k r, e.routes.get? k = some r → r.key = k ∧ r.active = true ∧
        match e.protocol with
        | .tcp | .udp => k = Route.Key.only ∧ e.routes.size ≤ 1
        | .http | .minecraft => ∃ spelling, Route.Key.normalize spelling = k) ∧
    ∀ socket, socket ∈ ports.held ↔
      ∃ e, ports.get? socket.port = some e ∧ e.running = true ∧ e.socket = socket := by
  intro ports
  obtain ⟨hlawful, hbusy⟩ : ports.Lawful config ∧ ports.Busy := lawful_after turns
  refine ⟨fun port e he => ?_, fun socket => ?_⟩
  · have hl := hlawful.entry he
    refine ⟨fun _ => hl.listener, fun hm => ⟨?_, fun k r hr => ?_⟩, hl.running, fun k r hr => ?_⟩
    · have hidle := hbusy port e he
      simp only [Ports.isIdle, hm, decide_true, Bool.true_and] at hidle
      exact Route.Table.exists_of_isEmpty hidle
    · obtain ⟨m, hm⟩ := hl.table.owners hm k r hr
      exact ⟨⟨m, hm⟩, fun s => hm ▸ Id.toString_ne (by decide) m s⟩
    · obtain ⟨hkey, hactive, -⟩ := hl.table.placed k r hr
      refine ⟨hkey, hactive, ?_⟩
      have htable := hl.table
      split
      all_goals
        rename_i hp
        rw [hp] at htable
      · exact ⟨htable.eq_only rfl hr, htable.size_le_one rfl⟩
      · exact ⟨htable.eq_only rfl hr, htable.size_le_one rfl⟩
      · exact htable.exists_normalize rfl hr
      · exact htable.exists_normalize rfl hr
  · rw [hlawful.held]
    constructor
    · rintro ⟨e, he, hs⟩
      exact ⟨e, he, (hlawful.entry he).running, hs⟩
    · rintro ⟨e, he, -, hs⟩
      exact ⟨e, he, hs⟩

end Gateway

end GameGateway
