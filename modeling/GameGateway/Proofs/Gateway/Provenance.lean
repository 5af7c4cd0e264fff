import GameGateway.Proofs.Gateway.Listeners
import GameGateway.Proofs.Gateway.Updating

/-!
# Where routes come from

Ports are opened and routes are set for records that a gateway has been given: those in its store
and those that it is called with. A **charter** says which listeners may have a port, and whose
routes may be where. Ports **obey** a charter that admits all records of a run, whatever calls,
failures and changes of the store the run is made of (`obeys_after`). So what the records of a run
have in common is known of the routes behind it, without a look at the run itself.
-/

namespace GameGateway

/-- A **charter** says on which port a listener may be, and who may have a route under a key on a
port, by what the port was opened for. -/
structure Charter where
  opens : UInt16 → ListenerId → Prop
  routes : Origin → (key owner : String) → Prop

namespace Charter

/-- A listener is **admitted** when it may be on its port. -/
def AdmitsListener (c : Charter) (l : Listener) : Prop :=
  c.opens l.port l.id

/-- A server is **admitted** when it may have a route in its place. -/
def AdmitsServer (c : Charter) (config : Gateway.Config) (s : Server) : Prop :=
  ∀ l key, Gateway.place? config s = some (l, key) → c.routes (.listener l) key s.id.toString

/-- A module is **admitted** when it may have routes under all keys on ports of modules and, where
it forwards the game's protocol, on those of listeners, too. -/
def AdmitsModule (c : Charter) (m : Module) : Prop :=
  ∀ p ∈ m.ports, ∀ origin, origin = .module ∨ p.protocol? = some .minecraft →
    ∀ key, c.routes origin key m.id.toString

/-- A charter **admits** a document when it admits all records. -/
structure Admits (c : Charter) (config : Gateway.Config) (p : Panel) : Prop where
  listeners : ∀ l ∈ p.listeners, c.AdmitsListener l
  servers : ∀ s ∈ p.servers, c.AdmitsServer config s
  modules : ∀ m ∈ p.modules, c.AdmitsModule m

variable {c : Charter} {config : Gateway.Config} {p p' : Panel} {l : Listener}

/-- A listener that is saved may take the default mark from another one, which stays admitted. -/
theorem Admits.saveListener (h : c.Admits config p) (hl : c.AdmitsListener l)
    (hok : p.saveListener l = .ok p') : c.Admits config p' := by
  obtain ⟨-, rfl⟩ := Panel.saveListener_eq_ok_iff.mp hok
  refine { h with listeners := fun a ha => ?_ }
  rcases mem_of_mem_upsert ha with rfl | ha
  · exact hl
  · split at ha
    · -- the default mark is no matter of the charter
      obtain ⟨a₀, ha₀, rfl⟩ := List.mem_map.mp ha
      exact h.listeners a₀ ha₀
    · exact h.listeners a ha

/-- Fewer records are admitted if more are. -/
theorem Admits.eraseListener (h : c.Admits config p) {erased : Listener → Bool} :
    c.Admits config { p with listeners := p.listeners.eraseP erased } :=
  { h with listeners := fun a ha => h.listeners a (List.mem_of_mem_eraseP ha) }

/-! ### Stores -/

variable {store : Store}

/-- Also when a document cannot be written, the one that is kept is admitted. -/
theorem Admits.commit {α : Type} (h : c.Admits config store.panel) (result : α)
    (hp : c.Admits config p) : c.Admits config (store.commit result p).2.panel := by
  rcases Store.panel_commit store result p with heq | heq
  · rwa [heq]
  · rwa [heq]

/-- **Saving an admitted listener leaves an admitted store**, whether it succeeds or not. -/
theorem Admits.storeListener (h : c.Admits config store.panel) (hl : c.AdmitsListener l) :
    c.Admits config (store.saveListener l).2.panel := by
  unfold Store.saveListener Store.change
  split
  · exact h
  · next hsave => exact h.commit () (h.saveListener hl hsave)

end Charter

/-! ### Ports that obey a charter -/

/-- An entry is **within** a charter on a port when it may have been opened there and its routes may
be where they are. -/
structure Entry.Within (c : Charter) (port : UInt16) (e : Entry) : Prop where
  opened : ∀ {id}, e.origin = .listener id → c.opens port id
  routes : e.routes.Forall fun key r => c.routes e.origin key r.owner

namespace Ports

variable {c : Charter} {config : Gateway.Config} {machine : Machine} {p p' : Ports} {port : UInt16}

/-- Ports **obey** a charter when they are lawful and their entries are within it. -/
structure Obeys (config : Gateway.Config) (c : Charter) (p : Ports) : Prop where
  lawful : p.Lawful config
  within : ∀ {k e}, p.get? k = some e → e.Within c k

/-- No ports obey every charter. -/
theorem obeys_empty : Obeys config c {} where
  lawful := lawful_empty
  within h := by simp [get?] at h

theorem Obeys.close (h : p.Obeys config c) {closing : UInt16 → Entry → Bool} :
    (p.close closing).Obeys config c where
  lawful := h.lawful.close
  within he := h.within (get?_close_eq_some.mp he).1

/-- A free port may be opened for modules, or for a listener that may be there: it has no routes
yet. -/
theorem Obeys.openPort (h : p.Obeys config c) {origin : Origin} {protocol : Protocol}
    (hfree : p.get? port = none) (hl : ∀ id, origin = .listener id → protocol = .minecraft)
    (ho : ∀ id, origin = .listener id → c.opens port id)
    (hok : p.openPort machine origin protocol (config.address port) = .ok p') :
    p'.Obeys config c where
  lawful := h.lawful.openPort hfree hl hok
  within {k e} he := by
    rw [get?_openPort hok] at he
    split at he
    · next hk =>
      obtain rfl := Option.some.inj he
      refine ⟨fun hid => hk ▸ ho _ hid, fun key r hr => ?_⟩
      rw [Entry.opened, Forwarder.new, Route.Table.get?_empty] at hr
      cases hr
    · exact h.within he

/-- Where routes change, only the new ones have to be looked at. -/
theorem Obeys.reroute {f : UInt16 → Entry → Route.Table} (h : p.Obeys config c)
    (hr : Rerouted f p p') (hl : p'.Lawful config)
    (hf : ∀ k e, p.get? k = some e → e.Within c k →
      (f k e).Forall fun key r => c.routes e.origin key r.owner) : p'.Obeys config c where
  lawful := hl
  within {k e} he := by
    rw [hr.get?] at he
    obtain ⟨e₀, he₀, rfl⟩ := Option.map_eq_some_iff.mp he
    exact ⟨(h.within he₀).opened, hf k e₀ he₀ (h.within he₀)⟩

/-- Taking routes away does no harm. -/
theorem Obeys.thin {f : Entry → Route.Table} (h : p.Obeys config c)
    (hf : ∀ e : Entry, e.routes.Thins (f e)) : (p.mapRoutes f).Obeys config c :=
  h.reroute rerouted_mapRoutes (h.lawful.thin hf) fun _ e _ hw => hw.routes.thin (hf e)

theorem Obeys.removeOwner {owner : String} (h : p.Obeys config c) :
    (p.removeOwner owner).Obeys config c :=
  h.thin fun _ => Route.Table.thins_removeOwner

/-- Where the routes of one port change, those of the others are within the charter as before. -/
theorem Obeys.modifyRoutes {f : Route.Table → Route.Table} (h : p.Obeys config c)
    (hl : (p.modifyRoutes port f).Lawful config)
    (hf : ∀ e, p.get? port = some e → e.Within c port →
      (f e.routes).Forall fun key r => c.routes e.origin key r.owner) :
    (p.modifyRoutes port f).Obeys config c := by
  refine h.reroute rerouted_modifyRoutes hl fun k e he hw => ?_
  split
  · next hk =>
    subst hk
    exact hf e he hw
  · exact hw.routes

end Ports

namespace Gateway

variable {c : Charter} {config : Config} {machine : Machine} {panel : Panel}
  {ports ports' : Ports} {s : Server} {m : Module}

/-! ### Opening the ports of listeners -/

/-- A listener that cannot be opened leaves ports that obey. -/
theorem obeys_tryListener {l : Listener} (h : ports.Obeys config c) (hl : c.AdmitsListener l) :
    (tryListener config machine ports l).Obeys config c := by
  rw [tryListener_eq]
  split
  · exact h
  · next hfree =>
    split
    · next hok =>
      refine h.openPort hfree (fun _ _ => rfl) ?_ hok
      rintro _ ⟨⟩
      exact hl
    · exact h

/-- Admitted listeners are opened on ports where they may be. -/
theorem obeys_openListeners {listeners : List Listener} (h : ports.Obeys config c)
    (hl : ∀ l ∈ listeners, c.AdmitsListener l) :
    (openListeners config machine listeners ports).Obeys config c :=
  List.foldlRecOn listeners _ h fun _ h l hmem => obeys_tryListener h (hl l hmem)

/-- The listeners that are wanted are some of those in the document. -/
theorem mem_of_mem_wantedListeners {l : Listener} : ∀ {listeners : List Listener},
    l ∈ wantedListeners listeners → l ∈ listeners
  | a :: rest, h => by
    simp only [wantedListeners] at h
    split at h
    · rcases List.mem_cons.mp h with rfl | h
      · exact List.mem_cons_self
      · exact List.mem_cons_of_mem a (mem_of_mem_wantedListeners h)
    · exact List.mem_cons_of_mem a (mem_of_mem_wantedListeners h)

/-! ### Setting the routes of modules -/

/-- The port that a module gets may be one that was open before: then it has the protocol that is
asked for. -/
theorem obeys_ensurePort {port : UInt16} {protocol : Protocol} (h : ports.Obeys config c)
    (hok : ensurePort config machine port protocol ports = .ok ports') :
    ports'.Obeys config c ∧ ∀ e, ports'.get? port = some e → e.protocol = protocol := by
  unfold ensurePort at hok
  split at hok
  · next e he =>
    split at hok
    · next hprotocol =>
      obtain rfl := Except.ok.inj hok
      refine ⟨h, fun e' he' => ?_⟩
      obtain rfl := Option.some.inj (he.symm.trans he')
      exact hprotocol
    · cases hok
  · next hfree =>
    refine ⟨h.openPort hfree (by rintro _ ⟨⟩) (by rintro _ ⟨⟩) hok, fun e he => ?_⟩
    rw [Ports.get?_openPort hok, if_pos rfl] at he
    obtain rfl := Option.some.inj he
    rfl

/-- **The routes of a module go on ports of modules**, or on a listener's port in the game's
protocol; an admitted module may have both. -/
theorem obeys_addModulePort {backendHost : String} {mp : ModulePort} (h : ports.Obeys config c)
    (hm : c.AdmitsModule m) (hmp : mp ∈ m.ports)
    (hok : addModulePort config machine m s backendHost mp ports = .ok ports') :
    ports'.Obeys config c := by
  have hl := ((builds_addModulePort hok).keeps h.lawful).1
  unfold addModulePort at hok
  split at hok
  · cases hok
  · next protocol hprotocol =>
    split at hok
    · cases hok
    · next ports₁ hensure =>
      obtain rfl := Except.ok.inj hok
      obtain ⟨h₁, hserves⟩ := obeys_ensurePort h hensure
      refine h₁.modifyRoutes hl fun e he hw => hw.routes.add ?_
      refine hm mp hmp e.origin ?_ _
      cases horigin : e.origin with
      | module => exact .inl rfl
      | listener id =>
        rw [hprotocol, ← hserves e he]
        exact .inr (congrArg some ((h₁.lawful.entry he).listener horigin))

/-- All ports of a module are covered by its being admitted once. -/
theorem obeys_addModulePorts {backendHost : String} (hm : c.AdmitsModule m) :
    ∀ (l : List ModulePort) (ports : Ports), (∀ mp ∈ l, mp ∈ m.ports) → ports.Obeys config c →
      (addModulePorts config machine m s backendHost l ports).2.Obeys config c
  | [], _, _, h => h
  | mp :: rest, ports, hl, h => by
    rw [addModulePorts]
    split
    · exact h
    · next hok =>
      exact obeys_addModulePorts hm rest _ (fun a ha => hl a (List.mem_cons_of_mem mp ha))
        (obeys_addModulePort h hm (hl mp List.mem_cons_self) hok)

/-! ### Setting all routes -/

/-- A server gets its route on the listener that places it, under the key that it is placed
under. -/
theorem obeys_restoreServer (h : ports.Obeys config c) (hs : c.AdmitsServer config s) :
    (restoreServer config machine s ports).Obeys config c := by
  have hl : (restoreServer config machine s ports).Lawful config :=
    (builds_restoreServer.keeps h.lawful).1
  unfold restoreServer at hl ⊢
  split at hl
  · next port container hport _ =>
    obtain ⟨id, hlistener, hid⟩ := Option.bind_eq_some_iff.mp hport
    split at hl
    · exact h
    · refine h.modifyRoutes hl fun e he hw => hw.routes.add ?_
      obtain ⟨e', he', horigin⟩ := Ports.exists_of_portOf? hid
      obtain rfl := Option.some.inj (he.symm.trans he')
      rw [keyOf_of_listenerAt h.lawful he horigin, horigin]
      exact hs id _ (place?_eq_some.mpr ⟨hlistener, rfl⟩)
  · exact h

/-- Modules without an address get no routes, so there is nothing to admit. -/
theorem obeys_restoreModule (h : ports.Obeys config c) (hm : c.AdmitsModule m) :
    (restoreModule config machine s ports m).Obeys config c := by
  unfold restoreModule
  split
  · exact h
  · split
    · exact h
    · exact obeys_addModulePorts hm m.ports ports (fun _ => id) h

theorem obeys_restore (h : ports.Obeys config c) (hs : c.AdmitsServer config s)
    (hm : ∀ m ∈ panel.modules, c.AdmitsModule m) :
    (restore config machine panel ports s).Obeys config c := by
  unfold restore
  split
  · exact List.foldlRecOn (panel.modulesOf s.id) _ (obeys_restoreServer h hs)
      fun _ h m hmem => obeys_restoreModule h (hm m (List.mem_filter.mp hmem).1)
  · exact h

/-- The records of an admitted document restore routes that may be where they are. -/
theorem obeys_restoreAll (h : ports.Obeys config c) (hp : c.Admits config panel) :
    (restoreAll config machine panel ports).Obeys config c :=
  List.foldlRecOn panel.servers _ h fun _ h s hmem => obeys_restore h (hp.servers s hmem) hp.modules

/-- **Reconciling with an admitted document obeys**: ports that stay have lost their routes
before. -/
theorem obeys_reconcile (h : ports.Obeys config c) (hp : c.Admits config panel) :
    (reconcile config machine panel ports).Obeys config c := by
  have hcleared : (ports.mapRoutes fun e => e.routes.clear).Obeys config c :=
    h.thin fun _ => Route.Table.thins_clear
  refine (obeys_restoreAll (obeys_openListeners hcleared.close fun l hl => ?_) hp).close
  exact hp.listeners l (mem_of_mem_wantedListeners hl)

/-! ### Calls -/

variable {g : Gateway}

/-- A gateway **obeys** a charter when its ports do and the charter admits its document. -/
structure Obeys (c : Charter) (g : Gateway) : Prop where
  ports : g.ports.Obeys g.config c
  panel : c.Admits g.config g.panel

theorem obeys_start (h : g.Obeys c) : (g.start machine).Obeys c where
  ports := obeys_restoreAll (obeys_openListeners h.ports fun l hl =>
    h.panel.listeners l (List.mem_filter.mp hl).1) h.panel
  panel := h.panel

theorem obeys_refresh (h : g.Obeys c) : (g.refresh machine).Obeys c :=
  ⟨obeys_reconcile h.ports h.panel, h.panel⟩

/-- A listener that is added has its port opened and its record saved; it is admitted for both. -/
theorem obeys_addListener {l : Listener} (h : g.Obeys c) (hl : c.AdmitsListener l) :
    (g.addListener machine l).2.Obeys c := by
  have hpanel : c.Admits g.config (g.store.saveListener l).2.panel := h.panel.storeListener hl
  unfold addListener
  dsimp only
  split
  · exact h
  · next ports hok =>
    have hports : ports.Obeys g.config c := by
      split at hok
      · cases hok
      · split at hok
        · have htry : tryListener g.config machine g.ports l = ports := by rw [tryListener, hok]
          exact htry ▸ obeys_tryListener h.ports hl
        · obtain rfl := Except.ok.inj hok
          exact h.ports
    split
    · next store hsave =>
      rw [hsave] at hpanel
      exact ⟨hports, hpanel⟩
    · next store hsave =>
      rw [hsave] at hpanel
      exact ⟨hports.close, hpanel⟩

/-- What is left when a listener has gone has been within the charter before. -/
theorem obeys_removeListener {port : UInt16} (h : g.Obeys c) :
    (g.removeListener port).2.Obeys c := by
  cases hon : g.listenerOn? port with
  | none =>
    rw [removeListener_of_none hon]
    exact h
  | some id =>
    obtain ⟨store, ⟨heq, hpanel⟩ | ⟨cause, heq, hpanel⟩⟩ := removeListener_cases hon
    · have hadmits : c.Admits g.config store.panel := hpanel ▸ h.panel.eraseListener
      rw [heq]
      exact ⟨h.ports.close, hadmits⟩
    · have hadmits : c.Admits g.config store.panel := hpanel ▸ h.panel
      rw [heq]
      exact ⟨h.ports, hadmits⟩

theorem obeys_removeServer {id : ServerId} (h : g.Obeys c) : (g.removeServer id).2.Obeys c :=
  ⟨h.ports.removeOwner, h.panel⟩

theorem obeys_removeHostname {hostname : String} {listener : Option ListenerId} (h : g.Obeys c) :
    (g.removeHostname hostname listener).2.Obeys c := by
  have hremoved : (g.ports.mapRoutes fun e =>
      if concerns listener e then e.routes.remove hostname else e.routes).Obeys g.config c :=
    h.ports.thin thins_of_concerns
  cases listener with
  | none => exact ⟨hremoved.close, h.panel⟩
  | some id => exact ⟨hremoved, h.panel⟩

/-- A routable server gets a route in its place, and for any other one routes only go. -/
theorem obeys_updateServer (h : g.Obeys c) (hs : c.AdmitsServer g.config s) :
    (g.updateServer machine s).2.Obeys c := by
  have hl : (g.updateServer machine s).2.ports.Lawful g.config :=
    (keeps_updateServer.2 h.ports.lawful).1
  cases hroutable : s.status.isRoutable with
  | false =>
    rw [updateServer_of_not_isRoutable hroutable]
    cases s.listener with
    | none => exact h
    | some l => exact obeys_removeHostname h
  | true =>
    cases hr : routeFor? g.config machine s with
    | none =>
      rw [updateServer_of_isRoutable hroutable hr]
      exact h
    | some lr =>
      obtain ⟨l, r⟩ := lr
      rw [updateServer_of_routeFor?_eq_some hr] at hl ⊢
      cases hport : g.ports.portOf? l with
      | none => exact h
      | some port =>
        rw [hport] at hl
        obtain ⟨hlistener, -, container, backendHost, -, -, rfl⟩ := routeFor?_eq_some.mp hr
        refine ⟨h.ports.modifyRoutes hl fun e he hw => ?_, h.panel⟩
        obtain ⟨e', he', horigin⟩ := Ports.exists_of_portOf? hport
        obtain rfl := Option.some.inj (he.symm.trans he')
        unfold upsertRoute
        split
        · -- the route keeps its owner
          exact hw.routes.update id
        · refine hw.routes.add ?_
          rw [keyOf_of_listenerAt h.ports.lawful he horigin, horigin]
          exact hs l _ (place?_eq_some.mpr ⟨hlistener, rfl⟩)

/-- An admitted module may have all routes that adding it sets, whichever of them it comes to. -/
theorem obeys_addModule (h : g.Obeys c) (hm : c.AdmitsModule m) :
    (g.addModule machine m s).2.Obeys c := by
  unfold addModule
  split
  · exact h
  · split
    · exact h
    · exact ⟨obeys_addModulePorts hm m.ports _ (fun _ => id) h.ports, h.panel⟩

/-- For a module that is updated nothing more has to be admitted: what it had before goes first. -/
theorem obeys_updateModule (h : g.Obeys c) (hm : c.AdmitsModule m) :
    (g.updateModule machine m s).2.Obeys c := by
  unfold updateModule
  split
  · exact h
  · next backendHost _ =>
    have hclosed : ((g.ports.removeOwner m.id.toString).close (isRetagged m)).Obeys g.config c :=
      h.ports.removeOwner.close
    cases backendHost with
    | none => exact ⟨hclosed.close, h.panel⟩
    | some backendHost =>
      exact ⟨(obeys_addModulePorts hm m.ports _ (fun _ => id) hclosed).close, h.panel⟩

theorem obeys_removeModule {id : ModuleId} (h : g.Obeys c) : (g.removeModule id).2.Obeys c :=
  ⟨h.ports.removeOwner.close, h.panel⟩

/-- **No event goes beyond a charter** that admits the store: what an event sets, it sets for
records of the store. -/
theorem obeys_applyEvent (h : g.Obeys c) (e : Event) : (g.applyEvent machine e).2.Obeys c :=
  EventInvariant.applyEvent {
    removeServer := obeys_removeServer
    removeHostname := obeys_removeHostname
    -- the place of a server does not depend on its status
    updateServer := fun {_ s} h hs _ => obeys_updateServer h (h.panel.servers s hs)
    addListener := fun h hl => obeys_addListener h (h.panel.listeners _ hl)
    removeListener := obeys_removeListener
    updateModule := fun h hm => obeys_updateModule h (h.panel.modules _ hm)
    removeModule := obeys_removeModule } h e

/-! ### Runs -/

/-- The records that a gateway is given in a turn. -/
def Turn.records : Turn → Panel
  | .store s => s.panel
  | .call _ (.addListener l) => { Panel.empty with listeners := [l] }
  | .call _ (.updateServer s) => { Panel.empty with servers := [s] }
  | .call _ (.addModule m _) => { Panel.empty with modules := [m] }
  | .call _ (.updateModule m _) => { Panel.empty with modules := [m] }
  | .call _ _ => .empty

/-- The **records of a run**, beginning with those in the store before it. -/
def records (store : Store) (turns : List Turn) : List Panel :=
  store.panel :: turns.map Turn.records

/-- **Every turn obeys a charter** that admits the records of the turn. -/
theorem obeys_take (h : g.Obeys c) (turn : Turn) (hturn : c.Admits g.config turn.records) :
    (g.take turn).Obeys c := by
  cases turn with
  | store store => exact ⟨h.ports, hturn⟩
  | call machine call =>
    cases call with
    | start => exact obeys_start h
    | stop => exact ⟨h.ports.close, h.panel⟩
    | refresh => exact obeys_refresh h
    | addListener l => exact obeys_addListener h (hturn.listeners l List.mem_cons_self)
    | removeListener port => exact obeys_removeListener h
    | updateServer s => exact obeys_updateServer h (hturn.servers s List.mem_cons_self)
    | removeServer id => exact obeys_removeServer h
    | removeHostname hostname listener => exact obeys_removeHostname h
    | addModule m s => exact obeys_addModule h (hturn.modules m List.mem_cons_self)
    | updateModule m s => exact obeys_updateModule h (hturn.modules m List.mem_cons_self)
    | removeModule id => exact obeys_removeModule h
    | event e => exact obeys_applyEvent h e

/-- **The gateway behind every run obeys each charter** that admits the records of the run. -/
theorem obeys_after {store : Store} {turns : List Turn}
    (h : ∀ p ∈ records store turns, c.Admits config p) :
    ((new config store).after turns).Obeys c := by
  have hrun : ∀ (turns : List Turn) (g : Gateway), g.Obeys c →
      (∀ turn ∈ turns, c.Admits g.config turn.records) → (g.after turns).Obeys c := by
    intro turns
    induction turns with
    | nil => exact fun _ hg _ => hg
    | cons turn rest ih =>
      intro g hg hturns
      refine ih (g.take turn) (obeys_take hg turn (hturns turn List.mem_cons_self)) ?_
      rw [(keeps_take turn).1]
      exact fun t ht => hturns t (List.mem_cons_of_mem turn ht)
  have hnew : (new config store).Obeys c :=
    ⟨Ports.obeys_empty, h store.panel List.mem_cons_self⟩
  exact hrun turns _ hnew fun turn hturn =>
    h turn.records (List.mem_cons_of_mem _ (List.mem_map_of_mem hturn))

end Gateway

end GameGateway
