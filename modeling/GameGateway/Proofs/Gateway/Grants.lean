import GameGateway.Proofs.Gateway.Handling
import GameGateway.Proofs.Gateway.Sharing

/-!
# What a refresh leaves

The records **grant** routes: a routable server one on the port of its listener, and its modules one
for each port they declare, up to the first that cannot be served. A refresh sets them in the order
of the records, so of those under one key on a port the last is in force, and there are no other
routes (`route?_reconcile`). Whether a port of a module is served can be told from the ports that a
refresh leaves, since setting routes closes none and changes the protocol of none.
-/

namespace GameGateway

/-- A **grant** of a route on a port. -/
structure Grant where
  port : UInt16
  route : Route
  deriving DecidableEq

/-- The route under a key on a port that is the last to be granted. -/
def lastGrant? (grants : List Grant) (port : UInt16) (key : String) : Option Route :=
  ((grants.filter fun g => g.port = port ∧ g.route.key = key).getLast?).map (·.route)

/-- Of two lists of grants, the second one has the last word. -/
theorem lastGrant?_append {grants grants' : List Grant} {k : UInt16} {key : String} :
    lastGrant? (grants ++ grants') k key =
      (lastGrant? grants' k key).or (lastGrant? grants k key) := by
  rw [lastGrant?, List.filter_append, List.getLast?_append, Option.map_or]
  rfl

theorem lastGrant?_singleton {g : Grant} {k : UInt16} {key : String} :
    lastGrant? [g] k key = if g.port = k ∧ g.route.key = key then some g.route else none := by
  unfold lastGrant?
  by_cases h : g.port = k ∧ g.route.key = key
  · simp [h]
  · simp [h]

/-- Whoever is granted a route leaves one under its key. -/
theorem exists_lastGrant? {grants : List Grant} {g : Grant} (h : g ∈ grants) :
    ∃ r, lastGrant? grants g.port g.route.key = some r := by
  have hmem : g ∈ grants.filter fun g' => g'.port = g.port ∧ g'.route.key = g.route.key :=
    List.mem_filter.mpr ⟨h, by simp⟩
  rw [lastGrant?, List.getLast?_eq_some_getLast (List.ne_nil_of_mem hmem)]
  exact ⟨_, rfl⟩

/-- Whether a port of a module is **served**: it is open for the protocol of the port. -/
def ModulePort.isServedBy (p : Ports) (mp : ModulePort) : Bool :=
  (p.get? mp.listenPort).any fun e => mp.protocol? = some e.protocol

/-- A port is served by an entry with its protocol, whatever that was opened for. -/
theorem ModulePort.isServedBy_iff {p : Ports} {mp : ModulePort} : mp.isServedBy p = true ↔
    ∃ e, p.get? mp.listenPort = some e ∧ mp.protocol? = some e.protocol := by
  rw [isServedBy]
  cases p.get? mp.listenPort with
  | none => simp
  | some e => simp

/-- A proper entry keeps a route under the key that its protocol asks for. -/
theorem Entry.Proper.keyOf_eq {config : Gateway.Config} {port : UInt16} {e : Entry}
    (h : e.Proper config port) {spelling : String} : e.routes.keyOf spelling =
      if e.protocol.isVirtualHosted then Route.Key.normalize spelling else Route.Key.only := by
  rw [Route.Table.keyOf, h.virtualHosts]

namespace Ports

variable {config : Gateway.Config} {machine : Machine} {p p' p'' : Ports} {k port : UInt16}
  {key : String} {e : Entry} {gs gs' : List Grant}

/-- Ports are **granted** routes when they have those and no others. -/
def Granted (grants : List Grant) (p : Ports) : Prop :=
  ∀ k key, p.route? k key = lastGrant? grants k key

/-- Ports **gain** granted routes when they keep all others. -/
def Gains (grants : List Grant) (p p' : Ports) : Prop :=
  ∀ k key, p'.route? k key = (lastGrant? grants k key).or (p.route? k key)

theorem Gains.refl : p.Gains [] p :=
  fun _ _ => rfl

/-- What is gained twice is gained in this order. -/
theorem Gains.trans (h : p.Gains gs p') (h' : p'.Gains gs' p'') : p.Gains (gs ++ gs') p'' := by
  intro k key
  rw [h' k key, h k key, lastGrant?_append, Option.or_assoc]

/-- Ports that have what has been granted have it with what they gain. -/
theorem Granted.gain (h : p.Granted gs) (hgains : p.Gains gs' p') : p'.Granted (gs ++ gs') := by
  intro k key
  rw [hgains k key, h k key, lastGrant?_append]

/-- Adding a route grants it. -/
theorem gains_add (he : p.get? port = some e) (owner spelling host : String)
    (backendPort : UInt16) :
    p.Gains [⟨port, ⟨owner, e.routes.keyOf spelling, host, backendPort, true⟩⟩]
      (p.modifyRoutes port fun t => t.add owner spelling host backendPort) := by
  intro k key
  rw [lastGrant?_singleton, route?_modifyRoutes]
  by_cases hk : port = k
  · subst hk
    rw [if_pos rfl, he, Option.bind_some, Route.Table.get?_add, route?, he, Option.bind_some]
    by_cases hkey : e.routes.keyOf spelling = key
    · rw [if_pos hkey, if_pos ⟨rfl, hkey⟩, Option.some_or, hkey]
    · rw [if_neg hkey, if_neg fun hcond => hkey hcond.2, Option.none_or]
  · rw [if_neg hk, if_neg fun hcond => hk hcond.1, Option.none_or]

/-- A port that is open for modules has a route if ports are busy. -/
theorem Busy.exists_route (h : p.Busy) (he : p.get? k = some e) (horigin : e.origin = .module) :
    ∃ key r, e.routes.get? key = some r := by
  have hbusy : isIdle e = false := h k e he
  simp only [isIdle, horigin, decide_true, Bool.true_and] at hbusy
  exact Route.Table.exists_of_isEmpty hbusy

end Ports

namespace Gateway

open Ports (Leads Granted)

variable {config : Config} {machine : Machine} {panel : Panel} {p p' last ports : Ports}
  {s : Server} {m : Module} {mp : ModulePort} {backendHost : String} {gs gs' : List Grant}

/-! ### The grants of records -/

/-- The grant of a server whose listener has a port. -/
def serverGrant? (config : Config) (machine : Machine) (p : Ports) (s : Server) : Option Grant :=
  (routeFor? config machine s).bind fun lr => (p.portOf? lr.1).map fun port => ⟨port, lr.2⟩

/-- The backend of a module, if its container has an address. -/
def moduleBackend? (config : Config) (machine : Machine) (s : Server) (m : Module) :
    Option String :=
  (m.backendContainer s).bind fun container => (config.resolve machine container).toOption

/-- The grant for a port of a module. -/
def portGrant? (config : Config) (m : Module) (s : Server) (backendHost : String)
    (mp : ModulePort) : Option Grant :=
  mp.protocol?.map fun protocol => {
    port := mp.listenPort
    route := {
      owner := m.id.toString
      key :=
        if protocol.isVirtualHosted then Route.Key.normalize (moduleKey config s mp protocol)
        else Route.Key.only
      backendHost
      backendPort := mp.backendPort
      active := true } }

/-- The grants of a module: those for the ports it declares, up to the first that is not served. -/
def moduleGrants (config : Config) (machine : Machine) (p : Ports) (s : Server) (m : Module) :
    List Grant :=
  match moduleBackend? config machine s m with
  | none => []
  | some backendHost =>
    (m.ports.takeWhile (·.isServedBy p)).filterMap (portGrant? config m s backendHost)

/-- The grants of a server and its modules, if it is routable. -/
def grantsOf (config : Config) (machine : Machine) (panel : Panel) (p : Ports) (s : Server) :
    List Grant :=
  if s.status.isRoutable then
    (serverGrant? config machine p s).toList ++
      (panel.modulesOf s.id).flatMap (moduleGrants config machine p s)
  else []

/-- The **grants** of a document, in the order of its records. -/
def grants (config : Config) (machine : Machine) (panel : Panel) (p : Ports) : List Grant :=
  panel.servers.flatMap (grantsOf config machine panel p)

/-! ### Setting grants step by step -/

/-- A step **sets** grants when it adds them to those that ports are granted, on the way to the last
ports. -/
def Sets (config : Config) (machine : Machine) (last : Ports) (f : Ports → Ports)
    (gs' : List Grant) : Prop :=
  ∀ p gs, p.Proper config → (f p).Leads config machine last → p.Granted gs →
    (f p).Granted (gs ++ gs')

theorem sets_id : Sets config machine last (fun p => p) [] := by
  intro p gs _ _ h
  rwa [List.append_nil]

/-- What two steps set, they set one after the other, as long as each of them leads on. -/
theorem Sets.comp {f g : Ports → Ports} (hg : Sets config machine last g gs')
    (hf : Sets config machine last f gs) (hleads : ∀ p, Leads config machine p (f p))
    (hleads' : ∀ p, Leads config machine p (g p)) :
    Sets config machine last (fun p => g (f p)) (gs ++ gs') := by
  intro p given hp hlast h
  rw [← List.append_assoc]
  exact hg (f p) _ ((hleads p).moves.proper hp) hlast
    (hf p given hp ((hleads' (f p)).trans hlast) h)

/-- The grants of many records are set in the order of the records. -/
theorem sets_foldl {α : Type} {f : Ports → α → Ports} {granted : α → List Grant}
    (hf : ∀ a, Sets config machine last (fun p => f p a) (granted a))
    (hleads : ∀ (p : Ports) (a : α), Leads config machine p (f p a)) :
    ∀ l : List α, Sets config machine last (fun p => l.foldl f p) (l.flatMap granted)
  | [] => sets_id
  | a :: l =>
    (sets_foldl hf hleads l).comp (hf a) (fun p => hleads p a) (Ports.leads_foldl hleads l)

/-! ### The routes of servers -/

/-- A routable server has its route set where its listener has a port. -/
theorem sets_restoreServer (hroutable : s.status.isRoutable = true) :
    Sets config machine last (restoreServer config machine s)
      (serverGrant? config machine last.evict s).toList := by
  intro p gs hp hlast h
  have hleads : p.Leads config machine last := leads_restoreServer.trans hlast
  rw [serverGrant?]
  cases hr : routeFor? config machine s with
  | none =>
    rw [restoreServer_of_routeFor?_eq_none hroutable hr]
    simpa using h
  | some lr =>
    obtain ⟨l, r⟩ := lr
    rw [restoreServer_of_routeFor?_eq_some hr, Option.bind_some, hleads.portOf?_eq]
    cases hport : p.portOf? l with
    | none => simpa using h
    | some port =>
      obtain ⟨e, he, hid⟩ := Ports.exists_of_portOf? hport
      obtain ⟨-, -, container, backendHost, -, -, rfl⟩ := routeFor?_eq_some.mp hr
      have hadd := h.gain
        (Ports.gains_add he s.id.toString (config.hostnames.hostname s) backendHost s.gamePort)
      rwa [(hp.entry he).keyOf_eq, (hp.entry he).listener hid] at hadd

/-! ### The routes of modules -/

/-- What making sure of a port leaves. -/
theorem get?_ensurePort {port : UInt16} {protocol : Protocol}
    (hok : ensurePort config machine port protocol p = .ok p') :
    (∃ e, p'.get? port = some e ∧ e.protocol = protocol) ∧
      ∀ k key, p'.route? k key = p.route? k key := by
  unfold ensurePort at hok
  split at hok
  · next e he =>
    split at hok
    · next hprotocol =>
      obtain rfl := Except.ok.inj hok
      exact ⟨⟨e, he, hprotocol⟩, fun _ _ => rfl⟩
    · cases hok
  · next hfree =>
    have hget : ∀ k, p'.get? k = _ := fun k => Ports.get?_openPort hok
    refine ⟨⟨.opened .module protocol (config.address port), ?_, rfl⟩, fun k key => ?_⟩
    · rw [hget, if_pos rfl]
    · rw [Ports.route?, Ports.route?, hget]
      split
      · next hk =>
        -- the port has no routes yet
        rw [← hk, hfree]
        exact Route.Table.get?_empty
      · rfl

/-- Adding a port of a module makes sure of it first. -/
theorem exists_of_addModulePort (hok : addModulePort config machine m s backendHost mp p = .ok p') :
    ∃ protocol p₁, mp.protocol? = some protocol ∧
      ensurePort config machine mp.listenPort protocol p = .ok p₁ ∧
      p' = p₁.modifyRoutes mp.listenPort fun t =>
        t.add m.id.toString (moduleKey config s mp protocol) backendHost mp.backendPort := by
  unfold addModulePort at hok
  split at hok
  · cases hok
  · next protocol hprotocol =>
    split at hok
    · cases hok
    · next p₁ hensure => exact ⟨protocol, p₁, hprotocol, hensure, (Except.ok.inj hok).symm⟩

/-- A port of a module that is added gains the route that it grants. -/
theorem gains_addModulePort (hp : p.Proper config)
    (hok : addModulePort config machine m s backendHost mp p = .ok p') :
    ∃ g, portGrant? config m s backendHost mp = some g ∧ p.Gains [g] p' := by
  obtain ⟨protocol, p₁, hprotocol, hensure, rfl⟩ := exists_of_addModulePort hok
  obtain ⟨⟨e, he, rfl⟩, hroutes⟩ := get?_ensurePort hensure
  have hmoves : p.Moves config (fun _ _ => False) p₁ := moves_ensurePort hensure
  have hensured : p.Gains [] p₁ := hroutes
  have hadd := hensured.trans (Ports.gains_add he m.id.toString
    (moduleKey config s mp e.protocol) backendHost mp.backendPort)
  rw [((hmoves.proper hp).entry he).keyOf_eq] at hadd
  exact ⟨_, congrArg (Option.map _) hprotocol, hadd⟩

/-- A port that has been added is served in the end, since it has a route. -/
theorem isServedBy_of_ok (hok : addModulePort config machine m s backendHost mp p = .ok p')
    (hlast : p'.Grows machine last) : mp.isServedBy last.evict = true := by
  obtain ⟨protocol, p₁, hprotocol, hensure, rfl⟩ := exists_of_addModulePort hok
  obtain ⟨⟨e, he, rfl⟩, -⟩ := get?_ensurePort hensure
  obtain ⟨e', he', hc⟩ := hlast.kept mp.listenPort _
    (by rw [Ports.get?_modifyRoutes, if_pos rfl, he]; rfl)
  have hbusy : Ports.isIdle e' = false := by
    refine hc.not_idle ?_
    simp [Ports.isIdle, Route.Table.isEmpty_add]
  have hget : last.evict.get? mp.listenPort = some e' :=
    Ports.get?_close_eq_some.mpr ⟨he', hbusy⟩
  exact ModulePort.isServedBy_iff.mpr ⟨e', hget, hprotocol.trans (congrArg some hc.protocol.symm)⟩

/-- A port that cannot be added is not served in the end, either: what stands in the way stays, and
what could not be bound cannot be bound later. -/
theorem isServedBy_of_error {cause : GatewayError} (hp : p.Proper config)
    (herror : addModulePort config machine m s backendHost mp p = .error cause)
    (hlast : p.Leads config machine last) : mp.isServedBy last.evict = false := by
  rw [Bool.eq_false_iff]
  intro hserved
  obtain ⟨e', hget, hprotocol⟩ := ModulePort.isServedBy_iff.mp hserved
  have he' := (Ports.get?_close_eq_some.mp hget).1
  cases hensure : ensurePort config machine mp.listenPort e'.protocol p with
  | ok p₁ =>
    rw [addModulePort_eq_ok m s backendHost hprotocol hensure] at herror
    cases herror
  | error cause' =>
    unfold ensurePort at hensure
    split at hensure
    · next e he =>
      split at hensure
      · cases hensure
      · next hne =>
        obtain ⟨e₁, he₁, hc⟩ := hlast.grows.kept _ e he
        obtain rfl := Option.some.inj (he'.symm.trans he₁)
        exact hne hc.protocol.symm
    · next hfree =>
      have hbindable := hlast.grows.bindable _ e' he' hfree
      rw [((hlast.moves.proper hp).entry he').socket_eq] at hbindable
      rw [Ports.openPort_address, hp.bindFault_eq hfree, hbindable] at hensure
      cases hensure

/-- Ports of a module are added one after the other. -/
theorem addModulePorts_append {l l' : List ModulePort} :
    addModulePorts config machine m s backendHost (l ++ l') p =
      match addModulePorts config machine m s backendHost l p with
      | (.error cause, p') => (.error cause, p')
      | (.ok (), p') => addModulePorts config machine m s backendHost l' p' := by
  induction l generalizing p with
  | nil => rfl
  | cons mp rest ih =>
    rw [List.cons_append, addModulePorts, addModulePorts]
    split
    · rfl
    · exact ih

/-- A module that goes on to further ports keeps what it has on those before. -/
theorem leads_addModulePorts_append {l l' : List ModulePort} :
    (addModulePorts config machine m s backendHost l p).2.Leads config machine
      (addModulePorts config machine m s backendHost (l ++ l') p).2 := by
  rw [addModulePorts_append]
  split
  · next heq =>
    rw [heq]
    exact .refl
  · next heq =>
    rw [heq]
    exact leads_addModulePorts l'

/-- **Ports of a module have been added without failure just when they are all served in the
end.** -/
theorem addModulePorts_eq_ok_iff (hp : p.Proper config) {l : List ModulePort}
    (hlast : (addModulePorts config machine m s backendHost l p).2.Leads config machine last) :
    (addModulePorts config machine m s backendHost l p).1 = .ok () ↔
      ∀ mp ∈ l, mp.isServedBy last.evict = true := by
  induction l generalizing p with
  | nil => exact iff_of_true rfl nofun
  | cons mp rest ih =>
    rw [List.forall_mem_cons]
    cases hadd : addModulePort config machine m s backendHost mp p with
    | error cause =>
      rw [addModulePorts_cons_of_error hadd] at hlast ⊢
      rw [isServedBy_of_error hp hadd hlast]
      exact iff_of_false nofun nofun
    | ok p' =>
      rw [addModulePorts_cons_of_ok hadd] at hlast ⊢
      have hserved := isServedBy_of_ok hadd ((leads_addModulePorts rest).trans hlast).grows
      rw [ih ((leads_addModulePort hadd).moves.proper hp) hlast]
      exact (and_iff_right hserved).symm

/-- **The ports of a module that are set are those in front of the first one that is not served**,
by the ports that are there at the end. -/
theorem sets_addModulePorts (l : List ModulePort) :
    Sets config machine last (fun p => (addModulePorts config machine m s backendHost l p).2)
      ((l.takeWhile (·.isServedBy last.evict)).filterMap (portGrant? config m s backendHost)) := by
  induction l with
  | nil => exact sets_id
  | cons mp rest ih =>
    intro p gs hp hlast h
    dsimp only at hlast ⊢
    cases hadd : addModulePort config machine m s backendHost mp p with
    | error cause =>
      rw [addModulePorts_cons_of_error hadd] at hlast ⊢
      rw [List.takeWhile_cons, isServedBy_of_error hp hadd hlast]
      simpa using h
    | ok p' =>
      rw [addModulePorts_cons_of_ok hadd] at hlast ⊢
      have hserved := isServedBy_of_ok hadd ((leads_addModulePorts rest).trans hlast).grows
      obtain ⟨g, hg, hgains⟩ := gains_addModulePort hp hadd
      have hrest := ih p' _ ((leads_addModulePort hadd).moves.proper hp) hlast (h.gain hgains)
      rw [List.takeWhile_cons, hserved, if_pos rfl, List.filterMap_cons, hg]
      rwa [List.append_assoc] at hrest

/-- A module with a backend gets its ports. -/
theorem restoreModule_eq : restoreModule config machine s p m =
    match moduleBackend? config machine s m with
    | none => p
    | some backendHost => (addModulePorts config machine m s backendHost m.ports p).2 := by
  unfold restoreModule moduleBackend?
  cases m.backendContainer s with
  | none => rfl
  | some container =>
    dsimp only [Option.bind_some]
    cases config.resolve machine container with
    | error cause => rfl
    | ok backendHost => rfl

/-- A module has the routes set that it grants. -/
theorem sets_restoreModule : Sets config machine last (fun p => restoreModule config machine s p m)
    (moduleGrants config machine last.evict s m) := by
  intro p
  simp only [restoreModule_eq, moduleGrants]
  cases moduleBackend? config machine s m with
  | none => exact sets_id p
  | some backendHost => exact sets_addModulePorts m.ports p

/-! ### Setting all routes -/

/-- A server that is routable has its own route set first, and then those of its modules. -/
theorem sets_restore : Sets config machine last (fun p => restore config machine panel p s)
    (grantsOf config machine panel last.evict s) := by
  intro p
  unfold restore grantsOf
  split
  · next hroutable =>
    have hleads : ∀ (p : Ports) (m : Module),
        p.Leads config machine (restoreModule config machine s p m) :=
      fun _ _ => leads_restoreModule
    have hmodules : Sets config machine last
        (fun p => (panel.modulesOf s.id).foldl (restoreModule config machine s) p)
        ((panel.modulesOf s.id).flatMap (moduleGrants config machine last.evict s)) :=
      sets_foldl (fun _ => sets_restoreModule) hleads _
    exact hmodules.comp (sets_restoreServer hroutable) (fun _ => leads_restoreServer)
      (Ports.leads_foldl hleads _) p
  · exact sets_id p

/-- **All grants are set**, in the order of the records. -/
theorem sets_restoreAll : Sets config machine last (restoreAll config machine panel)
    (grants config machine panel last.evict) :=
  sets_foldl (fun _ => sets_restore) (fun _ _ => leads_restore) panel.servers

/-! ### Refreshing -/

/-- Only an enabled listener is wanted. -/
theorem enabled_of_mem_wantedListeners {l : Listener} : ∀ {listeners : List Listener},
    l ∈ wantedListeners listeners → l.enabled = true
  | a :: rest, h => by
    simp only [wantedListeners] at h
    split at h
    · next ha =>
      rcases List.mem_cons.mp h with rfl | h
      · exact (Bool.and_eq_true_iff.mp ha).1
      · exact enabled_of_mem_wantedListeners h
    · exact enabled_of_mem_wantedListeners h

/-- A port is open for a listener after a refresh only where the listener's record has it. -/
theorem exists_listener_of_reconcile {k : UInt16} {id : ListenerId}
    (hk : (reconcile config machine panel ports).listenerAt k = some id) :
    ∃ l ∈ panel.listeners, l.enabled = true ∧ l.id = id ∧ l.port = k := by
  rw [reconcile_eq, Ports.listenerAt_evict, rebuildPorts, leads_restoreAll.listenerAt] at hk
  obtain ⟨l, hl, hid, hport⟩ := cleared_reopenPorts.exists_wanted hk
  exact ⟨l, mem_of_mem_wantedListeners hl, enabled_of_mem_wantedListeners hl, hid, hport⟩

theorem proper_reopenPorts (h : ports.Proper config) :
    (reopenPorts config machine panel ports).Proper config := by
  have hmoves : ports.Moves config (fun _ _ => True) (reopenPorts config machine panel ports) :=
    moves_reopenPorts fun _ _ => trivial
  exact hmoves.proper h

/-- **A refresh leaves the routes that are granted**, of those under one key on a port the last. -/
theorem granted_reconcile (h : ports.Proper config) :
    (reconcile config machine panel ports).Granted
      (grants config machine panel (reconcile config machine panel ports)) := by
  have hnone : (reopenPorts config machine panel ports).Granted [] :=
    fun _ _ => cleared_reopenPorts.route?_eq_none
  have hsets : Sets config machine (rebuildPorts config machine panel ports)
      (restoreAll config machine panel)
      (grants config machine panel (reconcile config machine panel ports)) := sets_restoreAll
  intro k key
  rw [reconcile_eq, Ports.route?_evict]
  exact hsets _ [] (proper_reopenPorts h) .refl hnone k key

/-- A server whose listener has a port is granted a route there. -/
theorem mem_grants_of_routeFor? {p : Ports} {k : UInt16} {l : ListenerId} {r : Route}
    (hu : p.Unshared) (hs : s ∈ panel.servers) (hr : routeFor? config machine s = some (l, r))
    (hk : p.listenerAt k = some l) : ⟨k, r⟩ ∈ grants config machine panel p := by
  have hroutable := (routeFor?_eq_some.mp hr).2.1
  have hgrant : serverGrant? config machine p s = some ⟨k, r⟩ := by
    rw [serverGrant?, hr, Option.bind_some, hu.portOf?_eq_some.mpr hk, Option.map_some]
  refine List.mem_flatMap.mpr ⟨s, hs, ?_⟩
  rw [grantsOf, if_pos hroutable, hgrant]
  exact List.mem_cons_self

/-- The ports when the turn of a module comes in a refresh, behind those of the servers and modules
before it. -/
def portsBefore (config : Config) (machine : Machine) (panel : Panel) (ports : Ports)
    (before : List Server) (s : Server) (earlier : List Module) : Ports :=
  earlier.foldl (restoreModule config machine s) (restoreServer config machine s
    (before.foldl (restore config machine panel) (reopenPorts config machine panel ports)))

section Turns

variable {before after : List Server} {earlier later : List Module}
  {declared rest : List ModulePort}

theorem leads_portsBefore : (reopenPorts config machine panel ports).Leads config machine
    (portsBefore config machine panel ports before s earlier) :=
  .trans (Ports.leads_foldl (fun _ _ => leads_restore) before _)
    (leads_restoreServer.trans (Ports.leads_foldl (fun _ _ => leads_restoreModule) earlier _))

/-- What stands when a module's turn comes leads on to the outcome. -/
theorem leads_rebuildPorts (hservers : panel.servers = before ++ s :: after)
    (hroutable : s.status.isRoutable = true)
    (hmodules : panel.modulesOf s.id = earlier ++ m :: later) :
    (restoreModule config machine s (portsBefore config machine panel ports before s earlier)
      m).Leads config machine (rebuildPorts config machine panel ports) := by
  have hrestore : restore config machine panel
      (before.foldl (restore config machine panel) (reopenPorts config machine panel ports)) s =
      later.foldl (restoreModule config machine s) (restoreModule config machine s
        (portsBefore config machine panel ports before s earlier) m) := by
    rw [restore, if_pos hroutable, hmodules, List.foldl_append, List.foldl_cons, portsBefore]
  rw [rebuildPorts, restoreAll, hservers, List.foldl_append, List.foldl_cons, hrestore]
  exact .trans (Ports.leads_foldl (fun _ _ => leads_restoreModule) later _)
    (Ports.leads_foldl (fun _ _ => leads_restore) after _)

/-- **Which ports a module gets in its turn** can be told from what a refresh leaves: those in front
of the first that is not served. -/
theorem addModulePorts_portsBefore_iff (h : ports.Proper config)
    (hservers : panel.servers = before ++ s :: after) (hroutable : s.status.isRoutable = true)
    (hmodules : panel.modulesOf s.id = earlier ++ m :: later)
    (hbackend : moduleBackend? config machine s m = some backendHost)
    (hports : m.ports = declared ++ rest) :
    (addModulePorts config machine m s backendHost declared
      (portsBefore config machine panel ports before s earlier)).1 = .ok () ↔
      ∀ mp ∈ declared, mp.isServedBy (reconcile config machine panel ports) = true := by
  have hp : (portsBefore config machine panel ports before s earlier).Proper config :=
    leads_portsBefore.moves.proper (proper_reopenPorts h)
  have hlast : (restoreModule config machine s
      (portsBefore config machine panel ports before s earlier) m).Leads config machine
      (rebuildPorts config machine panel ports) :=
    leads_rebuildPorts hservers hroutable hmodules
  rw [restoreModule_eq, hbackend, hports] at hlast
  exact addModulePorts_eq_ok_iff hp (leads_addModulePorts_append.trans hlast)

end Turns

/-- **What a refresh leaves**, in every history. A port that is open for a listener is that of the
listener's record, which is enabled. The routes are those that the records grant, of those under one
key on a port the last; so a server that is granted a route leaves one under its key. No port of
modules is without a route. And the ports of a module that are served are those that have been added
without failure in the module's turn. -/
theorem ports_refresh (config : Config) (store : Store) (acts : List Act) (machine : Machine) :
    let g := (new config store).live acts
    let ports := (g.refresh machine).ports
    (∀ k id, ports.listenerAt k = some id →
      ∃ l ∈ g.panel.listeners, l.enabled = true ∧ l.id = id ∧ l.port = k) ∧
    (∀ k key, ports.route? k key =
      lastGrant? (grants config machine g.panel ports) k key) ∧
    (∀ s ∈ g.panel.servers, ∀ l r k, routeFor? config machine s = some (l, r) →
      ports.listenerAt k = some l → ∃ r', ports.route? k r.key = some r') ∧
    (∀ k e, ports.get? k = some e → e.origin = .module → ∃ key r, e.routes.get? key = some r) ∧
    ∀ before s after earlier m later backendHost declared rest,
      g.panel.servers = before ++ s :: after → s.status.isRoutable = true →
      g.panel.modulesOf s.id = earlier ++ m :: later →
      moduleBackend? config machine s m = some backendHost → m.ports = declared ++ rest →
      ((addModulePorts config machine m s backendHost declared
        (portsBefore config machine g.panel g.ports before s earlier)).1 = .ok () ↔
        ∀ mp ∈ declared, mp.isServedBy ports = true) := by
  intro g ports
  obtain ⟨hconfig, hp⟩ : g.config = config ∧ g.ports.Proper config := proper_live config store acts
  have hports : ports = reconcile config machine g.panel g.ports := by rw [← hconfig]; rfl
  have hgranted : ports.Granted (grants config machine g.panel ports) :=
    hports ▸ granted_reconcile hp
  have hunshared : ports.Unshared := unshared_refresh
  refine ⟨fun k id hk => ?_, hgranted, fun s hs l r k hr hk => ?_, fun k e he horigin => ?_, ?_⟩
  · rw [hports] at hk
    exact exists_listener_of_reconcile hk
  · rw [hgranted k r.key]
    exact exists_lastGrant? (mem_grants_of_routeFor? hunshared hs hr hk)
  · rw [hports] at he
    exact Ports.busy_evict.exists_route he horigin
  · intro before s after earlier m later backendHost declared rest hservers hroutable hmodules
      hbackend hdeclared
    rw [hports]
    exact addModulePorts_portsBefore_iff hp hservers hroutable hmodules hbackend hdeclared

/-- Of two servers under one host the later one has the route, a route that others have added is
gone, and a module has routes for its ports up to one of no known protocol. -/
theorem ports_refresh_shared_host :
    let listener : Listener := { id := ⟨.ofNat 1⟩, port := 25565, name := "main" }
    let server (n : Nat) (name : String) : Server := {
      id := ⟨.ofNat n⟩, name, container := some name, hostname := some "play.example.com"
      status := .running, listener := some listener.id }
    let lobby := server 2 "lobby"
    let games := server 3 "games"
    let map : Module := {
      id := ⟨.ofNat 4⟩, server := lobby.id, name := "map"
      ports := [
        { listenPort := 8000, backendPort := 80, tag := "tcp" },
        { listenPort := 8001, backendPort := 81, tag := "sctp" },
        { listenPort := 8002, backendPort := 82, tag := "tcp" }] }
    let store := Store.ofPanel {
      version := 1, listeners := [listener], servers := [lobby, games], modules := [map] }
    let machine : Machine := {
      address := fun _ _ => .ok (.v4 #v[172, 18, 0, 2]), bindFault := fun _ => none }
    let acts : List Act := [.turn (.call machine .start),
      .handle 25565 (.reroute (.add "other" "old.example.com" "172.18.0.9" 25565))]
    let ports := (((new {} store).live acts).refresh machine).ports
    ports.route? 25565 "old.example.com" = none ∧
      (ports.route? 25565 "play.example.com").map (·.owner) = some games.id.toString ∧
      (∃ r, ports.route? 25565 "play.example.com" = some r) ∧
      ports.route? 8000 Route.Key.only = some ⟨map.id.toString, "*", "172.18.0.2", 80, true⟩ ∧
      ports.numbers = [8000, 25565] := by
  intro listener server lobby games map store machine acts ports
  have h := ports_refresh {} store acts machine
  refine ⟨by decide +kernel, by decide +kernel, ?_, by decide +kernel, by decide +kernel⟩
  exact h.2.2.1 lobby (by decide +kernel) listener.id
    ⟨lobby.id.toString, "play.example.com", "172.18.0.2", lobby.gamePort, true⟩ 25565
    (by decide +kernel) (by decide +kernel)

end Gateway

end GameGateway
