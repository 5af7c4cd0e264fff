import GameGateway.Proofs.Gateway.Reconciliation
import GameGateway.Proofs.Record.Integrity

/-!
# Which routes serve the servers

Without modules, the routes of a gateway are those of its servers. A server has at most one
(`routeFor?`), on the port of its listener, and ports **serve** servers when these are all the
routes there are. A refresh yields such ports if no two servers want the same key on a listener
(`serves_reconcile`), and ports that have the same shape and serve the same servers are the same. So
whether a gateway is settled, which is to say that a refresh would change nothing, can be told from
its routes (`Drifts.settled_iff_serves`).
-/

namespace GameGateway

/-- An entry without its routes. -/
def Entry.bare (e : Entry) : Entry :=
  { e with routes := .empty e.protocol.isVirtualHosted }

/-- Clearing the routes of a lawful entry leaves the bare one. -/
theorem Entry.Lawful.clear_eq_bare {config : Gateway.Config} {port : UInt16} {e : Entry}
    (h : e.Lawful config port) : { e with routes := e.routes.clear } = e.bare := by
  have hroutes : e.routes.clear = .empty e.protocol.isVirtualHosted := by
    refine Route.Table.ext h.table.virtualHosts fun k => ?_
    rw [Route.Table.get?_clear, Route.Table.get?_empty]
  rw [bare, hroutes]

namespace Ports

variable {config : Gateway.Config} {p p' q r : Ports} {k port : UInt16} {key : String}
  {id : ListenerId}

/-! ### Listeners and routes of ports -/

/-- The listener that a port was opened for. -/
def listenerAt (p : Ports) (k : UInt16) : Option ListenerId :=
  (p.get? k).bind fun e => e.origin.listener?

/-- The route under a key on a port. -/
def route? (p : Ports) (k : UInt16) (key : String) : Option Route :=
  (p.get? k).bind fun e => e.routes.get? key

/-- Ports are **unshared** when no listener has two. -/
def Unshared (p : Ports) : Prop :=
  ∀ k k' id, p.listenerAt k = some id → p.listenerAt k' = some id → k = k'

/-- A port is a listener's when the entry there was opened for it. -/
theorem listenerAt_eq_some :
    p.listenerAt k = some id ↔ ∃ e, p.get? k = some e ∧ e.origin = .listener id := by
  rw [listenerAt, Option.bind_eq_some_iff]
  refine exists_congr fun e => and_congr_right fun _ => ?_
  cases e.origin with
  | listener id' => exact ⟨fun h => by rw [Option.some.inj h], fun h => by rw [h]; rfl⟩
  | module => exact ⟨nofun, nofun⟩

theorem route?_eq_some {route : Route} :
    p.route? k key = some route ↔ ∃ e, p.get? k = some e ∧ e.routes.get? key = some route :=
  Option.bind_eq_some_iff

/-- On unshared ports, the port of a listener is the one that was opened for it. -/
theorem Unshared.portOf?_eq_some (h : p.Unshared) :
    p.portOf? id = some k ↔ p.listenerAt k = some id := by
  constructor
  · intro hport
    exact listenerAt_eq_some.mpr (exists_of_portOf? hport)
  · intro hk
    cases hport : p.portOf? id with
    | none =>
      obtain ⟨e, he, hid⟩ := listenerAt_eq_some.mp hk
      have hmem := Std.ExtTreeMap.mem_toList_iff_getElem?_eq_some.mpr he
      have hno := List.find?_eq_none.mp (Option.map_eq_none_iff.mp hport) _ hmem
      exact absurd (decide_eq_true hid) hno
    | some k' =>
      have hk' := listenerAt_eq_some.mpr (exists_of_portOf? hport)
      rw [h k k' id hk hk']

/-- Where the routes of one port change, those of the others can be asked for as before. -/
theorem route?_modifyRoutes {f : Route.Table → Route.Table} :
    (p.modifyRoutes port f).route? k key =
      if port = k then (p.get? k).bind fun e => (f e.routes).get? key else p.route? k key := by
  rw [route?, get?_modifyRoutes]
  split
  · rw [Option.bind_map]
    rfl
  · rfl

/-- Where all tables change, a route is asked for in the new one. -/
theorem route?_mapRoutes {f : Entry → Route.Table} :
    (p.mapRoutes f).route? k key = (p.get? k).bind fun e => (f e).get? key := by
  rw [route?, get?_mapRoutes, Option.bind_map]
  rfl

/-! ### The shape of ports -/

/-- Ports have the **same shape** when they differ in routes only. -/
def SameShape (p q : Ports) : Prop :=
  ∀ k, (p.get? k).map Entry.bare = (q.get? k).map Entry.bare

theorem SameShape.refl : p.SameShape p :=
  fun _ => rfl

theorem SameShape.symm (h : p.SameShape q) : q.SameShape p :=
  fun k => (h k).symm

theorem SameShape.trans (h₁ : p.SameShape q) (h₂ : q.SameShape r) : p.SameShape r :=
  fun k => (h₁ k).trans (h₂ k)

/-- Ports with the same entries have the same shape all the more. -/
theorem SameShape.of_get?_eq (h : ∀ k, p.get? k = q.get? k) : p.SameShape q :=
  fun k => by rw [h k]

/-- **Changes of routes keep the shape.** -/
theorem Rerouted.sameShape {f : UInt16 → Entry → Route.Table} (h : Rerouted f p p') :
    p.SameShape p' := by
  intro k
  rw [h.get?, Option.map_map]
  rfl

/-- What each of many records leaves of the shape, all of them leave. -/
theorem sameShape_foldl {α : Type} {f : Ports → α → Ports}
    (hf : ∀ (p : Ports) (a : α), p.SameShape (f p a)) :
    ∀ (l : List α) (p : Ports), p.SameShape (l.foldl f p)
  | [], _ => .refl
  | a :: l, p => (hf p a).trans (sameShape_foldl hf l (f p a))

/-- The shape tells which port is whose. -/
theorem SameShape.listenerAt_eq (h : p.SameShape q) : p.listenerAt k = q.listenerAt k := by
  have hbare : ∀ p : Ports, p.listenerAt k =
      ((p.get? k).map Entry.bare).bind fun e => e.origin.listener? := by
    intro p
    rw [Option.bind_map]
    rfl
  rw [hbare p, hbare q, h k]

/-- Whether a listener has two ports is a matter of shape. -/
theorem SameShape.unshared (h : p.SameShape q) (hp : p.Unshared) : q.Unshared := by
  intro k k' id hk hk'
  rw [← h.listenerAt_eq] at hk hk'
  exact hp k k' id hk hk'

/-- Lawful ports are determined by their shape and their routes. -/
theorem SameShape.get?_eq (h : p.SameShape q) (hp : p.Lawful config) (hq : q.Lawful config)
    (hroutes : ∀ key, p.route? k key = q.route? k key) : p.get? k = q.get? k := by
  have hk := h k
  cases hpk : p.get? k with
  | none =>
    rw [hpk, Option.map_none] at hk
    exact (Option.map_eq_none_iff.mp hk.symm).symm
  | some e =>
    rw [hpk, Option.map_some] at hk
    obtain ⟨e', he', hbare⟩ := Option.map_eq_some_iff.mp hk.symm
    have hprotocol : e.bare.protocol = e'.bare.protocol := by rw [hbare]
    have horigin : e.bare.origin = e'.bare.origin := by rw [hbare]
    change e.protocol = e'.protocol at hprotocol
    have htable : e.routes = e'.routes := by
      refine Route.Table.ext ?_ fun key => ?_
      · rw [(hp.entry hpk).table.virtualHosts, (hq.entry he').table.virtualHosts, hprotocol]
      · have hkey := hroutes key
        rwa [route?, route?, hpk, he'] at hkey
    rw [he', (hp.entry hpk).eq_of_view (hq.entry he') hprotocol horigin htable]

/-- An idle port has no routes, so closing it takes none away. -/
theorem route?_close_of_isIdle {closing : UInt16 → Entry → Bool}
    (hidle : ∀ k e, closing k e = true → isIdle e = true) :
    (p.close closing).route? k key = p.route? k key := by
  refine Option.ext fun route => ?_
  rw [route?_eq_some, route?_eq_some]
  refine exists_congr fun e => ?_
  rw [get?_close_eq_some, and_assoc]
  refine and_congr_right fun _ => and_iff_right_of_imp fun hroute => ?_
  refine Bool.eq_false_iff.mpr fun hclosing => ?_
  have hempty := hidle k e hclosing
  rw [isIdle, Bool.and_eq_true] at hempty
  rw [Route.Table.isEmpty_iff.mp hempty.2] at hroute
  cases hroute

/-- Evicting takes no route away. -/
theorem route?_evict : p.evict.route? k key = p.route? k key :=
  route?_close_of_isIdle fun _ _ => id

/-- Evicting takes no port away from a listener. -/
theorem listenerAt_evict : p.evict.listenerAt k = p.listenerAt k := by
  refine Option.ext fun id => ?_
  rw [listenerAt_eq_some, listenerAt_eq_some]
  refine exists_congr fun e => ?_
  rw [evict, get?_close_eq_some, and_assoc]
  refine and_congr_right fun _ => and_iff_right_of_imp fun horigin => ?_
  exact Entry.not_idle_of_listener horigin

end Ports

namespace Gateway

variable {config : Config} {machine : Machine} {panel panel' : Panel} {p p' q ports ports' : Ports}
  {k : UInt16} {key : String} {s : Server} {l : ListenerId} {r : Route} {servers : List Server}

/-! ### The routes of servers -/

/-- The route that a server is to have, and its listener. A server that is not routable, or whose
container has no address, is to have none. -/
def routeFor? (config : Config) (machine : Machine) (s : Server) : Option (ListenerId × Route) :=
  match s.listener, s.container with
  | some listener, some container =>
    if s.status.isRoutable then
      match config.resolve machine container with
      | .ok backendHost =>
        some (listener, {
          owner := s.id.toString
          key := Route.Key.normalize (config.hostnames.hostname s)
          backendHost
          backendPort := s.gamePort
          active := true })
      | .error _ => none
    else none
  | _, _ => none

/-- A server is to have a route when it names a listener and a container, is routable, and its
container has an address. -/
theorem routeFor?_eq_some : routeFor? config machine s = some (l, r) ↔
    s.listener = some l ∧ s.status.isRoutable = true ∧
      ∃ container backendHost, s.container = some container ∧
        config.resolve machine container = .ok backendHost ∧
        r = ⟨s.id.toString, Route.Key.normalize (config.hostnames.hostname s), backendHost,
          s.gamePort, true⟩ := by
  unfold routeFor?
  constructor
  · intro h
    split at h
    · next listener container hlistener hcontainer =>
      split at h
      · next hroutable =>
        split at h
        · next backendHost hresolve =>
          obtain ⟨rfl, rfl⟩ := Prod.mk.inj (Option.some.inj h)
          exact ⟨hlistener, hroutable, container, backendHost, hcontainer, hresolve, rfl⟩
        · cases h
      · cases h
    · cases h
  · rintro ⟨hlistener, hroutable, container, backendHost, hcontainer, hresolve, rfl⟩
    simp only [hlistener, hcontainer, hroutable, hresolve, if_true]

/-- The route of a server is under its own host. -/
theorem key_of_routeFor? (h : routeFor? config machine s = some (l, r)) :
    r.key = Route.Key.normalize (config.hostnames.hostname s) := by
  obtain ⟨-, -, container, backendHost, -, -, rfl⟩ := routeFor?_eq_some.mp h
  rfl

/-- Servers are **unambiguous** when no two of them are to have routes under the same key on the
same listener. -/
def Unambiguous (config : Config) (machine : Machine) (servers : List Server) : Prop :=
  ∀ s ∈ servers, ∀ t ∈ servers, ∀ a ∈ routeFor? config machine s,
    ∀ b ∈ routeFor? config machine t, a.1 = b.1 → a.2.key = b.2.key → s = t

instance : Decidable (Unambiguous config machine servers) :=
  inferInstanceAs (Decidable (∀ s ∈ servers, _))

/-- Among unambiguous servers a listener and a key belong to one. -/
theorem Unambiguous.eq_of_key_eq (h : Unambiguous config machine servers) {t : Server} {r' : Route}
    (hs : s ∈ servers) (ht : t ∈ servers) (hr : routeFor? config machine s = some (l, r))
    (hr' : routeFor? config machine t = some (l, r')) (hkey : r.key = r'.key) : s = t :=
  h s hs t ht (l, r) hr (l, r') hr' rfl hkey

/-- Ports **serve** servers when their routes are those that the servers are to have on the ports of
their listeners. -/
def Serves (config : Config) (machine : Machine) (servers : List Server) (p : Ports) : Prop :=
  ∀ k key r, p.route? k key = some r ↔ ∃ l, p.listenerAt k = some l ∧
    ∃ s ∈ servers, routeFor? config machine s = some (l, r) ∧ r.key = key

/-- Ports of the same shape that serve the same servers are the same. -/
theorem Serves.get?_eq (hp : Serves config machine servers p) (hq : Serves config machine servers q)
    (h : p.SameShape q) (hlp : p.Lawful config) (hlq : q.Lawful config) (k : UInt16) :
    p.get? k = q.get? k := by
  refine h.get?_eq hlp hlq fun key => Option.ext fun r => ?_
  rw [hp k key r, hq k key r, h.listenerAt_eq]

/-- Whether servers are served is told by the entries. -/
theorem Serves.congr (h : Serves config machine servers p) (heq : ∀ k, p.get? k = q.get? k) :
    Serves config machine servers q := by
  intro k key r
  rw [← (Ports.SameShape.of_get?_eq heq).listenerAt_eq, ← h k key r, Ports.route?, Ports.route?,
    heq k]

/-! ### Setting the routes of servers -/

/-- A server that is to have no route changes nothing. -/
theorem restoreServer_of_routeFor?_eq_none (hroutable : s.status.isRoutable = true)
    (h : routeFor? config machine s = none) : restoreServer config machine s p = p := by
  unfold restoreServer
  split
  · next port container hport hcontainer =>
    obtain ⟨l, hl, -⟩ := Option.bind_eq_some_iff.mp hport
    cases hresolve : config.resolve machine container with
    | error cause => rfl
    | ok backendHost =>
      have hsome := routeFor?_eq_some.mpr
        ⟨hl, hroutable, container, backendHost, hcontainer, hresolve, rfl⟩
      rw [h] at hsome
      cases hsome
  · rfl

/-- A server's route is added on the port of its listener; without such a port it is left out. -/
theorem restoreServer_of_routeFor?_eq_some (h : routeFor? config machine s = some (l, r)) :
    restoreServer config machine s p =
      match p.portOf? l with
      | none => p
      | some port => p.modifyRoutes port fun t =>
          t.add r.owner (config.hostnames.hostname s) r.backendHost r.backendPort := by
  obtain ⟨hl, hroutable, container, backendHost, hcontainer, hresolve, rfl⟩ :=
    routeFor?_eq_some.mp h
  rw [restoreServer, hl, hcontainer, Option.bind_some]
  cases p.portOf? l with
  | none => rfl
  | some port => simp only [hresolve]

theorem restore_of_routeFor?_eq_none (hmodules : panel.modules = [])
    (h : routeFor? config machine s = none) : restore config machine panel p s = p := by
  rw [restore, Panel.modulesOf, hmodules]
  split
  · next hroutable => exact restoreServer_of_routeFor?_eq_none hroutable h
  · rfl

/-- Without modules, a server is restored with its own route. -/
theorem restore_of_routeFor?_eq_some (hmodules : panel.modules = [])
    (h : routeFor? config machine s = some (l, r)) :
    restore config machine panel p s =
      match p.portOf? l with
      | none => p
      | some port => p.modifyRoutes port fun t =>
          t.add r.owner (config.hostnames.hostname s) r.backendHost r.backendPort := by
  obtain ⟨-, hroutable, -⟩ := routeFor?_eq_some.mp h
  rw [restore, Panel.modulesOf, hmodules, if_pos hroutable]
  exact restoreServer_of_routeFor?_eq_some h

/-- Without modules, restoring a server opens no ports. -/
theorem sameShape_restore (hmodules : panel.modules = []) :
    p.SameShape (restore config machine panel p s) := by
  cases h : routeFor? config machine s with
  | none =>
    rw [restore_of_routeFor?_eq_none hmodules h]
    exact .refl
  | some lr =>
    rw [restore_of_routeFor?_eq_some hmodules h]
    cases p.portOf? lr.1 with
    | none => exact .refl
    | some port => exact Ports.rerouted_modifyRoutes.sameShape

/-- A table of a listener's port keeps a host under its routing key. -/
theorem keyOf_of_listenerAt (h : p.Lawful config) {e : Entry} (he : p.get? k = some e)
    (hid : e.origin = .listener l) (spelling : String) :
    e.routes.keyOf spelling = Route.Key.normalize spelling := by
  rw [Route.Table.keyOf, (h.entry he).table.virtualHosts, (h.entry he).listener hid]
  rfl

/-- What setting the route of a server does to the routes of all ports. -/
theorem route?_restore (h : p.Lawful config) (hu : p.Unshared) (hmodules : panel.modules = [])
    (hr : routeFor? config machine s = some (l, r)) :
    (restore config machine panel p s).route? k key =
      if p.listenerAt k = some l ∧ r.key = key then some r else p.route? k key := by
  rw [restore_of_routeFor?_eq_some hmodules hr]
  cases hport : p.portOf? l with
  | none =>
    rw [if_neg]
    rintro ⟨hk, -⟩
    rw [hu.portOf?_eq_some.mpr hk] at hport
    cases hport
  | some port =>
    have hlisten := hu.portOf?_eq_some.mp hport
    dsimp only
    rw [Ports.route?_modifyRoutes]
    by_cases hk : port = k
    · subst hk
      obtain ⟨e, he, hid⟩ := Ports.listenerAt_eq_some.mp hlisten
      rw [if_pos rfl, he, Option.bind_some, Route.Table.get?_add, keyOf_of_listenerAt h he hid,
        ← key_of_routeFor? hr, Ports.route?, he, Option.bind_some]
      by_cases hkey : r.key = key
      · obtain ⟨-, -, container, backendHost, -, -, rfl⟩ := routeFor?_eq_some.mp hr
        rw [if_pos hkey, if_pos ⟨hlisten, hkey⟩, ← hkey]
      · rw [if_neg hkey, if_neg fun h => hkey h.2]
    · rw [if_neg hk, if_neg]
      rintro ⟨hk', -⟩
      exact hk (hu port k l hlisten hk')

/-- Setting the route of one more server serves it, too. -/
theorem Serves.restore (hs : Serves config machine servers p) (h : p.Lawful config)
    (hu : p.Unshared) (hmodules : panel.modules = [])
    (hclear : Unambiguous config machine (servers ++ [s])) :
    Serves config machine (servers ++ [s]) (Gateway.restore config machine panel p s) := by
  intro k key r
  have hsplit : ∀ l, (∃ t ∈ servers ++ [s], routeFor? config machine t = some (l, r) ∧
      r.key = key) ↔ (∃ t ∈ servers, routeFor? config machine t = some (l, r) ∧ r.key = key) ∨
        routeFor? config machine s = some (l, r) ∧ r.key = key := by
    intro l
    simp only [List.mem_append, List.mem_singleton, or_and_right, exists_or, exists_eq_left]
  simp only [← (sameShape_restore hmodules).listenerAt_eq, hsplit]
  cases hr₀ : routeFor? config machine s with
  | none =>
    rw [restore_of_routeFor?_eq_none hmodules hr₀, hs k key r]
    simp only [reduceCtorEq, false_and, or_false]
  | some lr =>
    obtain ⟨l₀, r₀⟩ := lr
    rw [route?_restore h hu hmodules hr₀]
    split
    · next hcond =>
      obtain ⟨hlisten, hkey₀⟩ := hcond
      constructor
      · intro hr
        obtain rfl := Option.some.inj hr
        exact ⟨l₀, hlisten, .inr ⟨rfl, hkey₀⟩⟩
      · rintro ⟨l, hl, ⟨t, ht, htr, hkey⟩ | ⟨hr, -⟩⟩
        · obtain rfl := Option.some.inj (hlisten.symm.trans hl)
          -- no other server is to have a route under the key
          obtain rfl := hclear.eq_of_key_eq (List.mem_append_right servers List.mem_cons_self)
            (List.mem_append_left [s] ht) hr₀ htr (hkey₀.trans hkey.symm)
          rw [hr₀] at htr
          exact congrArg some (Prod.mk.inj (Option.some.inj htr)).2
        · exact congrArg some (Prod.mk.inj (Option.some.inj hr)).2
    · next hcond =>
      rw [hs k key r]
      refine exists_congr fun l => and_congr_right fun hl => (or_iff_left ?_).symm
      rintro ⟨hr, hkey⟩
      obtain ⟨rfl, rfl⟩ := Prod.mk.inj (Option.some.inj hr)
      exact hcond ⟨hl, hkey⟩

/-- Setting all routes on ports that have none serves all servers. -/
theorem serves_restoreAll (h : p.Lawful config) (hu : p.Unshared) (hmodules : panel.modules = [])
    (hnone : ∀ k key, p.route? k key = none) (hclear : Unambiguous config machine panel.servers) :
    Serves config machine panel.servers (restoreAll config machine panel p) := by
  have hfold : ∀ (rest done : List Server) (p : Ports), p.Lawful config → p.Unshared →
      Serves config machine done p → Unambiguous config machine (done ++ rest) →
      Serves config machine (done ++ rest)
        (rest.foldl (Gateway.restore config machine panel) p) := by
    intro rest
    induction rest with
    | nil =>
      intro done p _ _ hs _
      rwa [List.append_nil]
    | cons s rest ih =>
      intro done p h hu hs hclear
      rw [List.append_cons] at hclear ⊢
      have hclear' : Unambiguous config machine (done ++ [s]) := fun a ha b hb =>
        hclear a (List.mem_append_left rest ha) b (List.mem_append_left rest hb)
      exact ih (done ++ [s]) _ (builds_restore.keeps h).1
        ((sameShape_restore hmodules).unshared hu) (hs.restore h hu hmodules hclear') hclear
  refine hfold panel.servers [] p h hu (fun k key r => ?_) hclear
  rw [hnone]
  constructor
  · rintro ⟨⟩
  · rintro ⟨l, -, s, hs, -⟩
    cases hs

/-! ### Ports that a refresh has cleared and opened -/

/-- Where an identifier comes twice, one listener is wanted. -/
theorem distinct_wantedListeners : ∀ listeners : List Listener,
    Distinct (·.id) (wantedListeners listeners)
  | [] => .nil
  | l :: rest => by
    have hrest := distinct_wantedListeners rest
    simp only [wantedListeners]
    split
    · next hl =>
      refine List.pairwise_cons.mpr ⟨fun a ha => ?_, hrest⟩
      have hall := List.all_eq_true.mp (Bool.and_eq_true_iff.mp hl).2 a ha
      exact (of_decide_eq_true hall).symm
    · exact hrest

/-- Ports are **cleared** for listeners when no entry has routes and those that were opened for
listeners are on the ports of wanted ones. -/
def Cleared (wanted : List Listener) (p : Ports) : Prop :=
  ∀ k e, p.get? k = some e → isStale wanted k e = false ∧ ∀ key, e.routes.get? key = none

/-- The ports that a refresh keeps are cleared for the listeners that it wants. -/
theorem cleared_keepPorts :
    Cleared (wantedListeners panel.listeners) (keepPorts panel ports) := by
  intro k e he
  obtain ⟨e₀, -, hstale, rfl⟩ := get?_keepPorts_eq_some.mp he
  exact ⟨hstale, fun key => Route.Table.get?_clear⟩

/-- Opening one more of the wanted listeners keeps the ports cleared, since it begins without
routes. -/
theorem Cleared.tryListener {wanted : List Listener} (h : Cleared wanted p) {l : Listener}
    (hl : l ∈ wanted) : Cleared wanted (tryListener config machine p l) := by
  rw [tryListener_eq]
  split
  · exact h
  · split
    · next p' hok =>
      intro k e he
      rw [Ports.get?_openPort hok] at he
      split at he
      · next hk =>
        obtain rfl := Option.some.inj he
        refine ⟨?_, fun key => Route.Table.get?_empty⟩
        simp only [isStale, Entry.opened, List.all_eq_false]
        exact ⟨l, hl, by simp [hk]⟩
      · exact h k e he
    · exact h

/-- **Before it sets the first route, a refresh has cleared ports.** -/
theorem cleared_reopenPorts :
    Cleared (wantedListeners panel.listeners) (reopenPorts config machine panel ports) := by
  have hfold : ∀ (listeners : List Listener) (p : Ports),
      (∀ l ∈ listeners, l ∈ wantedListeners panel.listeners) →
      Cleared (wantedListeners panel.listeners) p →
      Cleared (wantedListeners panel.listeners) (openListeners config machine listeners p) := by
    intro listeners
    induction listeners with
    | nil => exact fun p _ h => h
    | cons l rest ih =>
      intro p hwanted h
      exact ih _ (fun a ha => hwanted a (List.mem_cons_of_mem l ha))
        (h.tryListener (hwanted l List.mem_cons_self))
  exact hfold _ _ (fun _ => id) cleared_keepPorts

/-- There is no route on cleared ports. -/
theorem Cleared.route?_eq_none {wanted : List Listener} (h : Cleared wanted p) :
    p.route? k key = none := by
  rw [Option.eq_none_iff_forall_ne_some]
  intro r hr
  obtain ⟨e, he, hroute⟩ := Ports.route?_eq_some.mp hr
  rw [(h k e he).2 key] at hroute
  cases hroute

/-- A listener on cleared ports is a wanted one. -/
theorem Cleared.exists_wanted {wanted : List Listener} (h : Cleared wanted p)
    (hk : p.listenerAt k = some l) : ∃ a ∈ wanted, a.id = l ∧ a.port = k := by
  obtain ⟨e, he, hid⟩ := Ports.listenerAt_eq_some.mp hk
  simpa [isStale, hid] using (h k e he).1

/-- The ports of wanted listeners are unshared, since these have different identifiers. -/
theorem Cleared.unshared {wanted : List Listener} (h : Cleared wanted p)
    (hwanted : Distinct (·.id) wanted) : p.Unshared := by
  intro k k' id hk hk'
  obtain ⟨l, hl, hlid, rfl⟩ := h.exists_wanted hk
  obtain ⟨l', hl', hlid', rfl⟩ := h.exists_wanted hk'
  rw [hwanted.eq_of_mem hl hl' (hlid.trans hlid'.symm)]

theorem unshared_reopenPorts : (reopenPorts config machine panel ports).Unshared :=
  cleared_reopenPorts.unshared (distinct_wantedListeners panel.listeners)

theorem lawful_reopenPorts (h : ports.Lawful config) :
    (reopenPorts config machine panel ports).Lawful config :=
  ((builds_openListeners _).keeps (lawful_keepPorts h)).1

/-! ### What a refresh yields without modules -/

/-- Without modules, the shape is settled when the listeners have been opened. -/
theorem sameShape_rebuildPorts (hmodules : panel.modules = []) :
    (reopenPorts config machine panel ports).SameShape
      (rebuildPorts config machine panel ports) :=
  Ports.sameShape_foldl (fun _ _ => sameShape_restore hmodules) _ _

/-- What is built on cleared ports serves all servers, and them only. -/
theorem serves_rebuildPorts (h : ports.Lawful config) (hmodules : panel.modules = [])
    (hclear : Unambiguous config machine panel.servers) :
    Serves config machine panel.servers (rebuildPorts config machine panel ports) :=
  serves_restoreAll (lawful_reopenPorts h) unshared_reopenPorts hmodules
    (fun _ _ => cleared_reopenPorts.route?_eq_none) hclear

/-- **A refresh serves all servers.** -/
theorem serves_reconcile (h : ports.Lawful config) (hmodules : panel.modules = [])
    (hclear : Unambiguous config machine panel.servers) :
    Serves config machine panel.servers (reconcile config machine panel ports) := by
  intro k key r
  rw [reconcile_eq, Ports.route?_evict, Ports.listenerAt_evict]
  exact serves_rebuildPorts h hmodules hclear k key r

/-- Behind a refresh no listener has two ports. -/
theorem unshared_reconcile (hmodules : panel.modules = []) :
    (reconcile config machine panel ports).Unshared := by
  intro k k' id hk hk'
  rw [reconcile_eq, Ports.listenerAt_evict, ← (sameShape_rebuildPorts hmodules).listenerAt_eq]
    at hk hk'
  exact unshared_reopenPorts k k' id hk hk'

/-- What a refresh keeps depends on the shape of the ports only. -/
theorem get?_keepPorts (h : ports.Lawful config) : (keepPorts panel ports).get? k =
    ((ports.get? k).map Entry.bare).filter
      fun e => !isStale (wantedListeners panel.listeners) k e := by
  refine Option.ext fun e => ?_
  rw [get?_keepPorts_eq_some, Option.filter_eq_some_iff, Option.map_eq_some_iff, Bool.not_eq_true']
  constructor
  · rintro ⟨e₀, he₀, hstale, rfl⟩
    exact ⟨⟨e₀, he₀, (h.entry he₀).clear_eq_bare.symm⟩, hstale⟩
  · rintro ⟨⟨e₀, he₀, rfl⟩, hstale⟩
    exact ⟨e₀, he₀, hstale, (h.entry he₀).clear_eq_bare.symm⟩

/-- The ports that a refresh opens depend on the listeners of the document and on the shape, but on
no routes. -/
theorem get?_reopenPorts_congr (h : ports.Lawful config) (h' : ports'.Lawful config)
    (hlisteners : panel.listeners = panel'.listeners) (hshape : ports.SameShape ports')
    (k : UInt16) : (reopenPorts config machine panel ports).get? k =
      (reopenPorts config machine panel' ports').get? k := by
  rw [reopenPorts, reopenPorts, ← hlisteners]
  refine get?_openListeners_congr (lawful_keepPorts h) (lawful_keepPorts h') (fun k => ?_) _ k
  rw [get?_keepPorts h, get?_keepPorts h', hshape k, hlisteners]

/-- The ports that a refresh gives up at the end are those that were opened for modules. -/
theorem bare_reconcile (hmodules : panel.modules = []) (h : ports.Lawful config)
    (hclear : Unambiguous config machine panel.servers) :
    ((reconcile config machine panel ports).get? k).map Entry.bare =
      (((reopenPorts config machine panel ports).get? k).map Entry.bare).filter
        fun e => e.origin ≠ .module := by
  have hidle : ∀ e, (rebuildPorts config machine panel ports).get? k = some e →
      (Ports.isIdle e = false ↔ e.origin ≠ .module) := by
    intro e he
    cases horigin : e.origin with
    | listener id => simp [Entry.not_idle_of_listener horigin]
    | module =>
      -- no server has a route on such a port
      have hempty : e.routes.isEmpty = true := by
        refine Route.Table.isEmpty_iff.mpr fun key => Option.eq_none_iff_forall_ne_some.mpr ?_
        intro r hr
        obtain ⟨l, hl, -⟩ := (serves_rebuildPorts h hmodules hclear k key r).mp
          (Ports.route?_eq_some.mpr ⟨e, he, hr⟩)
        obtain ⟨e', he', hid⟩ := Ports.listenerAt_eq_some.mp hl
        rw [← Option.some.inj (he.symm.trans he'), horigin] at hid
        cases hid
      simp [Ports.isIdle, horigin, hempty]
  rw [sameShape_rebuildPorts hmodules k, reconcile_eq]
  refine Option.ext fun e => ?_
  rw [Option.map_eq_some_iff, Option.filter_eq_some_iff, Option.map_eq_some_iff, decide_eq_true_eq]
  constructor
  · rintro ⟨e₀, he₀, rfl⟩
    obtain ⟨he₀, hbusy⟩ := Ports.get?_close_eq_some.mp he₀
    exact ⟨⟨e₀, he₀, rfl⟩, (hidle e₀ he₀).mp hbusy⟩
  · rintro ⟨⟨e₀, he₀, rfl⟩, horigin⟩
    exact ⟨e₀, Ports.get?_close_eq_some.mpr ⟨he₀, (hidle e₀ he₀).mpr horigin⟩, rfl⟩

/-! ### Settled gateways -/

variable {g g' : Gateway}

/-- A gateway is **settled** when a refresh would change none of its routes. -/
def Settled (machine : Machine) (g : Gateway) : Prop :=
  (g.refresh machine).routes = g.routes

instance : Decidable (g.Settled machine) :=
  inferInstanceAs (Decidable (_ = _))

/-- To be settled is to have the entries that a refresh yields. -/
theorem settled_iff (h : g.ports.Lawful g.config) :
    g.Settled machine ↔ ∀ k, (g.refresh machine).ports.get? k = g.ports.get? k := by
  constructor
  · intro hsettled
    exact get?_eq_of_routes_eq (keeps_refresh.2 h).1 h hsettled
  · intro heq
    have hentries : (g.refresh machine).ports.entries = g.ports.entries :=
      Std.ExtTreeMap.ext_getElem? fun {k} => heq k
    rw [Settled, routes, routes, hentries]

/-- A gateway that has no modules and **drifts** from another one differs from it in its servers and
in the routes of its ports. -/
structure Drifts (g g' : Gateway) : Prop where
  config : g'.config = g.config
  listeners : g'.panel.listeners = g.panel.listeners
  modules : g'.panel.modules = []
  lawful : g'.ports.Lawful g.config
  shape : g.ports.SameShape g'.ports

section Settling

variable (h : g.ports.Lawful g.config) (hmodules : g.panel.modules = [])
  (hclear : Unambiguous g.config machine g.panel.servers) (hsettled : g.Settled machine)

include h hmodules hclear hsettled

theorem Settled.serves : Serves g.config machine g.panel.servers g.ports :=
  (serves_reconcile h hmodules hclear).congr ((settled_iff h).mp hsettled)

omit hclear in
/-- On a settled gateway no listener has two ports. -/
theorem Settled.unshared : g.ports.Unshared :=
  (Ports.SameShape.of_get?_eq ((settled_iff h).mp hsettled)).unshared
    (unshared_reconcile hmodules)

/-- A settled gateway has ports of listeners only. -/
theorem Settled.origin_ne {e : Entry} (he : g.ports.get? k = some e) : e.origin ≠ .module := by
  have hbare := bare_reconcile (k := k) hmodules h hclear
  have heq := (settled_iff h).mp hsettled k
  change (reconcile g.config machine g.panel g.ports).get? k = _ at heq
  rw [heq, he, Option.map_some] at hbare
  exact of_decide_eq_true (Option.filter_eq_some_iff.mp hbare.symm).2

/-- **A gateway that drifts from a settled one is settled exactly when it serves its servers.** -/
theorem Drifts.settled_iff_serves (hdrifts : g.Drifts g')
    (hclear' : Unambiguous g.config machine g'.panel.servers) :
    g'.Settled machine ↔ Serves g.config machine g'.panel.servers g'.ports := by
  have hl' : g'.ports.Lawful g'.config := hdrifts.config ▸ hdrifts.lawful
  have hserves : Serves g.config machine g'.panel.servers (g'.refresh machine).ports := by
    rw [← hdrifts.config] at hclear' ⊢
    exact serves_reconcile hl' hdrifts.modules hclear'
  rw [settled_iff hl']
  constructor
  · exact hserves.congr
  · intro hserves'
    have hshape : (g'.refresh machine).ports.SameShape g'.ports := by
      refine Ports.SameShape.trans (fun k => ?_) hdrifts.shape
      have hbefore := (settled_iff h).mp hsettled k
      rw [← hbefore]
      change ((reconcile g'.config machine g'.panel g'.ports).get? k).map Entry.bare =
        ((reconcile g.config machine g.panel g.ports).get? k).map Entry.bare
      rw [hdrifts.config, bare_reconcile hdrifts.modules hdrifts.lawful hclear',
        bare_reconcile hmodules h hclear,
        get?_reopenPorts_congr h hdrifts.lawful hdrifts.listeners.symm hdrifts.shape]
    have hl : (g'.refresh machine).ports.Lawful g.config := by
      rw [← hdrifts.config]
      exact (keeps_refresh.2 hl').1
    exact hserves.get?_eq hserves' hshape hl hdrifts.lawful

end Settling

end Gateway

end GameGateway
