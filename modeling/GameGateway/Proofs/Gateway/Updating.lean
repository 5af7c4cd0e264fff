import GameGateway.Proofs.Gateway.Service

/-!
# Updating the routes of servers

What removing a host and updating a server do to the routes of a gateway. Updating opens and closes
no port. It takes the route at the **place** of a server that is not routable away, whoever it
belongs to (`route?_updateServer_of_not_isRoutable`), and sets the one at the place of a server that
is; a route that was there stays with its owner (`route?_updateServer_of_isRoutable`).
-/

namespace GameGateway

namespace Ports

variable {p : Ports} {k : UInt16} {key : String}

/-- Ports of listeners only are not changed by giving up those that are idle. -/
theorem get?_evict_of_origin_ne (h : ∀ k e, p.get? k = some e → e.origin ≠ .module) :
    p.evict.get? k = p.get? k := by
  refine Option.ext fun e => ?_
  rw [evict, get?_close_eq_some]
  refine and_iff_left_of_imp fun he => ?_
  simp [isIdle, h k e he]

/-- Ports of one shape have the same port for a listener. -/
theorem SameShape.portOf?_eq {q : Ports} (h : p.SameShape q) {id : ListenerId} :
    p.portOf? id = q.portOf? id := by
  refine portOf?_congr fun k => ?_
  rw [← listenerAt_eq_some, ← listenerAt_eq_some, h.listenerAt_eq]

theorem SameShape.origin_ne {q : Ports} (h : p.SameShape q)
    (hp : ∀ k e, p.get? k = some e → e.origin ≠ .module) :
    ∀ k e, q.get? k = some e → e.origin ≠ .module := by
  intro k e he
  have hk := h k
  rw [he, Option.map_some] at hk
  obtain ⟨e', he', hbare⟩ := Option.map_eq_some_iff.mp hk
  have horigin : e'.bare.origin = e.bare.origin := by rw [hbare]
  change e'.origin = e.origin at horigin
  exact horigin ▸ hp k e' he'

/-- A port of listeners only has routes where it was opened for a listener. -/
theorem exists_listenerAt_of_route? {r : Route}
    (hp : ∀ k e, p.get? k = some e → e.origin ≠ .module) (hr : p.route? k key = some r) :
    ∃ id, p.listenerAt k = some id := by
  obtain ⟨e, he, -⟩ := route?_eq_some.mp hr
  cases hid : e.origin with
  | listener id => exact ⟨id, listenerAt_eq_some.mpr ⟨e, he, hid⟩⟩
  | module => exact absurd hid (hp k e he)

end Ports

namespace Gateway

variable {config : Config} {machine : Machine} {g g' : Gateway} {k port : UInt16} {key : String}
  {s : Server} {l l' : ListenerId} {r : Route} {servers : List Server}

/-! ### The place of a server -/

/-- The **place** of a server's route: its listener, and the key of its host. -/
def place? (config : Config) (s : Server) : Option (ListenerId × String) :=
  s.listener.map fun l => (l, Route.Key.normalize (config.hostnames.hostname s))

/-- A port and a key are **in the place** of a server when the port was opened for its listener and
the key is that of its host. -/
def InPlace (config : Config) (s : Server) (p : Ports) (k : UInt16) (key : String) : Prop :=
  ∃ l ∈ p.listenerAt k, place? config s = some (l, key)

instance {p : Ports} : Decidable (InPlace config s p k key) :=
  inferInstanceAs (Decidable (∃ l ∈ p.listenerAt k, _))

/-- A server has a place when it has a listener, under the key of its host. -/
theorem place?_eq_some : place? config s = some (l, key) ↔
    s.listener = some l ∧ Route.Key.normalize (config.hostnames.hostname s) = key := by
  simp only [place?, Option.map_eq_some_iff, Prod.mk.injEq]
  constructor
  · rintro ⟨_, hl, rfl, hkey⟩
    exact ⟨hl, hkey⟩
  · rintro ⟨hl, hkey⟩
    exact ⟨l, hl, rfl, hkey⟩

theorem inPlace_iff {p : Ports} (hl : s.listener = some l) : InPlace config s p k key ↔
    p.listenerAt k = some l ∧ Route.Key.normalize (config.hostnames.hostname s) = key := by
  constructor
  · rintro ⟨l', hk, hplace⟩
    obtain ⟨hl', hkey⟩ := place?_eq_some.mp hplace
    obtain rfl := Option.some.inj (hl.symm.trans hl')
    exact ⟨hk, hkey⟩
  · rintro ⟨hk, hkey⟩
    exact ⟨l, hk, place?_eq_some.mpr ⟨hl, hkey⟩⟩

/-! ### Removing a host -/

/-- Without module ports, removing a host closes no port. -/
theorem sameShape_removeHostname (hg : ∀ k e, g.ports.get? k = some e → e.origin ≠ .module)
    {hostname : String} {listener : Option ListenerId} :
    g.ports.SameShape (g.removeHostname hostname listener).2.ports := by
  have hmap : g.ports.SameShape (g.ports.mapRoutes fun e =>
      if concerns listener e then e.routes.remove hostname else e.routes) :=
    Ports.rerouted_mapRoutes.sameShape
  cases listener with
  | some id => exact hmap
  | none =>
    refine hmap.trans (.of_get?_eq fun k => ?_)
    exact (Ports.get?_evict_of_origin_ne (hmap.origin_ne hg)).symm

/-- Removing a host takes the route under its key away from the ports that it concerns. -/
theorem route?_removeHostname (h : g.ports.Lawful config) (hk : g.ports.listenerAt k = some l)
    {hostname : String} {listener : Option ListenerId} :
    (g.removeHostname hostname listener).2.ports.route? k key =
      if (listener = none ∨ listener = some l) ∧ Route.Key.normalize hostname = key then none
      else g.ports.route? k key := by
  obtain ⟨e, he, hid⟩ := Ports.listenerAt_eq_some.mp hk
  have hconcerns : concerns listener e = true ↔ listener = none ∨ listener = some l := by
    cases listener with
    | none => simp [concerns, (h.entry he).listener hid, Protocol.isVirtualHosted]
    | some id => simp [concerns, hid, eq_comm]
  have hremoved : (g.ports.mapRoutes fun e =>
      if concerns listener e then e.routes.remove hostname else e.routes).route? k key =
      if (listener = none ∨ listener = some l) ∧ Route.Key.normalize hostname = key then none
      else g.ports.route? k key := by
    rw [Ports.route?_mapRoutes, Ports.route?, he, Option.bind_some, Option.bind_some]
    by_cases hc : concerns listener e = true
    · rw [if_pos hc, Route.Table.get?_remove, keyOf_of_listenerAt h he hid]
      simp only [hconcerns.mp hc, true_and]
    · rw [if_neg hc, if_neg fun hcond => hc (hconcerns.mpr hcond.1)]
  rw [← hremoved]
  cases listener with
  | some id => rfl
  | none => exact Ports.route?_evict

/-- Removing a host from a listener takes nothing else away. -/
theorem route?_removeHostname_some (h : g.ports.Lawful config) {hostname : String} :
    (g.removeHostname hostname (some l)).2.ports.route? k key =
      if g.ports.listenerAt k = some l ∧ Route.Key.normalize hostname = key then none
      else g.ports.route? k key := by
  cases hk : g.ports.listenerAt k with
  | some l' =>
    rw [route?_removeHostname h hk]
    simp only [reduceCtorEq, false_or, Option.some.injEq, eq_comm (a := l)]
  | none =>
    rw [if_neg (fun hcond => nomatch hcond.1)]
    change (g.ports.mapRoutes _).route? k key = _
    rw [Ports.route?_mapRoutes, Ports.route?]
    refine Option.bind_congr fun e he => ?_
    rw [if_neg]
    intro hc
    rw [Ports.listenerAt_eq_some.mpr ⟨e, he, of_decide_eq_true hc⟩] at hk
    cases hk

/-! ### Updating a server -/

/-- **What upserting a route does to a table**: a route that is there keeps its owner and its
key. -/
theorem get?_upsertRoute {owner spelling host : String} {backendPort : UInt16} {t : Route.Table} :
    (upsertRoute owner spelling host backendPort t).get? key =
      if t.keyOf spelling = key then
        match t.get? key with
        | none => some ⟨owner, key, host, backendPort, true⟩
        | some r => some { r with backendHost := host, backendPort }
      else t.get? key := by
  unfold upsertRoute Route.Table.contains
  split
  · next hsome =>
    rw [Route.Table.get?_update]
    split
    · next hkey =>
      rw [hkey] at hsome
      obtain ⟨r, hr⟩ := Option.isSome_iff_exists.mp hsome
      rw [hr]
      rfl
    · rfl
  · next hnone =>
    rw [Route.Table.get?_add]
    split
    · next hkey =>
      rw [hkey, Option.not_isSome_iff_eq_none] at hnone
      rw [hnone]
    · rfl

/-- A server that is to have a route gets it on the first port of its listener, if there is one. -/
theorem updateServer_of_routeFor?_eq_some (h : routeFor? g.config machine s = some (l, r)) :
    (g.updateServer machine s).2 =
      match g.ports.portOf? l with
      | none => g
      | some port =>
        let hostname := g.config.hostnames.hostname s
        { g with
          ports := g.ports.modifyRoutes port
            (upsertRoute r.owner hostname r.backendHost r.backendPort) } := by
  obtain ⟨hl, hroutable, container, backendHost, hcontainer, hresolve, rfl⟩ :=
    routeFor?_eq_some.mp h
  have hplan : planServer g.config machine s =
      .ok (.install l (g.config.hostnames.hostname s) backendHost) := by
    simp only [planServer, hl, hcontainer, hroutable, hresolve, if_true]
  rw [updateServer, hplan]
  dsimp only
  rw [carryOut]
  cases g.ports.portOf? l with
  | none => rfl
  | some port => rfl

/-- A server that is routable but has no listener or no backend leaves everything as it is. -/
theorem updateServer_of_isRoutable (hroutable : s.status.isRoutable = true)
    (h : routeFor? g.config machine s = none) : (g.updateServer machine s).2 = g := by
  cases hl : s.listener with
  | none =>
    have hplan : planServer g.config machine s = .ok .nothing := by simp only [planServer, hl]
    rw [updateServer, hplan]
    rfl
  | some l =>
    cases hcontainer : s.container with
    | none =>
      have hplan : planServer g.config machine s = .ok .nothing := by
        simp only [planServer, hl, hcontainer, hroutable, if_true]
      rw [updateServer, hplan]
      rfl
    | some container =>
      cases hresolve : g.config.resolve machine container with
      | error cause =>
        have hplan : planServer g.config machine s = .error cause := by
          simp only [planServer, hl, hcontainer, hroutable, hresolve, if_true]
        rw [updateServer, hplan]
      | ok backendHost =>
        have hsome := routeFor?_eq_some.mpr
          ⟨hl, hroutable, container, backendHost, hcontainer, hresolve, rfl⟩
        rw [h] at hsome
        cases hsome

/-- A server that is not to be routed loses the route under its host. -/
theorem updateServer_of_not_isRoutable (hroutable : s.status.isRoutable = false) :
    (g.updateServer machine s).2 =
      match s.listener with
      | none => g
      | some l => (g.removeHostname (g.config.hostnames.hostname s) (some l)).2 := by
  cases hl : s.listener with
  | none =>
    have hplan : planServer g.config machine s = .ok .nothing := by simp only [planServer, hl]
    rw [updateServer, hplan]
    rfl
  | some l =>
    have hplan : planServer g.config machine s =
        .ok (.withdraw l (g.config.hostnames.hostname s)) := by
      simp only [planServer, hl, hroutable, Bool.false_eq_true, if_false]
    rw [updateServer, hplan]
    rfl

/-- Updating a server writes no record. -/
theorem store_updateServer : (g.updateServer machine s).2.store = g.store := by
  unfold updateServer
  split
  · rfl
  · next plan _ =>
    cases plan with
    | nothing => rfl
    | withdraw listener hostname => rfl
    | install listener hostname backendHost =>
      simp only [carryOut]
      split <;> rfl

/-- **Updating a server opens and closes no port.** -/
theorem sameShape_updateServer : g.ports.SameShape (g.updateServer machine s).2.ports := by
  cases hroutable : s.status.isRoutable with
  | false =>
    rw [updateServer_of_not_isRoutable hroutable]
    cases s.listener with
    | none => exact .refl
    | some l => exact Ports.rerouted_mapRoutes.sameShape
  | true =>
    cases h : routeFor? g.config machine s with
    | none =>
      rw [updateServer_of_isRoutable hroutable h]
      exact .refl
    | some lr =>
      rw [updateServer_of_routeFor?_eq_some h]
      cases g.ports.portOf? lr.1 with
      | none => exact .refl
      | some port => exact Ports.rerouted_modifyRoutes.sameShape

/-- **Updating a server that is not routable** takes the route in its place away, whoever it belongs
to, and no other. -/
theorem route?_updateServer_of_not_isRoutable (hl : g.ports.Lawful g.config)
    (hroutable : s.status.isRoutable = false) :
    (g.updateServer machine s).2.ports.route? k key =
      if InPlace g.config s g.ports k key then none else g.ports.route? k key := by
  rw [updateServer_of_not_isRoutable hroutable]
  cases hlistener : s.listener with
  | none =>
    rw [if_neg]
    rintro ⟨l, -, hplace⟩
    rw [(place?_eq_some.mp hplace).1] at hlistener
    cases hlistener
  | some l =>
    dsimp only
    simp only [route?_removeHostname_some hl, inPlace_iff hlistener]

/-- **Updating a routable server** sets the route in its place to its backend. A route that was
there keeps its owner, and no other route is changed. -/
theorem route?_updateServer_of_isRoutable (hl : g.ports.Lawful g.config)
    (h : routeFor? g.config machine s = some (l, r)) (hport : g.ports.portOf? l = some port) :
    (g.updateServer machine s).2.ports.route? k key =
      if port = k ∧ r.key = key then
        some { r with owner := ((g.ports.route? k key).map Route.owner).getD r.owner }
      else g.ports.route? k key := by
  obtain ⟨e, he, hid⟩ := Ports.exists_of_portOf? hport
  rw [updateServer_of_routeFor?_eq_some h, hport]
  dsimp only
  rw [Ports.route?_modifyRoutes]
  by_cases hk : port = k
  · subst hk
    rw [if_pos rfl, he, Option.bind_some, get?_upsertRoute, keyOf_of_listenerAt hl he hid,
      ← key_of_routeFor? h, Ports.route?, he, Option.bind_some]
    by_cases hkey : r.key = key
    · subst hkey
      obtain ⟨-, -, container, backendHost, -, -, rfl⟩ := routeFor?_eq_some.mp h
      rw [if_pos rfl, if_pos ⟨rfl, rfl⟩]
      cases hr₀ : e.routes.get? (Route.Key.normalize (g.config.hostnames.hostname s)) with
      | none => rfl
      | some r₀ =>
        obtain ⟨hkey₀, hactive, -⟩ := (hl.entry he).table.placed _ r₀ hr₀
        simp only [Option.map_some, Option.getD_some, ← hkey₀, ← hactive]
    · rw [if_neg hkey, if_neg fun hcond => hkey hcond.2]
  · rw [if_neg hk, if_neg fun hcond => hk hcond.1]

/-- A server that is to have a route under a key without one gets it. -/
theorem route?_updateServer_self (hl : g.ports.Lawful g.config) (hu : g.ports.Unshared)
    (h : routeFor? g.config machine s = some (l, r)) (hk : g.ports.listenerAt k = some l)
    (hnone : g.ports.route? k r.key = none) :
    (g.updateServer machine s).2.ports.route? k r.key = some r := by
  rw [route?_updateServer_of_isRoutable hl h (hu.portOf?_eq_some.mpr hk), if_pos ⟨rfl, rfl⟩, hnone]
  rfl

/-- A server's own route is the only one that updating a routable server changes. -/
theorem route?_updateServer_of_ne (hl : g.ports.Lawful g.config) (hu : g.ports.Unshared)
    (h : routeFor? g.config machine s = some (l', r)) (hk : g.ports.listenerAt k = some l)
    (hne : ¬(l' = l ∧ r.key = key)) :
    (g.updateServer machine s).2.ports.route? k key = g.ports.route? k key := by
  cases hport : g.ports.portOf? l' with
  | none => rw [updateServer_of_routeFor?_eq_some h, hport]
  | some port =>
    rw [route?_updateServer_of_isRoutable hl h hport, if_neg]
    rintro ⟨rfl, hkey⟩
    exact hne ⟨Option.some.inj ((hu.portOf?_eq_some.mp hport).symm.trans hk), hkey⟩

/-- Updating a routable server with a listener and a container ends well when the container has an
address and a port was opened for the listener. -/
theorem updateServer_eq_ok_iff {container : String} (hroutable : s.status.isRoutable = true)
    (hl : s.listener = some l) (hcontainer : s.container = some container) :
    (g.updateServer machine s).1 = .ok () ↔
      ∃ port r, g.ports.portOf? l = some port ∧ routeFor? g.config machine s = some (l, r) := by
  simp only [updateServer, planServer, routeFor?, hl, hcontainer, hroutable, if_true]
  cases g.config.resolve machine container with
  | error cause => simp
  | ok backendHost =>
    simp only [carryOut]
    cases g.ports.portOf? l <;> simp

end Gateway

end GameGateway
