import GameGateway.Proofs.Except
import GameGateway.Proofs.Gateway.Provenance

/-!
# Routes and their owners

A route has an owner, but a server is updated by the place of its route. So a server that stops
gives up all routes it owns exactly when these are in its place (`disowns_statusChanged_iff`), and
takes none from others exactly when those in its place are its own
(`sparesOthers_updateServer_iff`). A server that is updated while it is routable has its route in
its place, which belongs to it exactly when nobody else had one there (`updateServer_owns_iff`).

What these ask of the routes holds behind every run whose records keep the server in one place, or
leave that place to the server.
-/

namespace GameGateway

namespace Ports

variable {p p' : Ports} {k : UInt16} {key owner : String}

/-- Ports **disown** someone who has no route on them. -/
def Disowns (owner : String) (p : Ports) : Prop :=
  ∀ k key, ∀ r ∈ p.route? k key, r.owner ≠ owner

/-- Ports become others and **spare** all but one owner when the routes of those stay as they
are. -/
def SparesOthers (owner : String) (p p' : Ports) : Prop :=
  ∀ k key, ∀ r ∈ p.route? k key, r.owner ≠ owner → p'.route? k key = some r

theorem route?_removeOwner :
    (p.removeOwner owner).route? k key = (p.route? k key).filter (·.owner ≠ owner) := by
  rw [removeOwner, route?_mapRoutes, route?]
  cases p.get? k with
  | none => rfl
  | some e => exact Route.Table.get?_removeOwner

theorem Obeys.exists_routes {config : Gateway.Config} {c : Charter} {r : Route}
    (h : p.Obeys config c) (hr : p.route? k key = some r) :
    ∃ e, p.get? k = some e ∧ c.routes e.origin key r.owner := by
  obtain ⟨e, he, hroute⟩ := route?_eq_some.mp hr
  exact ⟨e, he, (h.within he).routes key r hroute⟩

end Ports

namespace Gateway

variable {config : Config} {machine : Machine} {store : Store} {turns : List Turn} {g : Gateway}
  {panel : Panel} {s : Server} {m : Module} {k : UInt16} {key : String} {r : Route}

/-! ### Records that keep a place -/

/-- A document **keeps the place** of a server when it has the server in no other one. -/
def KeepsPlace (config : Config) (s : Server) (panel : Panel) : Prop :=
  ∀ s' ∈ panel.servers, s'.id = s.id → ∀ a ∈ place? config s', place? config s = some a

/-- A document **leaves its place** to a server when no other server has the same one, and no module
forwards the game's protocol. -/
def LeavesPlace (config : Config) (s : Server) (panel : Panel) : Prop :=
  (∀ s' ∈ panel.servers, s'.id ≠ s.id → ∀ a ∈ place? config s', place? config s ≠ some a) ∧
    ∀ m ∈ panel.modules, ∀ mp ∈ m.ports, mp.protocol? ≠ some .minecraft

instance : Decidable (KeepsPlace config s panel) :=
  inferInstanceAs (Decidable (∀ s' ∈ panel.servers, _))

instance : Decidable (LeavesPlace config s panel) :=
  inferInstanceAs (Decidable (_ ∧ _))

/-- The charter by which a server has routes in its place only. -/
def keptPlace (config : Config) (s : Server) : Charter where
  opens _ _ := True
  routes origin key owner :=
    owner = s.id.toString → ∃ l, origin = .listener l ∧ place? config s = some (l, key)

/-- The charter by which nobody else has routes in the place of a server. -/
def leftPlace (config : Config) (s : Server) : Charter where
  opens _ _ := True
  routes origin key owner :=
    ∀ l, origin = .listener l → place? config s = some (l, key) → owner = s.id.toString

theorem KeepsPlace.admits (h : KeepsPlace config s panel) :
    (keptPlace config s).Admits config panel where
  listeners _ _ := trivial
  servers s' hs' l key hplace howner :=
    ⟨l, rfl, h s' hs' (Id.toString_inj howner) (l, key) hplace⟩
  modules m _ _ _ _ _ _ howner := absurd howner (Id.toString_ne (by decide) m.id s.id)

theorem LeavesPlace.admits (h : LeavesPlace config s panel) :
    (leftPlace config s).Admits config panel where
  listeners _ _ := trivial
  servers s' hs' l key hplace l' hl hplace' := by
    cases hl
    by_cases hid : s'.id = s.id
    · rw [hid]
    · exact absurd hplace' (h.1 s' hs' hid (l, key) hplace)
  modules m hm mp hmp origin horigin key l hl _ := by
    rcases horigin with rfl | hprotocol
    · cases hl
    · exact absurd hprotocol (h.2 m hm mp hmp)

/-- A server has routes in its place only, if the records of a run keep it there. -/
theorem inPlace_of_keepsPlace (h : ∀ panel ∈ records store turns, KeepsPlace config s panel)
    (hr : ((new config store).after turns).ports.route? k key = some r)
    (howner : r.owner = s.id.toString) :
    InPlace config s ((new config store).after turns).ports k key := by
  obtain ⟨e, he, hroutes⟩ :=
    (obeys_after fun panel hpanel => (h panel hpanel).admits).ports.exists_routes hr
  obtain ⟨l, horigin, hplace⟩ := hroutes howner
  exact ⟨l, Ports.listenerAt_eq_some.mpr ⟨e, he, horigin⟩, hplace⟩

/-- The routes in the place of a server are its own, if the records of a run leave it the place. -/
theorem owner_of_leavesPlace (h : ∀ panel ∈ records store turns, LeavesPlace config s panel)
    (hr : ((new config store).after turns).ports.route? k key = some r)
    (hplace : InPlace config s ((new config store).after turns).ports k key) :
    r.owner = s.id.toString := by
  obtain ⟨e, he, hroutes⟩ :=
    (obeys_after fun panel hpanel => (h panel hpanel).admits).ports.exists_routes hr
  obtain ⟨l, hk, hplace⟩ := hplace
  obtain ⟨e', he', horigin⟩ := Ports.listenerAt_eq_some.mp hk
  obtain rfl := Option.some.inj (he.symm.trans he')
  exact hroutes l horigin hplace

/-! ### Servers that stop -/

theorem planModule_of_not_isRoutable (hroutable : s.status.isRoutable = false) :
    planModule config machine m s = .ok none := by
  unfold planModule
  split
  · rfl
  · rw [hroutable]
    rfl

/-- Updating a module of a server that is not routable takes the module's routes away. -/
theorem route?_updateModule_of_not_isRoutable (hroutable : s.status.isRoutable = false) :
    (g.updateModule machine m s).2.ports.route? k key =
      (g.ports.route? k key).filter (·.owner ≠ m.id.toString) := by
  rw [updateModule, planModule_of_not_isRoutable hroutable]
  change ((g.ports.removeOwner m.id.toString).close (isRetagged m)).evict.route? k key = _
  rw [Ports.route?_evict, Ports.route?_close_of_isIdle, Ports.route?_removeOwner]
  intro k e hretagged
  rw [isRetagged, Bool.and_eq_true] at hretagged
  exact hretagged.1

/-- Updating the modules of a server that is not routable leaves the routes of servers alone. -/
theorem route?_foldl_tryModule (hroutable : s.status.isRoutable = false)
    (howner : ∀ m : ModuleId, r.owner ≠ m.toString) : ∀ (modules : List Module) (g : Gateway),
    (modules.foldl (tryModule machine s) g).ports.route? k key = some r ↔
      g.ports.route? k key = some r
  | [], _ => .rfl
  | m :: rest, g => by
    rw [List.foldl_cons, route?_foldl_tryModule hroutable howner rest, tryModule,
      route?_updateModule_of_not_isRoutable hroutable, Option.filter_eq_some_iff]
    exact and_iff_left (decide_eq_true (howner m.id))

/-- **A server that stops** loses the route in its place, and no other server does any but this. -/
theorem route?_statusChanged {status : Status} (hl : g.ports.Lawful g.config)
    (hs : g.panel.server? s.id = some s) (hroutable : status.isRoutable = false)
    (howner : ∀ m : ModuleId, r.owner ≠ m.toString) :
    (g.applyEvent machine (.serverStatusChanged s.id status)).2.ports.route? k key = some r ↔
      ¬InPlace g.config s g.ports k key ∧ g.ports.route? k key = some r := by
  rw [applyEvent, hs]
  change (List.foldl (tryModule machine { s with status })
    (g.updateServer machine { s with status }).2 _).ports.route? k key = some r ↔ _
  rw [route?_foldl_tryModule hroutable howner, route?_updateServer_of_not_isRoutable hl hroutable]
  -- the place of a server does not depend on its status
  change (if InPlace g.config s g.ports k key then none else g.ports.route? k key) = some r ↔ _
  split
  · next hplace => exact iff_of_false (Option.some_ne_none r).symm fun h => h.1 hplace
  · next hplace => exact (and_iff_right hplace).symm

/-- **Which routes a server that stops keeps**, after every run. It keeps none exactly when all its
routes are in its place, as they are if the records of the run keep it there. -/
theorem disowns_statusChanged_iff (config : Config) (store : Store) (turns : List Turn)
    (machine : Machine) (s : Server) (status : Status) (hroutable : status.isRoutable = false)
    (hs : ((new config store).after turns).panel.server? s.id = some s) :
    let g := (new config store).after turns
    let g' := (g.applyEvent machine (.serverStatusChanged s.id status)).2
    (g'.ports.Disowns s.id.toString ↔ ∀ k key, ∀ r ∈ g.ports.route? k key,
      r.owner = s.id.toString → InPlace config s g.ports k key) ∧
    ((∀ panel ∈ records store turns, KeepsPlace config s panel) →
      g'.ports.Disowns s.id.toString) := by
  intro g g'
  have hkept : ∀ k key r, r.owner = s.id.toString → (g'.ports.route? k key = some r ↔
      ¬InPlace config s g.ports k key ∧ g.ports.route? k key = some r) := by
    intro k key r howner
    have hconfig : g.config = config := config_after turns
    have hl : g.ports.Lawful g.config := Reachable.lawful ⟨config, store, turns, rfl⟩
    have hserver : ∀ m : ModuleId, r.owner ≠ m.toString :=
      fun m => howner ▸ Id.toString_ne (by decide) s.id m
    rw [route?_statusChanged hl hs hroutable hserver, hconfig]
  have hiff : g'.ports.Disowns s.id.toString ↔ ∀ k key, ∀ r ∈ g.ports.route? k key,
      r.owner = s.id.toString → InPlace config s g.ports k key := by
    constructor
    · intro h k key r hr howner
      refine Decidable.byContradiction fun hplace => ?_
      exact h k key r ((hkept k key r howner).mpr ⟨hplace, hr⟩) howner
    · intro h k key r hr howner
      obtain ⟨hplace, hr⟩ := (hkept k key r howner).mp hr
      exact hplace (h k key r hr howner)
  exact ⟨hiff, fun h => hiff.mpr fun k key r hr howner => inPlace_of_keepsPlace h hr howner⟩

/-- A server that has always been in one place is not routed when it stops. -/
theorem disowns_after_stop :
    let machine : Machine := {
      address := fun _ _ => .ok (.v4 #v[172, 18, 0, 2]), bindFault := fun _ => none }
    let listener : Listener := { id := ⟨.ofNat 1⟩, port := 25565, name := "main" }
    let a (name : String) : Server := {
      id := ⟨.ofNat 2⟩, name, container := some "a", status := .running
      hostname := some "a.example", listener := some listener.id }
    let store := Store.ofPanel { version := 1, listeners := [listener], servers := [a "a"] }
    let turns : List Turn := [.call machine .start, .store (store.saveServer (a "b")).2]
    let g := (new {} store).after turns
    let g' := (g.applyEvent machine (.serverStatusChanged (a "b").id .stopped)).2
    (g.ports.route? 25565 "a.example").isSome ∧ g'.ports.Disowns (a "b").id.toString := by
  intro machine listener a store turns g g'
  have h := disowns_statusChanged_iff {} store turns machine (a "b") .stopped rfl
    (by decide +kernel)
  exact ⟨by decide +kernel, h.2 (by decide +kernel)⟩

/-- A server that got another host since it was routed keeps its route when it stops. -/
theorem not_disowns_after_edit :
    let machine : Machine := {
      address := fun _ _ => .ok (.v4 #v[172, 18, 0, 2]), bindFault := fun _ => none }
    let listener : Listener := { id := ⟨.ofNat 1⟩, port := 25565, name := "main" }
    let a (hostname : String) : Server := {
      id := ⟨.ofNat 2⟩, name := "a", container := some "a", status := .running
      hostname := some hostname, listener := some listener.id }
    let store := Store.ofPanel {
      version := 1, listeners := [listener], servers := [a "old.example"] }
    let g := (new {} store).after
      [.call machine .start, .store (store.saveServer (a "new.example")).2]
    let g' := (g.applyEvent machine (.serverStatusChanged (a "new.example").id .stopped)).2
    g.panel.server? (a "new.example").id = some (a "new.example") ∧
      ¬g'.ports.Disowns (a "new.example").id.toString := by
  intro machine listener a store g g'
  have hroute : g'.ports.route? 25565 "old.example" =
      some ⟨(a "new.example").id.toString, "old.example", "172.18.0.2", 25565, true⟩ := by
    decide +kernel
  exact ⟨by decide +kernel, fun h => h _ _ _ hroute rfl⟩

/-- **Whose routes a server takes away** that is updated while it is not routable, after every run.
It takes none from others exactly when all routes in its place are its own, as they are if the
records of the run leave it the place. -/
theorem sparesOthers_updateServer_iff (config : Config) (store : Store) (turns : List Turn)
    (machine : Machine) (s : Server) (hroutable : s.status.isRoutable = false) :
    let g := (new config store).after turns
    let g' := (g.updateServer machine s).2
    (g.ports.SparesOthers s.id.toString g'.ports ↔ ∀ k key, ∀ r ∈ g.ports.route? k key,
      InPlace config s g.ports k key → r.owner = s.id.toString) ∧
    ((∀ panel ∈ records store turns, LeavesPlace config s panel) →
      g.ports.SparesOthers s.id.toString g'.ports) := by
  intro g g'
  have hroute : ∀ k key, g'.ports.route? k key =
      if InPlace config s g.ports k key then none else g.ports.route? k key := by
    intro k key
    have hconfig : g.config = config := config_after turns
    have hl : g.ports.Lawful g.config := Reachable.lawful ⟨config, store, turns, rfl⟩
    rw [route?_updateServer_of_not_isRoutable hl hroutable, hconfig]
  have hiff : g.ports.SparesOthers s.id.toString g'.ports ↔ ∀ k key, ∀ r ∈ g.ports.route? k key,
      InPlace config s g.ports k key → r.owner = s.id.toString := by
    constructor
    · intro h k key r hr hplace
      refine Decidable.byContradiction fun howner => ?_
      have hkept := h k key r hr howner
      rw [hroute, if_pos hplace] at hkept
      cases hkept
    · intro h k key r hr howner
      rw [hroute, if_neg fun hplace => howner (h k key r hr hplace)]
      exact hr
  exact ⟨hiff, fun h => hiff.mpr fun k key r hr hplace => owner_of_leavesPlace h hr hplace⟩

/-- A server that stops spares one with another host on the same listener. -/
theorem sparesOthers_after_stop :
    let machine : Machine := {
      address := fun _ _ => .ok (.v4 #v[172, 18, 0, 2]), bindFault := fun _ => none }
    let listener : Listener := { id := ⟨.ofNat 1⟩, port := 25565, name := "main" }
    let a (status : Status) : Server := {
      id := ⟨.ofNat 2⟩, name := "a", container := some "a", status
      hostname := some "a.example", listener := some listener.id }
    let b : Server := {
      id := ⟨.ofNat 3⟩, name := "b", container := some "b", status := .running
      hostname := some "b.example", listener := some listener.id }
    let store := Store.ofPanel {
      version := 1, listeners := [listener], servers := [a .running, b] }
    let g := (new {} store).after [.call machine .start]
    let g' := (g.updateServer machine (a .stopped)).2
    (g.ports.route? 25565 "a.example").isSome ∧ (g.ports.route? 25565 "b.example").isSome ∧
      g.ports.SparesOthers (a .stopped).id.toString g'.ports := by
  intro machine listener a b store g g'
  have h := sparesOthers_updateServer_iff {} store [.call machine .start] machine (a .stopped) rfl
  exact ⟨by decide +kernel, by decide +kernel, h.2 (by decide +kernel)⟩

/-- A server that is stopped takes the route of another one whose name has the same slug away. -/
theorem not_sparesOthers_of_same_slug :
    let config : Config := { hostnames := { baseDomain := some "example.org" } }
    let machine : Machine := {
      address := fun _ _ => .ok (.v4 #v[172, 18, 0, 2]), bindFault := fun _ => none }
    let listener : Listener := { id := ⟨.ofNat 1⟩, port := 25565, name := "main" }
    let a : Server := {
      id := ⟨.ofNat 2⟩, name := "My Server", container := some "a", status := .running
      listener := some listener.id }
    let b : Server := {
      id := ⟨.ofNat 3⟩, name := "my-server", container := some "b", status := .stopped
      listener := some listener.id }
    let store := Store.ofPanel { version := 1, listeners := [listener], servers := [a, b] }
    let g := (new config store).after [.call machine .start]
    ¬g.ports.SparesOthers b.id.toString (g.updateServer machine b).2.ports := by
  intro config machine listener a b store g h
  have hroute : g.ports.route? 25565 "my-server.example.org" =
      some ⟨a.id.toString, "my-server.example.org", "172.18.0.2", 25565, true⟩ := by
    decide +kernel
  have hkept := h _ _ _ hroute (by decide +kernel)
  revert hkept
  decide +kernel

/-! ### Servers that are routed -/

theorem route?_removeServer {id : ServerId} : (g.removeServer id).2.ports.route? k key =
    (g.ports.route? k key).filter (·.owner ≠ id.toString) :=
  Ports.route?_removeOwner

/-- **Whose route a server gets** that is updated while it is routable, after every run. If it ends
well, there is a route to the server's backend in its place, and nothing else has changed. The route
belongs to the server, and goes when its routes are removed, exactly when nobody else had one there,
as is so if the records of the run leave it the place. -/
theorem updateServer_owns_iff (config : Config) (store : Store) (turns : List Turn)
    (machine : Machine) (s : Server) (l : ListenerId) (container : String)
    (hroutable : s.status.isRoutable = true) (hlistener : s.listener = some l)
    (hcontainer : s.container = some container)
    (hok : (((new config store).after turns).updateServer machine s).1 = .ok ()) :
    let g := (new config store).after turns
    let g' := (g.updateServer machine s).2
    ∃ port backendHost, g.ports.portOf? l = some port ∧
      config.resolve machine container = .ok backendHost ∧
      let key := Route.Key.normalize (config.hostnames.hostname s)
      let route (owner : String) : Route := ⟨owner, key, backendHost, s.gamePort, true⟩
      let undisputed := ∀ r ∈ g.ports.route? port key, r.owner = s.id.toString
      (∃ owner, g'.ports.route? port key = some (route owner)) ∧
      (∀ k key', ¬(k = port ∧ key' = key) → g'.ports.route? k key' = g.ports.route? k key') ∧
      g.ports.SameShape g'.ports ∧
      (g'.ports.route? port key = some (route s.id.toString) ↔ undisputed) ∧
      ((g'.removeServer s.id).2.ports.route? port key = none ↔ undisputed) ∧
      ((∀ panel ∈ records store turns, LeavesPlace config s panel) → undisputed) := by
  intro g g'
  have hconfig : g.config = config := config_after turns
  have hl : g.ports.Lawful g.config := Reachable.lawful ⟨config, store, turns, rfl⟩
  obtain ⟨port, r, hport, hr⟩ := (updateServer_eq_ok_iff hroutable hlistener hcontainer).mp hok
  have hroute : ∀ k key, g'.ports.route? k key = if port = k ∧ r.key = key then
      some { r with owner := ((g.ports.route? k key).map Route.owner).getD r.owner }
      else g.ports.route? k key :=
    fun k key => route?_updateServer_of_isRoutable hl hr hport
  obtain ⟨-, -, container', backendHost, hcontainer', hresolve, rfl⟩ := routeFor?_eq_some.mp hr
  obtain rfl := Option.some.inj (hcontainer.symm.trans hcontainer')
  rw [hconfig] at hresolve hroute
  refine ⟨port, backendHost, hport, hresolve, ?_⟩
  intro key route undisputed
  -- a route that was there keeps its owner
  let owner := ((g.ports.route? port key).map Route.owner).getD s.id.toString
  have hset : g'.ports.route? port key = some (route owner) :=
    (hroute port key).trans (if_pos ⟨rfl, rfl⟩)
  have howner : owner = s.id.toString ↔ undisputed := by
    simp only [owner, undisputed]
    cases g.ports.route? port key <;> simp
  refine ⟨⟨owner, hset⟩, fun k key' hne => ?_, sameShape_updateServer, ?_, ?_, fun h r hr => ?_⟩
  · rw [hroute, if_neg fun hplace => hne ⟨hplace.1.symm, hplace.2.symm⟩]
  · rw [hset, ← howner]
    exact ⟨fun h => congrArg Route.owner (Option.some.inj h), fun h => by rw [h]⟩
  · rw [route?_removeServer, hset, ← howner, Option.filter_eq_none_iff]
    simp [route]
  · have hk := Ports.listenerAt_eq_some.mpr (Ports.exists_of_portOf? hport)
    exact owner_of_leavesPlace h hr ((inPlace_iff hlistener).mpr ⟨hk, rfl⟩)

/-- A server that was stopped gets its own route beside one with another host. -/
theorem owns_after_start :
    let machine : Machine := {
      address := fun _ _ => .ok (.v4 #v[172, 18, 0, 2]), bindFault := fun _ => none }
    let listener : Listener := { id := ⟨.ofNat 1⟩, port := 25565, name := "main" }
    let a (status : Status) : Server := {
      id := ⟨.ofNat 2⟩, name := "a", container := some "a", status
      hostname := some "a.example", listener := some listener.id }
    let b : Server := {
      id := ⟨.ofNat 3⟩, name := "b", container := some "b", status := .running
      hostname := some "b.example", listener := some listener.id }
    let store := Store.ofPanel {
      version := 1, listeners := [listener], servers := [a .stopped, b] }
    let g := (new {} store).after [.call machine .start]
    let g' := (g.updateServer machine (a .running)).2
    (g.updateServer machine (a .running)).1 = .ok () ∧
      ∃ port backendHost, g.ports.portOf? listener.id = some port ∧
        g'.ports.route? port "a.example" =
          some ⟨(a .running).id.toString, "a.example", backendHost, 25565, true⟩ ∧
        (g'.removeServer (a .running).id).2.ports.route? port "a.example" = none := by
  intro machine listener a b store g g'
  have hok : (g.updateServer machine (a .running)).1 = .ok () := by decide +kernel
  obtain ⟨port, backendHost, hport, -, -, -, -, hroute, hremoved, hleft⟩ :=
    updateServer_owns_iff {} store [.call machine .start] machine (a .running) listener.id "a"
      rfl rfl rfl hok
  have hundisputed := hleft (by decide +kernel)
  have hkey : Route.Key.normalize (HostnamePolicy.hostname {} (a .running)) = "a.example" := by
    decide +kernel
  rw [hkey] at hroute hremoved hundisputed
  exact ⟨hok, port, backendHost, hport, hroute.mpr hundisputed, hremoved.mpr hundisputed⟩

/-- A server that is started while another one with the same slug is routed gets that one's route,
which does not go when its own routes are removed. -/
theorem not_owns_of_same_slug :
    let config : Config := { hostnames := { baseDomain := some "example.org" } }
    let machine : Machine := {
      address := fun container _ =>
        .ok (.v4 (if container = "a" then #v[172, 18, 0, 2] else #v[172, 18, 0, 3]))
      bindFault := fun _ => none }
    let listener : Listener := { id := ⟨.ofNat 1⟩, port := 25565, name := "main" }
    let a : Server := {
      id := ⟨.ofNat 2⟩, name := "My Server", container := some "a", status := .running
      listener := some listener.id }
    let b (status : Status) : Server := {
      id := ⟨.ofNat 3⟩, name := "my-server", container := some "b", status
      listener := some listener.id }
    let store := Store.ofPanel {
      version := 1, listeners := [listener], servers := [a, b .stopped] }
    let g := (new config store).after [.call machine .start]
    let g' := (g.updateServer machine (b .running)).2
    let route : Route := ⟨a.id.toString, "my-server.example.org", "172.18.0.3", 25565, true⟩
    (g.updateServer machine (b .running)).1 = .ok () ∧ a.id ≠ (b .running).id ∧
      g'.ports.route? 25565 "my-server.example.org" = some route ∧
      (g'.removeServer (b .running).id).2.ports.route? 25565 "my-server.example.org" =
        some route := by
  decide +kernel

end Gateway

end GameGateway
