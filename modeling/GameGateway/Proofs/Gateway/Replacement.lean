import GameGateway.Proofs.Except
import GameGateway.Proofs.Gateway.Grants
import GameGateway.Proofs.Gateway.Ownership

/-!
# Replacing the routes of a module

Updating a module **vacates** its ports first: its routes go, and so do ports that are idle by then
and wanted for another protocol. Then the ports that it declares are added, one after the other up
to the first that fails, and ports that are still idle are given up. So the routes of the module are
those granted for the ports in front of that one, and the routes of others stay unless one of these
is in their place (`routes_updateModule`).
-/

namespace GameGateway

namespace Gateway

open Ports (Gains)

variable {config : Config} {machine : Machine} {g : Gateway} {m : Module} {s : Server}
  {backendHost : String} {mp : ModulePort} {l done later : List ModulePort} {p p' : Ports}
  {k : UInt16} {key : String} {e : Entry} {cause : GatewayError} {cur wanted : Protocol}

theorem proper_after (config : Config) (store : Store) (turns : List Turn) :
    ((new config store).after turns).ports.Proper config := by
  have hproper := (proper_live config store (turns.map .turn)).2
  rw [live, List.foldl_map] at hproper
  exact hproper

/-! ### Adding ports up to the first that fails -/

/-- **Adding the ports of a module** adds those in front of the first that fails. -/
theorem addModulePorts_cases (config : Config) (machine : Machine) (m : Module) (s : Server)
    (backendHost : String) (l : List ModulePort) (p : Ports) :
    ∃ done rest p', l = done ++ rest ∧
      addModulePorts config machine m s backendHost done p = (.ok (), p') ∧
      (rest = [] ∧ addModulePorts config machine m s backendHost l p = (.ok (), p') ∨
        ∃ mp later cause, rest = mp :: later ∧
          addModulePort config machine m s backendHost mp p' = .error cause ∧
          addModulePorts config machine m s backendHost l p = (.error cause, p')) := by
  induction l generalizing p with
  | nil => exact ⟨[], [], p, rfl, rfl, .inl ⟨rfl, rfl⟩⟩
  | cons mp l ih =>
    cases hadd : addModulePort config machine m s backendHost mp p with
    | error cause =>
      exact ⟨[], mp :: l, p, rfl, rfl,
        .inr ⟨mp, l, cause, rfl, hadd, addModulePorts_cons_of_error hadd⟩⟩
    | ok p₁ =>
      obtain ⟨done, rest, p', rfl, hdone, hrest⟩ := ih p₁
      refine ⟨mp :: done, rest, p', rfl, ?_, ?_⟩
      · rw [addModulePorts_cons_of_ok hadd, hdone]
      · rwa [addModulePorts_cons_of_ok hadd]

theorem gains_addModulePorts (hp : p.Proper config)
    (hok : addModulePorts config machine m s backendHost l p = (.ok (), p')) :
    p.Gains (l.filterMap (portGrant? config m s backendHost)) p' := by
  induction l generalizing p with
  | nil =>
    obtain ⟨-, rfl⟩ := Prod.mk.inj hok
    exact .refl
  | cons mp l ih =>
    cases hadd : addModulePort config machine m s backendHost mp p with
    | error cause =>
      rw [addModulePorts_cons_of_error hadd] at hok
      cases hok
    | ok p₁ =>
      rw [addModulePorts_cons_of_ok hadd] at hok
      obtain ⟨grant, hgrant, hgains⟩ := gains_addModulePort hp hadd
      rw [List.filterMap_cons, hgrant]
      exact hgains.trans (ih ((leads_addModulePort hadd).moves.proper hp) hok)

/-- A port that is open only after one of a module has been added is that one. -/
theorem protocol?_of_addModulePort
    (hok : addModulePort config machine m s backendHost mp p = .ok p')
    (hfree : p.get? k = none) (he : p'.get? k = some e) :
    mp.listenPort = k ∧ mp.protocol? = some e.protocol := by
  obtain ⟨protocol, p₁, hprotocol, hensure, rfl⟩ := exists_of_addModulePort hok
  have hopened : ∃ e₁, p₁.get? k = some e₁ ∧ e.protocol = e₁.protocol := by
    rw [Ports.get?_modifyRoutes] at he
    split at he
    · obtain ⟨e₁, he₁, rfl⟩ := Option.map_eq_some_iff.mp he
      exact ⟨e₁, he₁, rfl⟩
    · exact ⟨e, he, rfl⟩
  obtain ⟨e₁, he₁, hsame⟩ := hopened
  unfold ensurePort at hensure
  split at hensure
  · split at hensure
    · obtain rfl := Except.ok.inj hensure
      rw [hfree] at he₁
      cases he₁
    · cases hensure
  · rw [Ports.get?_openPort hensure] at he₁
    split at he₁
    · next hport =>
      obtain rfl := Option.some.inj he₁
      exact ⟨hport, hprotocol.trans (congrArg some hsame.symm)⟩
    · rw [hfree] at he₁
      cases he₁

/-- A port that is open only after ports of a module have been added is one of these. -/
theorem exists_of_addModulePorts
    (hok : addModulePorts config machine m s backendHost l p = (.ok (), p'))
    (hfree : p.get? k = none) (he : p'.get? k = some e) :
    ∃ mp ∈ l, mp.listenPort = k ∧ mp.protocol? = some e.protocol := by
  induction l generalizing p with
  | nil =>
    obtain ⟨-, rfl⟩ := Prod.mk.inj hok
    rw [hfree] at he
    cases he
  | cons mp l ih =>
    cases hadd : addModulePort config machine m s backendHost mp p with
    | error cause =>
      rw [addModulePorts_cons_of_error hadd] at hok
      cases hok
    | ok p₁ =>
      rw [addModulePorts_cons_of_ok hadd] at hok
      cases hk : p₁.get? k with
      | none =>
        obtain ⟨mp', hmem, h⟩ := ih hok hk
        exact ⟨mp', List.mem_cons_of_mem mp hmem, h⟩
      | some e₁ =>
        obtain ⟨hport, hprotocol⟩ := protocol?_of_addModulePort hadd hfree hk
        have hleads : p₁.Leads config machine
            (addModulePorts config machine m s backendHost l p₁).2 := leads_addModulePorts l
        rw [hok] at hleads
        obtain ⟨e', he', hc⟩ := hleads.grows.kept k e₁ hk
        obtain rfl := Option.some.inj (he.symm.trans he')
        exact ⟨mp, List.mem_cons_self, hport, hprotocol.trans (congrArg some hc.protocol.symm)⟩

/-- A port that cannot be added for its protocol is open for another one. -/
theorem get?_of_mismatch (h : addModulePort config machine m s backendHost mp p =
      .error (.protocolMismatch k cur wanted)) :
    mp.listenPort = k ∧ mp.protocol? = some wanted ∧ cur ≠ wanted ∧
      ∃ e, p.get? k = some e ∧ e.protocol = cur := by
  unfold addModulePort at h
  split at h
  · cases h
  · next protocol hprotocol =>
    split at h
    · next hensure =>
      obtain rfl := Except.error.inj h
      unfold ensurePort at hensure
      split at hensure
      · next e he =>
        split at hensure
        · cases hensure
        · next hne =>
          obtain ⟨rfl, rfl, rfl⟩ := GatewayError.protocolMismatch.inj (Except.error.inj hensure)
          exact ⟨rfl, hprotocol, hne, e, he, rfl⟩
      · rw [Ports.openPort_address] at hensure
        split at hensure
        · cases hensure
        · cases hensure
    · cases h

/-! ### Vacating ports -/

/-- **Vacates** the ports of a module: its routes go, and the idle ports that it wants for another
protocol. -/
def vacate (m : Module) (p : Ports) : Ports :=
  (p.removeOwner m.id.toString).close (isRetagged m)

theorem moves_vacate : p.Moves config (fun _ _ => False) (vacate m p) :=
  Ports.moves_removeOwner.trans Ports.moves_close

theorem route?_vacate :
    (vacate m p).route? k key = (p.route? k key).filter (·.owner ≠ m.id.toString) := by
  rw [vacate, Ports.route?_close_of_isIdle, Ports.route?_removeOwner]
  intro k e hretagged
  rw [isRetagged, Bool.and_eq_true] at hretagged
  exact hretagged.1

/-- A port that is left open is that of a listener, has a route of somebody else, or is not in the
way of the module. -/
theorem get?_of_vacate (he : (vacate m p).get? k = some e) :
    ∃ e₀, p.get? k = some e₀ ∧ e₀.protocol = e.protocol ∧
      ((∃ id, e₀.origin = .listener id) ∨
        (∃ key r, e₀.routes.get? key = some r ∧ r.owner ≠ m.id.toString) ∨
        ∀ mp ∈ m.ports, mp.listenPort = k → ∀ protocol ∈ mp.protocol?, protocol = e.protocol) := by
  obtain ⟨hremoved, hretagged⟩ := Ports.get?_close_eq_some.mp he
  rw [Ports.removeOwner, Ports.get?_mapRoutes] at hremoved
  obtain ⟨e₀, he₀, rfl⟩ := Option.map_eq_some_iff.mp hremoved
  refine ⟨e₀, he₀, rfl, ?_⟩
  cases horigin : e₀.origin with
  | listener id => exact .inl ⟨id, rfl⟩
  | module =>
    cases hempty : (e₀.routes.removeOwner m.id.toString).isEmpty with
    | false =>
      obtain ⟨key, r, hr⟩ := Route.Table.exists_of_isEmpty hempty
      rw [Route.Table.get?_removeOwner, Option.filter_eq_some_iff] at hr
      exact .inr (.inl ⟨key, r, hr.1, of_decide_eq_true hr.2⟩)
    | true =>
      refine .inr (.inr fun mp hmp hport protocol hprotocol => ?_)
      rw [isRetagged, Ports.isIdle, horigin, hempty] at hretagged
      have hnone := List.any_eq_false.mp hretagged mp hmp
      rw [hport, Option.mem_def.mp hprotocol] at hnone
      refine Decidable.byContradiction fun hne => hnone ?_
      exact Bool.and_eq_true_iff.mpr ⟨decide_eq_true rfl, decide_eq_true (Ne.symm hne)⟩

/-! ### What updating does -/

theorem planModule_of_isRoutable {container : String} (hroutable : s.status.isRoutable = true)
    (hcontainer : m.backendContainer s = some container) :
    planModule config machine m s = (config.resolve machine container).map some := by
  rw [planModule, hcontainer]
  dsimp only
  rw [if_pos hroutable]

theorem planModule_of_not_routed
    (h : m.backendContainer s = none ∨ s.status.isRoutable = false) :
    planModule config machine m s = .ok none := by
  rcases h with hnone | hroutable
  · rw [planModule, hnone]
  · exact planModule_of_not_isRoutable hroutable

theorem updateModule_of_plan_eq_none (h : planModule g.config machine m s = .ok none) :
    g.updateModule machine m s = (.ok (), { g with ports := (vacate m g.ports).evict }) := by
  rw [updateModule, h]
  rfl

theorem updateModule_of_plan_eq_some
    (h : planModule g.config machine m s = .ok (some backendHost)) :
    g.updateModule machine m s =
      let added := addModulePorts g.config machine m s backendHost m.ports (vacate m g.ports)
      (added.1, { g with ports := added.2.evict }) := by
  rw [updateModule, h]
  rfl

/-- The routes granted for ports of a module are its own. -/
theorem owner_of_lastGrant? {r : Route}
    (h : lastGrant? (l.filterMap (portGrant? config m s backendHost)) k key = some r) :
    r.owner = m.id.toString := by
  obtain ⟨grant, hlast, rfl⟩ := Option.map_eq_some_iff.mp h
  have hmem := (List.mem_filter.mp (List.mem_of_getLast? hlast)).1
  obtain ⟨mp, -, hgrant⟩ := List.mem_filterMap.mp hmem
  obtain ⟨protocol, -, rfl⟩ := Option.map_eq_some_iff.mp hgrant
  rfl

/-- What is **in the way** of a module on a port that is open for a protocol, when some of the ports
that it declares have been added: the port is a listener's, or somebody else has had a route there,
or it has been opened for one of those. -/
def InTheWay (m : Module) (done : List ModulePort) (p : Ports) (k : UInt16) (protocol : Protocol) :
    Prop :=
  (∃ e, p.get? k = some e ∧ e.protocol = protocol ∧
    ((∃ id, e.origin = .listener id) ∨
      ∃ key r, e.routes.get? key = some r ∧ r.owner ≠ m.id.toString)) ∨
  (vacate m p).get? k = none ∧ ∃ mp ∈ done, mp.listenPort = k ∧ mp.protocol? = some protocol

/-- A port that is declared for another protocol than it is open for has something in the way. -/
theorem inTheWay_of_mismatch (hports : m.ports = done ++ mp :: later)
    (hdone : addModulePorts config machine m s backendHost done (vacate m p) = (.ok (), p'))
    (hfail : addModulePort config machine m s backendHost mp p' =
      .error (.protocolMismatch k cur wanted)) :
    mp.listenPort = k ∧ mp.protocol? = some wanted ∧ cur ≠ wanted ∧ InTheWay m done p k cur := by
  obtain ⟨hport, hwanted, hne, e, he, rfl⟩ := get?_of_mismatch hfail
  refine ⟨hport, hwanted, hne, ?_⟩
  cases hvacated : (vacate m p).get? k with
  | none => exact .inr ⟨hvacated, exists_of_addModulePorts hdone hvacated he⟩
  | some e₁ =>
    have hleads : (vacate m p).Leads config machine
        (addModulePorts config machine m s backendHost done (vacate m p)).2 :=
      leads_addModulePorts done
    rw [hdone] at hleads
    obtain ⟨e', he', hc⟩ := hleads.grows.kept k e₁ hvacated
    obtain rfl := Option.some.inj (he.symm.trans he')
    obtain ⟨e₀, he₀, hprotocol, hway⟩ := get?_of_vacate hvacated
    refine .inl ⟨e₀, he₀, hprotocol.trans hc.protocol.symm, hway.imp_right fun hway => ?_⟩
    refine hway.resolve_right fun hsame => hne ?_
    have hmem : mp ∈ m.ports := hports ▸ List.mem_append_right done List.mem_cons_self
    rw [hsame mp hmem hport wanted hwanted]
    exact hc.protocol

/-- The routes of a module are **replaced** when it has those granted for the ports that it declares
in front of the first that fails, and the routes of others stay where none of these is granted. -/
structure Replaces (config : Config) (machine : Machine) (m : Module) (s : Server)
    (backendHost : String) (p : Ports) (result : Except GatewayError Unit) (p' : Ports)
    (done rest : List ModulePort) : Prop where
  declared : m.ports = done ++ rest
  own : ∀ k key r, p'.route? k key = some r ∧ r.owner = m.id.toString ↔
    lastGrant? (done.filterMap (portGrant? config m s backendHost)) k key = some r
  others : ∀ k key, lastGrant? (done.filterMap (portGrant? config m s backendHost)) k key = none →
    ∀ r, r.owner ≠ m.id.toString → (p'.route? k key = some r ↔ p.route? k key = some r)
  ok : result = .ok () ↔ rest = []
  failed : ∀ cause, result = .error cause → ∃ mp later reached, rest = mp :: later ∧
    addModulePorts config machine m s backendHost done (vacate m p) = (.ok (), reached) ∧
    addModulePort config machine m s backendHost mp reached = .error cause
  mismatch : ∀ k cur wanted, result = .error (.protocolMismatch k cur wanted) →
    ∃ mp later, rest = mp :: later ∧ mp.listenPort = k ∧ mp.protocol? = some wanted ∧
      cur ≠ wanted ∧ InTheWay m done p k cur

/-- **Adding the ports of a module to vacated ones replaces its routes.** -/
theorem replaces_addModulePorts (hp : p.Proper config) :
    let added := addModulePorts config machine m s backendHost m.ports (vacate m p)
    ∃ done rest, Replaces config machine m s backendHost p added.1 added.2.evict done rest := by
  intro added
  obtain ⟨done, rest, reached, hdeclared, hdone, hrest⟩ :=
    addModulePorts_cases config machine m s backendHost m.ports (vacate m p)
  have hresult : added.1 = .ok () ∧ rest = [] ∨ ∃ mp later cause, rest = mp :: later ∧
      addModulePort config machine m s backendHost mp reached = .error cause ∧
      added.1 = .error cause := by
    rcases hrest with ⟨rfl, hadded⟩ | ⟨mp, later, cause, rfl, hfail, hadded⟩
    · exact .inl ⟨congrArg Prod.fst hadded, rfl⟩
    · exact .inr ⟨mp, later, cause, rfl, hfail, congrArg Prod.fst hadded⟩
  have hreached : added.2 = reached := by
    rcases hrest with ⟨-, hadded⟩ | ⟨mp, later, cause, -, -, hadded⟩
    · exact congrArg Prod.snd hadded
    · exact congrArg Prod.snd hadded
  have hroute : ∀ k key, added.2.evict.route? k key =
      (lastGrant? (done.filterMap (portGrant? config m s backendHost)) k key).or
        ((p.route? k key).filter (·.owner ≠ m.id.toString)) := by
    intro k key
    rw [Ports.route?_evict, hreached,
      gains_addModulePorts ((moves_vacate (m := m)).proper hp) hdone k key, route?_vacate]
  refine ⟨done, rest, hdeclared, fun k key r => ?_, fun k key hnone r howner => ?_, ?_, ?_, ?_⟩
  · rw [hroute, Option.or_eq_some_iff]
    constructor
    · rintro ⟨hgrant | ⟨-, hkept⟩, howner⟩
      · exact hgrant
      · exact absurd howner (of_decide_eq_true (Option.filter_eq_some_iff.mp hkept).2)
    · exact fun hgrant => ⟨.inl hgrant, owner_of_lastGrant? hgrant⟩
  · rw [hroute, hnone, Option.none_or, Option.filter_eq_some_iff]
    exact and_iff_left (decide_eq_true howner)
  · rcases hresult with ⟨hok, rfl⟩ | ⟨mp, later, cause, rfl, -, herror⟩
    · exact iff_of_true hok rfl
    · rw [herror]
      exact iff_of_false nofun nofun
  · intro cause hcause
    rcases hresult with ⟨hok, -⟩ | ⟨mp, later, cause', hlist, hfail, herror⟩
    · rw [hok] at hcause
      cases hcause
    · obtain rfl := Except.error.inj (herror.symm.trans hcause)
      exact ⟨mp, later, reached, hlist, hdone, hfail⟩
  · intro k cur wanted hcause
    rcases hresult with ⟨hok, -⟩ | ⟨mp, later, cause', rfl, hfail, herror⟩
    · rw [hok] at hcause
      cases hcause
    · obtain rfl := Except.error.inj (herror.symm.trans hcause)
      exact ⟨mp, later, rfl, inTheWay_of_mismatch hdeclared hdone hfail⟩

/-- **What updating a module leaves**, after every run. If there is no container or the server is
not routable, the module has no routes, and the others stay. If the container cannot be resolved,
nothing has changed. Otherwise the routes of the module are replaced. In no case is a port of
modules left without a route. -/
theorem routes_updateModule (config : Config) (store : Store) (turns : List Turn)
    (machine : Machine) (m : Module) (s : Server) :
    let g := (new config store).after turns
    let outcome := g.updateModule machine m s
    (m.backendContainer s = none ∨ s.status.isRoutable = false →
      outcome.1 = .ok () ∧ outcome.2.ports.Disowns m.id.toString ∧
        g.ports.SparesOthers m.id.toString outcome.2.ports) ∧
    (∀ container, m.backendContainer s = some container → s.status.isRoutable = true →
      (∀ cause, config.resolve machine container = .error cause → outcome = (.error cause, g)) ∧
      ∀ backendHost, config.resolve machine container = .ok backendHost →
        ∃ done rest, Replaces config machine m s backendHost g.ports outcome.1 outcome.2.ports
          done rest) ∧
    ∀ k e, outcome.2.ports.get? k = some e → e.origin = .module →
      ∃ key r, e.routes.get? key = some r := by
  intro g outcome
  have hconfig : g.config = config := config_after turns
  refine ⟨fun hnone => ?_, fun container hcontainer hroutable => ⟨?_, ?_⟩, fun k e he hmodule => ?_⟩
  · have houtcome : outcome = (.ok (), { g with ports := (vacate m g.ports).evict }) :=
      updateModule_of_plan_eq_none (planModule_of_not_routed hnone)
    have hroute : ∀ k key, outcome.2.ports.route? k key =
        (g.ports.route? k key).filter (·.owner ≠ m.id.toString) := by
      intro k key
      rw [houtcome]
      exact Ports.route?_evict.trans route?_vacate
    refine ⟨congrArg Prod.fst houtcome, fun k key r hr => ?_, fun k key r hr howner => ?_⟩
    · rw [hroute] at hr
      exact of_decide_eq_true (Option.filter_eq_some_iff.mp hr).2
    · rw [hroute]
      exact Option.filter_eq_some_iff.mpr ⟨hr, decide_eq_true howner⟩
  · intro cause hcause
    have hplan : planModule g.config machine m s = .error cause := by
      rw [planModule_of_isRoutable hroutable hcontainer, hconfig, hcause]
      rfl
    change g.updateModule machine m s = _
    rw [updateModule, hplan]
  · intro backendHost hresolve
    have hplan : planModule g.config machine m s = .ok (some backendHost) := by
      rw [planModule_of_isRoutable hroutable hcontainer, hconfig, hresolve]
      rfl
    have houtcome := updateModule_of_plan_eq_some hplan
    rw [hconfig] at houtcome
    change ∃ done rest, Replaces config machine m s backendHost g.ports
      (g.updateModule machine m s).1 (g.updateModule machine m s).2.ports done rest
    rw [houtcome]
    exact replaces_addModulePorts (proper_after config store turns)
  · have hbusy : outcome.2.ports.Busy :=
      (keeps_updateModule.2 (Reachable.lawful ⟨config, store, turns, rfl⟩)).2 (lawful_after turns).2
    exact hbusy.exists_route he hmodule

/-- Of two ports with one host the later one has the route, a port of no known protocol stops the
update, and another module keeps its route on the same port. -/
theorem routes_updateModule_to_unknown_tag :
    let lobby : Server := {
      id := ⟨.ofNat 1⟩, name := "lobby", container := some "lobby", status := .running }
    let port (listenPort backendPort : UInt16) (tag host : String) : ModulePort := {
      listenPort, backendPort, tag, hostname := some host }
    let wiki : Module := {
      id := ⟨.ofNat 2⟩, server := lobby.id, name := "wiki"
      ports := [port 8000 70 "http" "wiki.games"] }
    let map : Module := {
      id := ⟨.ofNat 3⟩, server := lobby.id, name := "map"
      ports := [port 8000 80 "http" "map.games", port 8000 81 "http" "map.games",
        port 8001 82 "sctp" "", port 8002 83 "tcp" ""] }
    let machine : Machine := {
      address := fun _ _ => .ok (.v4 #v[172, 18, 0, 2]), bindFault := fun _ => none }
    let store := Store.ofPanel { version := 1, servers := [lobby], modules := [wiki] }
    let g := (new {} store).after [.call machine .start]
    let outcome := g.updateModule machine map lobby
    outcome.1 = .error (.unknownProtocol "sctp") ∧
      (outcome.2.ports.route? 8000 "map.games").map (·.backendPort) = some 81 ∧
      (outcome.2.ports.route? 8000 "wiki.games").map (·.owner) = some wiki.id.toString ∧
      outcome.2.ports.numbers = [8000] ∧
      ∃ done rest, Replaces {} machine map lobby "172.18.0.2" g.ports outcome.1 outcome.2.ports
        done rest := by
  intro lobby port wiki map machine store
  have hcontainer : map.backendContainer lobby = some "lobby" := rfl
  have hresolve : Config.resolve {} machine "lobby" = .ok "172.18.0.2" := by decide +kernel
  have hreplaces := (routes_updateModule {} store [.call machine .start] machine map lobby).2.1
    "lobby" hcontainer rfl
  exact ⟨by decide +kernel, by decide +kernel, by decide +kernel, by decide +kernel,
    hreplaces.2 "172.18.0.2" hresolve⟩

end Gateway

end GameGateway
