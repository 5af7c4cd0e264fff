import GameGateway.Proofs.Except
import GameGateway.Proofs.Gateway.Updating

/-!
# Updates that commute

What updating a server answers is told from the ports of the listeners, which no update changes; and
what it leaves in the place of the server is told from the one route that was there, while every
other place is left as it is (`route?_updateServer`). So the updates of two servers with different
places do not see each other, and their order does not matter (`updateServer_comm`). That the two
are looked up on different machines makes no difference, nor that a listener has several ports.
-/

namespace GameGateway.Gateway

variable {config : Config} {machine machine' : Machine} {g g' : Gateway} {k : UInt16} {key : String}
  {s a b : Server}

/-! ### Places -/

/-- Which place is a server's depends on the shape of the ports alone. -/
theorem inPlace_congr {p q : Ports} (h : p.SameShape q) :
    InPlace config s p k key ↔ InPlace config s q k key := by
  rw [InPlace, InPlace, h.listenerAt_eq]

/-- Two servers **share a place** when they have the same listener and the same key. -/
def SharePlace (config : Config) (a b : Server) : Prop :=
  a.listener = b.listener ∧
    Route.Key.normalize (config.hostnames.hostname a) =
      Route.Key.normalize (config.hostnames.hostname b)

instance : Decidable (SharePlace config a b) :=
  inferInstanceAs (Decidable (_ ∧ _))

theorem SharePlace.symm (h : SharePlace config a b) : SharePlace config b a :=
  ⟨h.1.symm, h.2.symm⟩

/-- Two servers with one place on a port share it in their records too. -/
theorem sharePlace_of_inPlace {p : Ports} (ha : InPlace config a p k key)
    (hb : InPlace config b p k key) : SharePlace config a b := by
  obtain ⟨l, hl, hplace⟩ := ha
  obtain ⟨l', hl', hplace'⟩ := hb
  obtain rfl := Option.some.inj (hl.symm.trans hl')
  obtain ⟨hlistener, hkey⟩ := place?_eq_some.mp hplace
  obtain ⟨hlistener', hkey'⟩ := place?_eq_some.mp hplace'
  exact ⟨hlistener.trans hlistener'.symm, hkey.trans hkey'.symm⟩

/-! ### What an update leaves in its place -/

/-- What updating a server makes of the route in its place on a port. A listener may have several
ports, of which the first gets the server's route. -/
def renewed (config : Config) (machine : Machine) (s : Server) (p : Ports) (k : UInt16)
    (route : Option Route) : Option Route :=
  if s.status.isRoutable then
    match routeFor? config machine s with
    | some (l, r) =>
      if p.portOf? l = some k then some { r with owner := (route.map Route.owner).getD r.owner }
      else route
    | none => route
  else none

theorem renewed_congr {p q : Ports} (h : p.SameShape q) {route : Option Route} :
    renewed config machine s p k route = renewed config machine s q k route := by
  unfold renewed
  simp only [h.portOf?_eq]

/-- **Updating a server** renews the route in its place, and no other one. -/
theorem route?_updateServer (hl : g.ports.Lawful g.config) :
    (g.updateServer machine s).2.ports.route? k key =
      if InPlace g.config s g.ports k key then
        renewed g.config machine s g.ports k (g.ports.route? k key)
      else g.ports.route? k key := by
  unfold renewed
  cases hroutable : s.status.isRoutable with
  | false => rw [route?_updateServer_of_not_isRoutable hl hroutable, if_neg Bool.false_ne_true]
  | true =>
    rw [if_pos rfl]
    cases hr : routeFor? g.config machine s with
    | none => rw [updateServer_of_isRoutable hroutable hr, ite_self]
    | some lr =>
      obtain ⟨l, r⟩ := lr
      have hplace : InPlace g.config s g.ports k key ↔
          g.ports.listenerAt k = some l ∧ r.key = key := by
        rw [inPlace_iff (routeFor?_eq_some.mp hr).1, key_of_routeFor? hr]
      dsimp only
      cases hport : g.ports.portOf? l with
      | none =>
        rw [updateServer_of_routeFor?_eq_some hr, hport, if_neg (Option.some_ne_none k).symm,
          ite_self]
      | some port =>
        rw [route?_updateServer_of_isRoutable hl hr hport]
        by_cases hk : port = k
        · subst hk
          have hlistener := Ports.listenerAt_eq_some.mpr (Ports.exists_of_portOf? hport)
          simp only [hplace, hlistener, true_and, if_true]
        · rw [if_neg fun hcond => hk hcond.1, if_neg (mt Option.some.inj hk), ite_self]

/-! ### What an update does not change -/

theorem config_updateServer : (g.updateServer machine s).2.config = g.config :=
  keeps_updateServer.1

theorem held_updateServer : (g.updateServer machine s).2.ports.held = g.ports.held := by
  unfold updateServer
  split
  · rfl
  · next plan _ =>
    cases plan with
    | nothing => rfl
    | withdraw listener hostname => rfl
    | install listener hostname backendHost =>
      simp only [carryOut]
      split <;> rfl

/-- Ports stay lawful when a server is updated. -/
theorem lawful_updateServer (hl : g.ports.Lawful g.config) :
    (g.updateServer machine s).2.ports.Lawful (g.updateServer machine s).2.config := by
  rw [config_updateServer]
  exact (keeps_updateServer.2 hl).1

/-- What an update answers does not depend on the routes. -/
theorem fst_updateServer_congr (hconfig : g.config = g'.config)
    (hshape : g.ports.SameShape g'.ports) :
    (g.updateServer machine s).1 = (g'.updateServer machine s).1 := by
  rw [updateServer, updateServer, hconfig]
  split
  · rfl
  · next plan _ =>
    cases plan with
    | nothing => rfl
    | withdraw listener hostname => rfl
    | install listener hostname backendHost =>
      rw [carryOut, carryOut, hshape.portOf?_eq]
      split <;> rfl

/-- An update answers the same behind another one. -/
theorem fst_updateServer_updateServer :
    ((g.updateServer machine b).2.updateServer machine' a).1 = (g.updateServer machine' a).1 :=
  (fst_updateServer_congr config_updateServer.symm sameShape_updateServer).symm

/-! ### Two updates -/

/-- What two updates leave, if their servers do not share a place. -/
theorem route?_updateServer_updateServer (hl : g.ports.Lawful g.config)
    (hne : ¬SharePlace g.config a b) :
    ((g.updateServer machine a).2.updateServer machine' b).2.ports.route? k key =
      if InPlace g.config a g.ports k key then
        renewed g.config machine a g.ports k (g.ports.route? k key)
      else if InPlace g.config b g.ports k key then
        renewed g.config machine' b g.ports k (g.ports.route? k key)
      else g.ports.route? k key := by
  have hshape : g.ports.SameShape (g.updateServer machine a).2.ports := sameShape_updateServer
  rw [route?_updateServer (lawful_updateServer hl), config_updateServer]
  simp only [← inPlace_congr hshape, ← renewed_congr hshape, route?_updateServer hl]
  by_cases ha : InPlace g.config a g.ports k key
  · have hb : ¬InPlace g.config b g.ports k key := fun hb => hne (sharePlace_of_inPlace ha hb)
    rw [if_neg hb, if_pos ha, if_pos ha]
  · rw [if_neg ha, if_neg ha]

/-- **Servers of different places are routed alike in both orders.** -/
theorem route?_updateServer_comm (hl : g.ports.Lawful g.config) (hne : ¬SharePlace g.config a b) :
    ((g.updateServer machine a).2.updateServer machine' b).2.ports.route? k key =
      ((g.updateServer machine' b).2.updateServer machine a).2.ports.route? k key := by
  rw [route?_updateServer_updateServer hl hne,
    route?_updateServer_updateServer hl fun h => hne h.symm]
  by_cases ha : InPlace g.config a g.ports k key
  · have hb : ¬InPlace g.config b g.ports k key := fun hb => hne (sharePlace_of_inPlace ha hb)
    rw [if_pos ha, if_neg hb, if_pos ha]
  · rw [if_neg ha, if_neg ha]

theorem sameShape_updateServer_updateServer :
    g.ports.SameShape ((g.updateServer machine a).2.updateServer machine' b).2.ports :=
  sameShape_updateServer.trans sameShape_updateServer

/-- So they do when two servers are updated. -/
theorem lawful_updateServer_updateServer (hl : g.ports.Lawful g.config) :
    ((g.updateServer machine a).2.updateServer machine' b).2.ports.Lawful g.config := by
  have h : ((g.updateServer machine a).2.updateServer machine' b).2.ports.Lawful
      ((g.updateServer machine a).2.updateServer machine' b).2.config :=
    lawful_updateServer (lawful_updateServer hl)
  rwa [config_updateServer, config_updateServer] at h

/-- Gateways are the same when their ports are and they differ in nothing else. -/
theorem eq_of_get?_eq (hconfig : g.config = g'.config) (hstore : g.store = g'.store)
    (hget : ∀ k, g.ports.get? k = g'.ports.get? k) (hheld : g.ports.held = g'.ports.held) :
    g = g' := by
  obtain ⟨config, store, ports⟩ := g
  obtain ⟨config', store', ports'⟩ := g'
  obtain rfl : config = config' := hconfig
  obtain rfl : store = store' := hstore
  obtain rfl : ports = ports' := Ports.ext_get? hget hheld
  rfl

/-- **Updates of servers that do not share a place leave the same** in either order. -/
theorem snd_updateServer_comm (hl : g.ports.Lawful g.config) (hne : ¬SharePlace g.config a b) :
    ((g.updateServer machine a).2.updateServer machine' b).2 =
      ((g.updateServer machine' b).2.updateServer machine a).2 := by
  refine eq_of_get?_eq ?_ ?_ (fun k => ?_) ?_
  · simp only [config_updateServer]
  · simp only [store_updateServer]
  · have hshape : ((g.updateServer machine a).2.updateServer machine' b).2.ports.SameShape
        ((g.updateServer machine' b).2.updateServer machine a).2.ports :=
      sameShape_updateServer_updateServer.symm.trans sameShape_updateServer_updateServer
    exact hshape.get?_eq (lawful_updateServer_updateServer hl)
      (lawful_updateServer_updateServer hl) fun key => route?_updateServer_comm hl hne
  · simp only [held_updateServer]

/-- **Updates of servers that do not share a place commute**, after every run. Each answers the same
before the other and behind it, and the gateway is the same in the end, with the same routes. -/
theorem updateServer_comm (config : Config) (store : Store) (turns : List Turn)
    (machine machine' : Machine) (a b : Server) (hne : ¬SharePlace config a b) :
    let g := (new config store).after turns
    let ab := (g.updateServer machine a).2.updateServer machine' b
    let ba := (g.updateServer machine' b).2.updateServer machine a
    ba.1 = (g.updateServer machine a).1 ∧ ab.1 = (g.updateServer machine' b).1 ∧ ab.2 = ba.2 := by
  intro g ab ba
  have hl : g.ports.Lawful g.config := Reachable.lawful ⟨config, store, turns, rfl⟩
  have hconfig : g.config = config := config_after turns
  exact ⟨fst_updateServer_updateServer, fst_updateServer_updateServer,
    snd_updateServer_comm hl (hconfig ▸ hne)⟩

/-- One server of a listener stops while another one is given a new port. -/
theorem updateServer_comm_on_one_listener :
    let config : Config := { hostnames := { baseDomain := some "example.org" } }
    let machine : Machine := {
      address := fun _ _ => .ok (.v4 #v[172, 18, 0, 2]), bindFault := fun _ => none }
    let main : Listener := { id := ⟨.ofNat 1⟩, port := 25565, name := "main" }
    let lobby : Server := {
      id := ⟨.ofNat 2⟩, name := "lobby", container := some "lobby", status := .running
      listener := some main.id }
    let arena : Server := {
      id := ⟨.ofNat 3⟩, name := "arena", container := some "arena", status := .running
      listener := some main.id }
    let store := Store.ofPanel { version := 1, listeners := [main], servers := [lobby, arena] }
    let g := (new config store).after [.call machine .start]
    let a := { lobby with status := .stopped }
    let b := { arena with gamePort := 25570 }
    let ab := (g.updateServer machine a).2.updateServer machine b
    let ba := (g.updateServer machine b).2.updateServer machine a
    ¬SharePlace config a b ∧ ab.1 = .ok () ∧ ba.1 = .ok () ∧ ab.2 = ba.2 ∧
      ab.2.ports.route? 25565 "lobby.example.org" = none ∧
      ba.2.ports.route? 25565 "arena.example.org" =
        some ⟨arena.id.toString, "arena.example.org", "172.18.0.2", 25570, true⟩ := by
  intro config machine main lobby arena store g a b ab ba
  have hne : ¬SharePlace config a b := by decide +kernel
  have h := updateServer_comm config store [.call machine .start] machine machine a b hne
  exact ⟨hne, h.2.1.trans (by decide +kernel), h.1.trans (by decide +kernel), h.2.2,
    by decide +kernel, by decide +kernel⟩

end GameGateway.Gateway
