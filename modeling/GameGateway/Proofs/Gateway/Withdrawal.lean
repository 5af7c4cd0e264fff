import GameGateway.Proofs.Gateway.Starting
import Mathlib.Algebra.BigOperators.Group.List.Basic
import Mathlib.Algebra.GroupWithZero.Nat

/-!
# Withdrawing routes

Routes are withdrawn by their owner, which is a server or a module, or by a host, on the ports of a
listener or on all that have virtual hosts. Each way **names** some routes, and what it does is the
same for all of them: exactly the named routes go, the answer is how many they were, and the ports
of modules that are left without a route are given up (`withdraws_exactly`).

Only two of the ways look for such ports at all. The other two leave none: a server owns no route on
the ports of modules, and a listener's port is not one of them. So ports that were busy before are
what evicting would leave (`ports_withdraw`).
-/

namespace GameGateway

/-! ### Tables without some of their routes -/

namespace Route.Table

variable {t : Table} {named : String → Route → Bool} {key owner spelling : String} {r : Route}

/-- A table **without** the routes that are named. -/
def without (t : Table) (named : String → Route → Bool) : Table :=
  { t with entries := t.entries.filter fun key r => !named key r }

theorem get?_without : (t.without named).get? key = (t.get? key).filter fun r => !named key r := by
  simp [get?, without]

/-- A route is left when it was there and is not named. -/
theorem get?_without_eq_some :
    (t.without named).get? key = some r ↔ t.get? key = some r ∧ named key r = false := by
  rw [get?_without, Option.filter_eq_some_iff, Bool.not_eq_true']

/-- Nothing is left when all routes are named. -/
theorem isEmpty_without :
    (t.without named).isEmpty = true ↔ t.Forall fun key r => named key r = true := by
  simp only [isEmpty_iff, get?_without, Option.filter_eq_none_iff, Forall, Bool.not_eq_true',
    Bool.not_eq_false]

/-- Where no route is named, the table is the same. -/
theorem without_eq_self (h : t.Forall fun key r => named key r = false) :
    t.without named = t := by
  refine Table.ext rfl fun key => Option.ext fun r => ?_
  rw [get?_without_eq_some]
  exact and_iff_left_of_imp (h key r)

/-- Removing an owner names its routes. -/
theorem removeOwner_eq_without : t.removeOwner owner = t.without fun _ r => r.owner = owner := by
  refine Table.ext rfl fun key => ?_
  simp only [get?_removeOwner, get?_without, decide_not]

/-- Removing a host names the route under its key, whoever owns it. -/
theorem remove_eq_without : t.remove spelling = t.without fun key _ => key = t.keyOf spelling := by
  refine Table.ext rfl fun key => Option.ext fun r => ?_
  rw [get?_remove, get?_without_eq_some, decide_eq_false_iff_not]
  split
  · next hkey => simp [hkey]
  · next hkey => exact (and_iff_left (Ne.symm hkey)).symm

/-- An owner has as many keys as routes. -/
theorem length_keysOf : (t.keysOf owner).length = t.entries.toList.countP (·.2.owner = owner) := by
  rw [keysOf, Std.ExtTreeMap.length_keys, ← Std.ExtTreeMap.length_toList,
    Std.ExtTreeMap.toList_filter, List.countP_eq_length_filter]

/-- The routes of an owner and those that are left are all there were. -/
theorem size_removeOwner : (t.removeOwner owner).size + (t.keysOf owner).length = t.size := by
  have hleft : (t.removeOwner owner).size =
      t.entries.toList.countP fun e => ¬decide (e.2.owner = owner) = true := by
    rw [size, removeOwner, ← Std.ExtTreeMap.length_toList, Std.ExtTreeMap.toList_filter,
      List.countP_eq_length_filter]
    simp only [decide_eq_true_eq, ne_eq]
  rw [hleft, length_keysOf, Nat.add_comm, size, ← Std.ExtTreeMap.length_toList]
  exact (List.length_eq_countP_add_countP _).symm

/-- Removing a key takes one route, if there is one under it. -/
theorem size_remove :
    (t.remove spelling).size + (if t.contains spelling then 1 else 0) = t.size := by
  have hcontains : t.contains spelling = t.entries.contains (t.keyOf spelling) :=
    Std.ExtTreeMap.contains_eq_isSome_getElem?.symm
  rw [hcontains, size, remove, Std.ExtTreeMap.size_erase, size]
  split
  · next hmem =>
    have hpos : t.entries.size ≠ 0 := fun hzero => by
      rw [Std.ExtTreeMap.eq_empty_iff_size_eq_zero.mpr hzero] at hmem
      simp at hmem
    omega
  · rfl

end Route.Table

/-! ### Sums over ports -/

/-- The values of a map are those of its entries, in order. -/
theorem values_eq_map_toList {κ α : Type} {cmp : κ → κ → Ordering} [Std.TransCmp cmp]
    (m : Std.ExtTreeMap κ α cmp) : m.values = m.toList.map Prod.snd := by
  have hfold : m.values = m.foldr (fun _ a values => a :: values) [] := by
    obtain ⟨inner⟩ := m
    induction inner using Std.ExtDTreeMap.inductionOn
    rfl
  rw [hfold, Std.ExtTreeMap.foldr_eq_foldr_toList]
  exact List.foldr_cons_eq_append.trans (List.append_nil _)

/-- Items of no weight do not count. -/
theorem sum_map_filter {α : Type} {weight : α → Nat} {p : α → Bool} {l : List α}
    (h : ∀ a ∈ l, p a = false → weight a = 0) :
    ((l.filter p).map weight).sum = (l.map weight).sum := by
  have hrest : ((l.filter fun a => ¬p a = true).map weight).sum = 0 := by
    refine List.sum_eq_zero fun n hn => ?_
    obtain ⟨a, ha, rfl⟩ := List.mem_map.mp hn
    rw [List.mem_filter, decide_eq_true_eq, Bool.not_eq_true] at ha
    exact h a ha.1 ha.2
  have hall := List.sum_map_filter_add_sum_map_filter_not (p · = true) weight l
  rw [hrest, Nat.add_zero] at hall
  simpa using hall

namespace Ports

variable {p : Ports} {weight weight' : Entry → Nat} {f : Entry → Route.Table}

/-- The **total** of what the entries of the ports weigh. -/
def total (p : Ports) (weight : Entry → Nat) : Nat :=
  (p.entries.toList.map fun e => weight e.2).sum

/-- The total may be taken over the entries alone, without their ports. -/
theorem total_eq : p.total weight = (p.entries.values.map weight).sum := by
  rw [values_eq_map_toList, List.map_map]
  rfl

theorem total_add :
    p.total (fun e => weight e + weight' e) = p.total weight + p.total weight' :=
  List.sum_map_add

theorem total_mapRoutes :
    (p.mapRoutes f).total weight = p.total fun e => weight { e with routes := f e } := by
  simp only [total, mapRoutes, Std.ExtTreeMap.toList_map, List.map_map]
  rfl

/-- Closing ports that weigh nothing leaves the total. -/
theorem total_close {closing : UInt16 → Entry → Bool}
    (h : ∀ k e, closing k e = true → weight e = 0) :
    (p.close closing).total weight = p.total weight := by
  rw [total, close, Std.ExtTreeMap.toList_filter]
  refine sum_map_filter fun e _ he => h e.1 e.2 ?_
  simpa using he

/-! #### Numbers of routes -/

/-- The number of routes is a total. -/
theorem routeCount_eq : p.routeCount = p.total fun e => e.routes.size := by
  rw [routeCount, List.length_flatMap, total_eq]
  refine congrArg List.sum (List.map_congr_left fun e _ => ?_)
  rw [Route.Table.routes, values_eq_map_toList, List.length_map, Std.ExtTreeMap.length_toList,
    Route.Table.size]

/-- So is the number of routes that an owner has. -/
theorem ownedCount_eq {owner : String} :
    p.ownedCount owner = p.total fun e => (e.routes.keysOf owner).length := by
  rw [ownedCount, List.length_flatMap, total_eq]

/-- And so is the number of entries of a kind. -/
theorem length_filter_values {affected : Entry → Bool} :
    (p.entries.values.filter affected).length = p.total fun e => if affected e then 1 else 0 := by
  simp [total_eq, List.sum_map_ite]

/-- Evicting takes no routes, so it does not count. -/
theorem routeCount_evict : p.evict.routeCount = p.routeCount := by
  rw [routeCount_eq, routeCount_eq, evict]
  refine total_close fun _ e hidle => ?_
  rw [isIdle, Bool.and_eq_true] at hidle
  rw [Route.Table.size, ← Std.ExtTreeMap.eq_empty_iff_size_eq_zero]
  exact Std.ExtTreeMap.isEmpty_iff.mp hidle.2

/-- When each table loses some routes, the ports lose the total. -/
theorem routeCount_mapRoutes
    (h : ∀ e : Entry, (f e).size + weight e = e.routes.size) :
    (p.mapRoutes f).routeCount + p.total weight = p.routeCount := by
  rw [routeCount_eq, routeCount_eq, total_mapRoutes, ← total_add]
  simp only [h]

end Ports

namespace Gateway

variable {config : Config} {g : Gateway} {k : UInt16} {e : Entry} {x : Withdrawal}

/-! ### The ways to withdraw routes -/

/-- A way to **withdraw** routes. -/
inductive Withdrawal where
  | server (id : ServerId)
  | module (id : ModuleId)
  /-- By a host, on the port of a listener or else on all with virtual hosts. -/
  | host (hostname : String) (listener : Option ListenerId)

/-- Withdraws routes, and tells how many went. -/
def withdraw (g : Gateway) : Withdrawal → Nat × Gateway
  | .server id => g.removeServer id
  | .module id => g.removeModule id
  | .host hostname listener => g.removeHostname hostname listener

namespace Withdrawal

/-- Whether a withdrawal **names** a route under a key on a port. -/
def names : Withdrawal → Entry → String → Route → Bool
  | .server id, _, _, r => r.owner = id.toString
  | .module id, _, _, r => r.owner = id.toString
  | .host hostname (some l), e, key, _ =>
    e.origin = .listener l && key = Route.Key.normalize hostname
  | .host hostname none, e, key, _ =>
    (e.protocol = .http || e.protocol = .minecraft) && key = Route.Key.normalize hostname

/-- The routes that a withdrawal leaves on a port. -/
def left : Withdrawal → Entry → Route.Table
  | .server id, e => e.routes.removeOwner id.toString
  | .module id, e => e.routes.removeOwner id.toString
  | .host hostname listener, e =>
    if concerns listener e then e.routes.remove hostname else e.routes

/-- The number of routes that a withdrawal counts on a port. -/
def gone : Withdrawal → Entry → Nat
  | .server id, e => (e.routes.keysOf id.toString).length
  | .module id, e => (e.routes.keysOf id.toString).length
  | .host hostname listener, e =>
    if concerns listener e && e.routes.contains hostname then 1 else 0

/-- A host is named on the ports that it concerns, and there under its key. -/
theorem names_host {hostname key : String} {listener : Option ListenerId} {r : Route} :
    (host hostname listener).names e key r =
      (concerns listener e && key = Route.Key.normalize hostname) := by
  cases listener with
  | some l => rfl
  | none => cases h : e.protocol <;> simp [names, concerns, h, Protocol.isVirtualHosted]

/-- A host concerns only ports that tell hosts apart. -/
theorem isVirtualHosted_of_concerns (h : e.Lawful config k) {listener : Option ListenerId}
    (hc : concerns listener e = true) : e.protocol.isVirtualHosted = true := by
  cases listener with
  | none => exact hc
  | some l =>
    rw [h.listener (of_decide_eq_true hc)]
    rfl

/-- **What is left is what is not named.** -/
theorem left_eq_without (h : e.Lawful config k) : x.left e = e.routes.without (x.names e) := by
  cases x with
  | server id => exact Route.Table.removeOwner_eq_without
  | module id => exact Route.Table.removeOwner_eq_without
  | host hostname listener =>
    rw [left]
    split
    · next hc =>
      have hkey : e.routes.keyOf hostname = Route.Key.normalize hostname := by
        rw [Route.Table.keyOf, h.table.virtualHosts, isVirtualHosted_of_concerns h hc, if_pos rfl]
      rw [Route.Table.remove_eq_without, hkey]
      refine congrArg _ (funext₂ fun key r => ?_)
      rw [names_host, hc, Bool.true_and]
    · next hc =>
      refine (Route.Table.without_eq_self fun key r _ => ?_).symm
      dsimp only
      rw [names_host, Bool.eq_false_iff.mpr hc, Bool.false_and]

/-- **What is counted is what goes.** -/
theorem size_left : (x.left e).size + x.gone e = e.routes.size := by
  cases x with
  | server id => exact Route.Table.size_removeOwner
  | module id => exact Route.Table.size_removeOwner
  | host hostname listener =>
    rw [left, gone]
    by_cases hc : concerns listener e = true
    · rw [if_pos hc, hc, Bool.true_and]
      exact Route.Table.size_remove
    · rw [if_neg hc, Bool.eq_false_iff.mpr hc, Bool.false_and, if_neg Bool.false_ne_true,
        Nat.add_zero]

end Withdrawal

/-- The answer is the total of what goes on each port. -/
theorem fst_withdraw : (g.withdraw x).1 = g.ports.total x.gone := by
  cases x with
  | server id => exact Ports.ownedCount_eq
  | module id => exact Ports.ownedCount_eq
  | host hostname listener => exact Ports.length_filter_values

theorem keeps_withdraw : g.Keeps (g.withdraw x).2 := by
  cases x with
  | server id => exact keeps_removeServer
  | module id => exact keeps_removeModule
  | host hostname listener => exact keeps_removeHostname

/-- **A withdrawal leaves what evicting would leave**, also where it does not evict. -/
theorem ports_withdraw (hl : g.ports.Lawful g.config) (hb : g.ports.Busy) :
    (g.withdraw x).2.ports = (g.ports.mapRoutes x.left).evict := by
  have hbusy : (g.withdraw x).2.ports.Busy := (keeps_withdraw.2 hl).2 hb
  cases x with
  | server id => exact (evict_eq_self hbusy).symm
  | module id => rfl
  | host hostname listener =>
    cases listener with
    | none => rfl
    | some l => exact (evict_eq_self hbusy).symm

/-! ### What a withdrawal does -/

/-- A gateway **withdraws** just the routes that are named. -/
structure Withdraws (named : Entry → String → Route → Bool) (g : Gateway)
    (outcome : Nat × Gateway) : Prop where
  /-- Exactly the routes that are not named are left, as they were. -/
  routes : ∀ k key r, outcome.2.ports.route? k key = some r ↔
    ∃ e, g.ports.get? k = some e ∧ e.routes.get? key = some r ∧ named e key r = false
  /-- The number is that of the routes that went. -/
  count : outcome.2.ports.routeCount + outcome.1 = g.ports.routeCount
  /-- A port is given up just when it was opened for modules and all its routes are named. -/
  closed : ∀ k e, g.ports.get? k = some e →
    (outcome.2.ports.get? k = none ↔
      e.origin = .module ∧ e.routes.Forall fun key r => named e key r = true)
  /-- A port that is open was open before, and has lost no more than its named routes. -/
  kept : ∀ k e', outcome.2.ports.get? k = some e' →
    ∃ e, g.ports.get? k = some e ∧ e' = { e with routes := e.routes.without (named e) }
  /-- Sockets are given up with their ports. -/
  held : ∀ socket, socket ∈ outcome.2.ports.held ↔
    socket ∈ g.ports.held ∧ (outcome.2.ports.get? socket.port).isSome
  config : outcome.2.config = g.config
  store : outcome.2.store = g.store

/-- What a withdrawal does to each port. -/
theorem get?_withdraw (hl : g.ports.Lawful g.config) (hb : g.ports.Busy) :
    (g.withdraw x).2.ports.get? k =
      ((g.ports.get? k).map fun e => { e with routes := e.routes.without (x.names e) }).filter
        fun e => !Ports.isIdle e := by
  rw [ports_withdraw hl hb, Ports.evict, Ports.get?_close, Ports.get?_mapRoutes]
  cases he : g.ports.get? k with
  | none => rfl
  | some e => rw [Option.map_some, Option.map_some, Withdrawal.left_eq_without (hl.entry he)]

/-- What is left on a port was there before, with its named routes. -/
theorem exists_of_get?_withdraw (hl : g.ports.Lawful g.config) (hb : g.ports.Busy)
    (h : (g.withdraw x).2.ports.get? k = some e) :
    ∃ e₀, g.ports.get? k = some e₀ ∧ e = { e₀ with routes := e₀.routes.without (x.names e₀) } := by
  rw [get?_withdraw hl hb] at h
  obtain ⟨e₀, he₀, heq⟩ := Option.map_eq_some_iff.mp (Option.eq_some_of_filter_eq_some h)
  exact ⟨e₀, he₀, heq.symm⟩

theorem store_withdraw : (g.withdraw x).2.store = g.store := by
  cases x <;> rfl

/-- **On lawful ports each way withdraws just what it names.** -/
theorem withdraws_of_lawful (hl : g.ports.Lawful g.config) (hb : g.ports.Busy) :
    g.Withdraws x.names (g.withdraw x) where
  routes k key r := by
    rw [ports_withdraw hl hb, Ports.route?_evict, Ports.route?_mapRoutes, Option.bind_eq_some_iff]
    refine exists_congr fun e => and_congr_right fun he => ?_
    rw [Withdrawal.left_eq_without (hl.entry he), Route.Table.get?_without_eq_some]
  count := by
    rw [fst_withdraw, ports_withdraw hl hb, Ports.routeCount_evict]
    exact Ports.routeCount_mapRoutes fun e => Withdrawal.size_left
  closed k e he := by
    rw [get?_withdraw hl hb, he, Option.map_some, Option.filter_eq_none_iff]
    simp [Ports.isIdle, Route.Table.isEmpty_without]
  kept k e' he' := exists_of_get?_withdraw hl hb he'
  held socket := by
    have hlawful : (g.withdraw x).2.ports.Lawful g.config := (keeps_withdraw.2 hl).1
    rw [hlawful.held, hl.held]
    constructor
    · rintro ⟨e', he', hsocket⟩
      obtain ⟨e, he, rfl⟩ := exists_of_get?_withdraw hl hb he'
      exact ⟨⟨e, he, hsocket⟩, by rw [he']; rfl⟩
    · rintro ⟨⟨e, he, hsocket⟩, hopen⟩
      obtain ⟨e', he'⟩ := Option.isSome_iff_exists.mp hopen
      refine ⟨e', he', ?_⟩
      obtain ⟨e₀, he₀, rfl⟩ := exists_of_get?_withdraw hl hb he'
      obtain rfl := Option.some.inj (he.symm.trans he₀)
      exact hsocket
  config := keeps_withdraw.1
  store := store_withdraw

namespace Withdraws

variable {named : Entry → String → Route → Bool} {outcome : Nat × Gateway} {id : ListenerId}

/-- A port that is not given up loses its named routes and nothing else. -/
theorem get?_of_not_closed (h : g.Withdraws named outcome) (he : g.ports.get? k = some e)
    (hopen : ¬(e.origin = .module ∧ e.routes.Forall fun key r => named e key r = true)) :
    outcome.2.ports.get? k = some { e with routes := e.routes.without (named e) } := by
  obtain ⟨e', he'⟩ := Option.ne_none_iff_exists'.mp (mt (h.closed k e he).mp hopen)
  obtain ⟨e₀, he₀, rfl⟩ := h.kept k e' he'
  obtain rfl := Option.some.inj (he.symm.trans he₀)
  exact he'

/-- A port that was opened for a listener stays open. -/
theorem listenerAt (h : g.Withdraws named outcome) (hk : g.ports.listenerAt k = some id) :
    outcome.2.ports.listenerAt k = some id := by
  obtain ⟨e, he, horigin⟩ := Ports.listenerAt_eq_some.mp hk
  have hopen : e.origin ≠ .module := by
    rw [horigin]
    exact nofun
  exact Ports.listenerAt_eq_some.mpr
    ⟨_, h.get?_of_not_closed he fun hclosed => hopen hclosed.1, horigin⟩

/-- A port without a named route stays as it is, if it was not idle. -/
theorem get?_eq_some (h : g.Withdraws named outcome) (hb : g.ports.Busy)
    (he : g.ports.get? k = some e) (hnamed : e.routes.Forall fun key r => named e key r = false) :
    outcome.2.ports.get? k = some e := by
  have hopen : ¬(e.origin = .module ∧ e.routes.Forall fun key r => named e key r = true) := by
    rintro ⟨hmodule, hall⟩
    have hempty : e.routes.isEmpty = true := by
      refine Route.Table.isEmpty_iff.mpr fun key => Option.eq_none_iff_forall_ne_some.mpr ?_
      intro r hr
      exact Bool.false_ne_true ((hnamed key r hr).symm.trans (hall key r hr))
    have hidle := hb k e he
    rw [Ports.isIdle, hmodule, hempty] at hidle
    cases hidle
  rw [h.get?_of_not_closed he hopen, Route.Table.without_eq_self hnamed]

end Withdraws

/-- **A withdrawal takes exactly the routes that it names**, after every run. It answers how many
they were, leaves all others as they are, and gives up the ports of modules that have no route left.
No listener loses its port, and a port without a named route is not touched. -/
theorem withdraws_exactly (config : Config) (store : Store) (turns : List Turn) (x : Withdrawal) :
    let g := (new config store).after turns
    let outcome := g.withdraw x
    g.Withdraws x.names outcome ∧
    (∀ k id, g.ports.listenerAt k = some id → outcome.2.ports.listenerAt k = some id) ∧
    ∀ k e, g.ports.get? k = some e → (e.routes.Forall fun key r => x.names e key r = false) →
      outcome.2.ports.get? k = some e := by
  intro g outcome
  obtain ⟨hl, hb⟩ : g.ports.Lawful config ∧ g.ports.Busy := lawful_after turns
  have hconfig : g.config = config := config_after turns
  have hwithdraws : g.Withdraws x.names outcome := withdraws_of_lawful (hconfig ▸ hl) hb
  exact ⟨hwithdraws, fun _ _ => hwithdraws.listenerAt, fun _ _ => hwithdraws.get?_eq_some hb⟩

/-- A host is withdrawn from all ports: a server loses its route and its listener stays, a module
loses its port for the web and keeps the one for voice. -/
theorem withdraws_exactly_host :
    let lobby : Server := {
      id := ⟨.ofNat 1⟩, name := "lobby", container := some "lobby", status := .running
      hostname := some "lobby.example.org", listener := some ⟨.ofNat 2⟩ }
    let main : Listener := { id := ⟨.ofNat 2⟩, port := 25565, name := "main" }
    let addons : Module := {
      id := ⟨.ofNat 3⟩, server := lobby.id, name := "addons"
      ports := [{ listenPort := 8000, backendPort := 80, tag := "http" },
        { listenPort := 9000, backendPort := 90, tag := "udp" }] }
    let machine : Machine := {
      address := fun _ _ => .ok (.v4 #v[172, 18, 0, 2]), bindFault := fun _ => none }
    let store := Store.ofPanel {
      version := 1, listeners := [main], servers := [lobby], modules := [addons] }
    let g := (new {} store).after [.call machine .start]
    let x := Withdrawal.host "Lobby.example.org:25565" none
    g.ports.numbers = [8000, 9000, 25565] ∧ (g.withdraw x).1 = 2 ∧
      (g.withdraw x).2.ports.numbers = [9000, 25565] ∧
      (g.withdraw x).2.ports.listenerAt 25565 = some main.id ∧
      (g.withdraw x).2.ports.get? 9000 = g.ports.get? 9000 ∧
      g.Withdraws x.names (g.withdraw x) := by
  intro lobby main addons machine store g x
  have h := withdraws_exactly {} store [.call machine .start] x
  exact ⟨by decide +kernel, by decide +kernel, by decide +kernel,
    h.2.1 25565 main.id (by decide +kernel), by decide +kernel, h.1⟩

end Gateway

end GameGateway
