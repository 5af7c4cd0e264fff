import GameGateway.Gateway.Basic
import GameGateway.Proofs.Ident.Text

/-!
# Lawful ports

What holds of the ports of a gateway at all times. A **lawful table** keeps each route under the
key that the route names, which is a key that can be asked for, and has active routes only; on a
port of modules they all belong to modules. A **lawful entry** runs on its port's address, and one
that was opened for a listener forwards the game's protocol. The ports are lawful when all entries
are, and the sockets that are held are exactly those of the entries. They are **busy** when no
module port is without a route, which is not so in the middle of a refresh.

Each way of changing ports has a lemma for both: `Ports.Lawful.close`, `Ports.Lawful.openPort` and
so on.
-/

namespace GameGateway

/-! ### Properties of all routes of a table -/

namespace Route.Table

variable {t : Table} {P : String → Route → Prop}

/-- A property of **all routes** of a table and their keys. -/
def Forall (t : Table) (P : String → Route → Prop) : Prop :=
  ∀ k r, t.get? k = some r → P k r

/-- For a property of all routes, the one that is added has to have it. -/
theorem Forall.add (h : t.Forall P) {owner spelling host : String} {port : UInt16}
    (hP : P (t.keyOf spelling) ⟨owner, t.keyOf spelling, host, port, true⟩) :
    (t.add owner spelling host port).Forall P := by
  intro k r hr
  rw [get?_add] at hr
  split at hr
  · next hk =>
    obtain rfl := Option.some.inj hr
    exact hk ▸ hP
  · exact h k r hr

/-- An update changes where a route leads, so a property that does not look at that is kept. -/
theorem Forall.update (h : t.Forall P) {spelling host : String} {port : UInt16}
    (hP : ∀ {k r}, P k r → P k { r with backendHost := host, backendPort := port }) :
    (t.update spelling host port).Forall P := by
  intro k r hr
  rw [get?_update] at hr
  split at hr
  · obtain ⟨r₀, hr₀, rfl⟩ := Option.map_eq_some_iff.mp hr
    exact hP (h k r₀ hr₀)
  · exact h k r hr

/-- A table is empty when nothing is found in it. -/
theorem isEmpty_iff : t.isEmpty = true ↔ ∀ k, t.get? k = none := by
  rw [isEmpty, Std.ExtTreeMap.isEmpty_iff, Std.ExtTreeMap.eq_empty_iff_forall_not_mem]
  simp only [get?, Std.ExtTreeMap.mem_iff_isSome_getElem?, Bool.not_eq_true,
    Option.isSome_eq_false_iff, Option.isNone_iff_eq_none]

theorem exists_of_isEmpty (h : t.isEmpty = false) : ∃ k r, t.get? k = some r := by
  rw [Bool.eq_false_iff, Ne, isEmpty_iff, Classical.not_forall] at h
  obtain ⟨k, hk⟩ := h
  exact ⟨k, Option.ne_none_iff_exists'.mp hk⟩

theorem isEmpty_add {owner spelling host : String} {port : UInt16} :
    (t.add owner spelling host port).isEmpty = false := by
  rw [Bool.eq_false_iff]
  intro h
  have hnone := isEmpty_iff.mp h (t.keyOf spelling)
  rw [get?_add, if_pos rfl] at hnone
  simp at hnone

/-- An owner without routes leaves a table as it is. -/
theorem removeOwner_eq_self {owner : String} (h : t.Forall fun _ r => r.owner ≠ owner) :
    t.removeOwner owner = t := by
  refine Table.ext rfl fun k => ?_
  rw [get?_removeOwner]
  cases hk : t.get? k with
  | none => rfl
  | some r => exact Option.filter_some_pos (by simpa using h k r hk)

end Route.Table

/-! ### Thinner tables -/

/-- A table is **thinned** to another one when it only loses routes. -/
structure Route.Table.Thins (t t' : Route.Table) : Prop where
  virtualHosts : t'.virtualHosts = t.virtualHosts
  kept : ∀ {key r}, t'.get? key = some r → t.get? key = some r

namespace Route.Table

variable {t t' : Route.Table}

theorem thins_refl : t.Thins t :=
  ⟨rfl, id⟩

theorem thins_clear : t.Thins t.clear where
  virtualHosts := rfl
  kept h := by simp at h

/-- A table without one of its routes is thinner. -/
theorem thins_remove {spelling : String} : t.Thins (t.remove spelling) where
  virtualHosts := rfl
  kept h := by
    rw [get?_remove] at h
    split at h
    · cases h
    · exact h

/-- So is one without the routes of an owner. -/
theorem thins_removeOwner {owner : String} : t.Thins (t.removeOwner owner) where
  virtualHosts := rfl
  kept h := by
    rw [get?_removeOwner] at h
    exact Option.eq_some_of_filter_eq_some h

/-- What all routes of a table have, all that are left have. -/
theorem Forall.thin {P : String → Route → Prop} (h : t.Forall P) (ht : t.Thins t') :
    t'.Forall P :=
  fun key r hr => h key r (ht.kept hr)

end Route.Table

/-! ### Lawful tables and entries -/

/-- A table is **lawful** on a port of a protocol: each route is active and under its own key, which
some spelling asks for, and on a port of modules it belongs to a module. -/
structure Route.Table.Lawful (protocol : Protocol) (origin : Origin) (t : Route.Table) : Prop where
  virtualHosts : t.virtualHosts = protocol.isVirtualHosted
  placed : t.Forall fun k r => r.key = k ∧ r.active = true ∧ ∃ spelling, t.keyOf spelling = k
  owners : origin = .module → t.Forall fun _ r => ∃ m : ModuleId, r.owner = m.toString

namespace Route.Table.Lawful

variable {protocol : Protocol} {origin : Origin} {t : Route.Table}

/-- A table that has just been made has no routes that could break the law. -/
theorem empty : (Route.Table.empty protocol.isVirtualHosted).Lawful protocol origin where
  virtualHosts := rfl
  placed := by intro k r h; simp at h
  owners := by intro _ k r h; simp at h

/-- A lawful table may lose routes. -/
theorem thin (h : t.Lawful protocol origin) {t' : Route.Table} (ht : t.Thins t') :
    t'.Lawful protocol origin where
  virtualHosts := ht.virtualHosts.trans h.virtualHosts
  placed key r hr := by
    obtain ⟨hkey, hactive, spelling, hspelling⟩ := h.placed key r (ht.kept hr)
    refine ⟨hkey, hactive, spelling, ?_⟩
    rwa [keyOf, ht.virtualHosts]
  owners hm := (h.owners hm).thin ht

/-- A route is added as an active one, under a key that can be asked for; on a port of modules its
owner has to be a module. -/
theorem add (h : t.Lawful protocol origin) {owner spelling host : String} {port : UInt16}
    (howner : origin = .module → ∃ m : ModuleId, owner = m.toString) :
    (t.add owner spelling host port).Lawful protocol origin where
  virtualHosts := h.virtualHosts
  placed := h.placed.add ⟨rfl, rfl, spelling, rfl⟩
  owners hm := (h.owners hm).add (howner hm)

/-- Updating a route changes neither its key nor its owner. -/
theorem update (h : t.Lawful protocol origin) {spelling host : String} {port : UInt16} :
    (t.update spelling host port).Lawful protocol origin where
  virtualHosts := h.virtualHosts
  placed := h.placed.update id
  owners hm := (h.owners hm).update id

/-- A table without virtual hosts has one key. -/
theorem eq_only (h : t.Lawful protocol origin) (hp : protocol.isVirtualHosted = false)
    {k : String} {r : Route} (hr : t.get? k = some r) : k = Route.Key.only := by
  obtain ⟨-, -, spelling, hk⟩ := h.placed k r hr
  rw [← hk, keyOf, h.virtualHosts, hp]
  rfl

/-- A table with virtual hosts has normalised keys. -/
theorem exists_normalize (h : t.Lawful protocol origin) (hp : protocol.isVirtualHosted = true)
    {k : String} {r : Route} (hr : t.get? k = some r) :
    ∃ spelling, Route.Key.normalize spelling = k := by
  obtain ⟨-, -, spelling, hk⟩ := h.placed k r hr
  refine ⟨spelling, ?_⟩
  rw [← hk, keyOf, h.virtualHosts, hp]
  rfl

/-- **A table without virtual hosts has at most one route.** -/
theorem size_le_one (h : t.Lawful protocol origin) (hp : protocol.isVirtualHosted = false) :
    t.size ≤ 1 := by
  have hkeys : ∀ k ∈ t.entries.keys, k = Route.Key.only := by
    intro k hk
    rw [Std.ExtTreeMap.mem_keys, Std.ExtTreeMap.mem_iff_isSome_getElem?] at hk
    obtain ⟨r, hr⟩ := Option.isSome_iff_exists.mp hk
    exact h.eq_only hp hr
  have hrep := List.eq_replicate_of_mem hkeys
  have hnodup : t.entries.keys.Nodup := Std.ExtTreeMap.nodup_keys
  rw [hrep, List.nodup_replicate] at hnodup
  rwa [Std.ExtTreeMap.length_keys] at hnodup

end Route.Table.Lawful

/-- An entry is **lawful** on a port: it runs on the port's address with a lawful table, and
forwards the game's protocol if it was opened for a listener. -/
structure Entry.Lawful (config : Gateway.Config) (port : UInt16) (e : Entry) : Prop where
  address : e.address = config.address port
  running : e.running = true
  table : e.routes.Lawful e.protocol e.origin
  listener : ∀ {id}, e.origin = .listener id → e.protocol = .minecraft

/-- An entry **as it is opened**: it runs and has no routes. -/
def Entry.opened (origin : Origin) (protocol : Protocol) (address : SocketAddress) : Entry :=
  { Forwarder.new protocol address with origin, running := true }

namespace Entry

variable {config : Gateway.Config} {port : UInt16} {e : Entry} {origin : Origin}
  {protocol : Protocol}

/-- A port is opened with nothing but its address and its protocol, which for a listener is the
game's. -/
theorem lawful_opened (h : ∀ id, origin = .listener id → protocol = .minecraft) :
    (opened origin protocol (config.address port)).Lawful config port where
  address := rfl
  running := rfl
  table := .empty
  listener := h _

/-- An entry may have any lawful table. -/
theorem Lawful.withRoutes (h : e.Lawful config port) {t : Route.Table}
    (ht : t.Lawful e.protocol e.origin) : { e with routes := t }.Lawful config port where
  address := h.address
  running := h.running
  table := ht
  listener := h.listener

/-- The socket of a lawful entry is on its own port. -/
theorem Lawful.port_eq (h : e.Lawful config port) : e.socket.port = port := by
  rw [Forwarder.socket, h.address]
  rfl

/-- An entry of a listener's port is not idle, whatever its routes. -/
theorem not_idle_of_listener {id : ListenerId} (h : e.origin = .listener id) :
    Ports.isIdle e = false := by
  simp [Ports.isIdle, h]

end Entry

/-! ### Lawful and busy ports -/

namespace Ports

variable {config : Gateway.Config} {machine : Machine} {p p' : Ports} {k port : UInt16}

/-- Ports are **lawful** when all entries are, and the sockets held are those of the entries. -/
structure Lawful (config : Gateway.Config) (p : Ports) : Prop where
  entry : ∀ {k e}, p.get? k = some e → e.Lawful config k
  held : ∀ {socket}, socket ∈ p.held ↔ ∃ e, p.get? socket.port = some e ∧ e.socket = socket

/-- Ports are **busy** when no module port is without a route. -/
def Busy (p : Ports) : Prop :=
  ∀ k e, p.get? k = some e → isIdle e = false

theorem lawful_empty : Lawful config {} where
  entry h := by simp [get?] at h
  held := by simp [get?]

theorem busy_empty : Busy {} := by
  intro k e h
  simp [get?] at h

/-- Ports are the same when their entries are and the same sockets are held. -/
theorem ext_get? (h : ∀ k, p.get? k = p'.get? k) (hheld : p.held = p'.held) : p = p' := by
  obtain ⟨entries, held⟩ := p
  obtain ⟨entries', held'⟩ := p'
  obtain rfl : entries = entries' := Std.ExtTreeMap.ext_getElem? h
  obtain rfl : held = held' := hheld
  rfl

theorem get?_eq_none_of_contains (h : p.contains port = false) : p.get? port = none := by
  rwa [contains, Option.isSome_eq_false_iff, Option.isNone_iff_eq_none] at h

/-! #### Binding -/

/-- A socket can be bound when the machine allows it and the gateway does not hold it. -/
theorem bindFault_eq_none_iff {socket : Socket} :
    p.bindFault machine socket = none ↔ machine.bindFault socket = none ∧ socket ∉ p.held := by
  unfold bindFault
  cases machine.bindFault socket <;> simp

/-- Where no port is open, only the machine can be in the way. -/
theorem Lawful.bindFault_eq (h : p.Lawful config) {socket : Socket}
    (hk : p.get? socket.port = none) : p.bindFault machine socket = machine.bindFault socket := by
  have hfree : socket ∉ p.held := by
    intro hmem
    obtain ⟨e, he, -⟩ := h.held.mp hmem
    rw [hk] at he
    cases he
  unfold bindFault
  cases machine.bindFault socket with
  | some cause => rfl
  | none => simp [hfree]

/-- What opening a port does, if nothing is in the way. -/
theorem openPort_eq {origin : Origin} {protocol : Protocol} {address : SocketAddress} :
    p.openPort machine origin protocol address =
      match p.bindFault machine ⟨protocol.transport, address.port⟩ with
      | some cause => .error (.bind address cause)
      | none => .ok {
          entries := p.entries.insert address.port (.opened origin protocol address)
          held := ⟨protocol.transport, address.port⟩ :: p.held } := by
  unfold openPort install Forwarder.start
  simp only [Forwarder.socket, Forwarder.new]
  cases p.bindFault machine ⟨protocol.transport, address.port⟩ <;> rfl

/-- Opening a port binds its socket and adds one entry, and does nothing else. -/
theorem openPort_eq_ok {origin : Origin} {protocol : Protocol} {address : SocketAddress}
    (h : p.openPort machine origin protocol address = .ok p') :
    p.bindFault machine ⟨protocol.transport, address.port⟩ = none ∧
      p'.held = ⟨protocol.transport, address.port⟩ :: p.held ∧
      ∀ k, p'.get? k =
        if address.port = k then some (.opened origin protocol address) else p.get? k := by
  rw [openPort_eq] at h
  split at h
  · cases h
  · next hb =>
    obtain rfl := Except.ok.inj h
    refine ⟨hb, rfl, fun k => ?_⟩
    simp only [get?, Std.ExtTreeMap.getElem?_insert, Std.LawfulEqCmp.compare_eq_iff_eq]

/-- What opening a port does, by the number of the port. -/
theorem openPort_address {origin : Origin} {protocol : Protocol} :
    p.openPort machine origin protocol (config.address port) =
      match p.bindFault machine ⟨protocol.transport, port⟩ with
      | some cause => .error (.bind (config.address port) cause)
      | none => .ok {
          entries := p.entries.insert port (.opened origin protocol (config.address port))
          held := ⟨protocol.transport, port⟩ :: p.held } :=
  openPort_eq

/-- Where the socket can be bound, the port is opened. -/
theorem exists_openPort {origin : Origin} {protocol : Protocol}
    (h : p.bindFault machine ⟨protocol.transport, port⟩ = none) :
    ∃ p', p.openPort machine origin protocol (config.address port) = .ok p' :=
  ⟨_, by rw [openPort_address, h]⟩

/-- The port that is opened has a new entry, and the others have theirs. -/
theorem get?_openPort {origin : Origin} {protocol : Protocol}
    (h : p.openPort machine origin protocol (config.address port) = .ok p') :
    p'.get? k =
      if port = k then some (.opened origin protocol (config.address port)) else p.get? k :=
  (openPort_eq_ok h).2.2 k

/-- **Opening a free port is lawful**, for modules with any protocol and for a listener with the
game's. -/
theorem Lawful.openPort (h : p.Lawful config) {origin : Origin} {protocol : Protocol}
    (hk : p.get? port = none) (hl : ∀ id, origin = .listener id → protocol = .minecraft)
    (hok : p.openPort machine origin protocol (config.address port) = .ok p') :
    p'.Lawful config := by
  obtain ⟨-, hheld, -⟩ := openPort_eq_ok hok
  constructor
  · intro k e he
    rw [get?_openPort hok] at he
    split at he
    · next hpk =>
      obtain rfl := Option.some.inj he
      exact hpk ▸ Entry.lawful_opened hl
    · exact h.entry he
  · intro socket
    rw [hheld, List.mem_cons, h.held, get?_openPort hok]
    by_cases hs : port = socket.port
    · -- the port had no entry before
      rw [if_pos hs, ← hs, hk]
      constructor
      · rintro (rfl | ⟨e, he, -⟩)
        · exact ⟨_, rfl, rfl⟩
        · cases he
      · rintro ⟨e, he, rfl⟩
        obtain rfl := Option.some.inj he
        exact .inl rfl
    · rw [if_neg hs]
      refine or_iff_right_of_imp ?_
      rintro rfl
      exact absurd rfl hs

/-! #### Changing routes -/

/-- The ports differ in **routes only**: those of an entry become what `f` says. -/
structure Rerouted (f : UInt16 → Entry → Route.Table) (p p' : Ports) : Prop where
  held : p'.held = p.held
  get? : ∀ k, p'.get? k = (p.get? k).map fun e => { e with routes := f k e }

/-- Changing all tables leaves everything else of the entries. -/
theorem rerouted_mapRoutes {f : Entry → Route.Table} :
    Rerouted (fun _ e => f e) p (p.mapRoutes f) :=
  ⟨rfl, fun _ => get?_mapRoutes⟩

/-- Changing the table of one port leaves everything else of all entries. -/
theorem rerouted_modifyRoutes {f : Route.Table → Route.Table} :
    Rerouted (fun k e => if port = k then f e.routes else e.routes) p (p.modifyRoutes port f) := by
  refine ⟨rfl, fun k => ?_⟩
  rw [get?_modifyRoutes]
  split
  · rfl
  · exact Option.map_id'.symm

variable {f : UInt16 → Entry → Route.Table}

/-- **Where routes change, the law is a matter of the new tables.** -/
theorem Lawful.reroute (h : p.Lawful config) (hr : Rerouted f p p')
    (hf : ∀ k e, p.get? k = some e → (f k e).Lawful e.protocol e.origin) : p'.Lawful config := by
  constructor
  · intro k e he
    rw [hr.get?] at he
    obtain ⟨e₀, he₀, rfl⟩ := Option.map_eq_some_iff.mp he
    exact (h.entry he₀).withRoutes (hf k e₀ he₀)
  · intro socket
    rw [hr.held, h.held, hr.get?]
    simp only [Option.map_eq_some_iff]
    constructor
    · rintro ⟨e, he, hs⟩
      exact ⟨_, ⟨e, he, rfl⟩, hs⟩
    · rintro ⟨_, ⟨e, he, rfl⟩, hs⟩
      exact ⟨e, he, hs⟩

/-- Lawful ports may lose routes. -/
theorem Lawful.thin (h : p.Lawful config) {f : Entry → Route.Table}
    (hf : ∀ e : Entry, e.routes.Thins (f e)) : (p.mapRoutes f).Lawful config :=
  h.reroute rerouted_mapRoutes fun _ e he => (h.entry he).table.thin (hf e)

/-- Ports stay busy when no table of modules becomes empty. -/
theorem Busy.reroute (h : p.Busy) (hr : Rerouted f p p')
    (hf : ∀ k e, p.get? k = some e → e.origin = .module → (f k e).isEmpty = true →
      e.routes.isEmpty = true) : p'.Busy := by
  intro k e he
  rw [hr.get?] at he
  obtain ⟨e₀, he₀, rfl⟩ := Option.map_eq_some_iff.mp he
  have hbusy := h k e₀ he₀
  simp only [isIdle, Bool.and_eq_false_iff, decide_eq_false_iff_not] at hbusy ⊢
  rcases hbusy with horigin | hroutes
  · exact .inl horigin
  · by_cases hm : e₀.origin = .module
    · refine .inr (Bool.eq_false_iff.mpr fun hempty => ?_)
      rw [hf k e₀ he₀ hm hempty] at hroutes
      cases hroutes
    · exact .inl hm

/-! #### Closing -/

/-- The sockets that are given up are those of the entries that are closed. -/
theorem releases_iff {closing : UInt16 → Entry → Bool} {socket : Socket} :
    p.releases closing socket = true ↔
      ∃ k e, p.get? k = some e ∧ closing k e = true ∧ e.running = true ∧ e.socket = socket := by
  simp only [releases, List.any_eq_true, Prod.exists,
    Std.ExtTreeMap.mem_toList_iff_getElem?_eq_some,
    Bool.and_eq_true, decide_eq_true_eq, and_assoc, get?]

/-- What is left are the entries that are not closed. -/
theorem get?_close_eq_some {closing : UInt16 → Entry → Bool} {e : Entry} :
    (p.close closing).get? k = some e ↔ p.get? k = some e ∧ closing k e = false := by
  simp [get?_close]

/-- **Giving up ports is lawful**: their sockets go with them, and no others. -/
theorem Lawful.close (h : p.Lawful config) {closing : UInt16 → Entry → Bool} :
    (p.close closing).Lawful config := by
  constructor
  · intro k e he
    exact h.entry (get?_close_eq_some.mp he).1
  · intro socket
    change socket ∈ p.held.filter _ ↔ _
    rw [List.mem_filter, h.held, Bool.not_eq_true']
    constructor
    · rintro ⟨⟨e, he, hs⟩, hrel⟩
      refine ⟨e, get?_close_eq_some.mpr ⟨he, Bool.eq_false_iff.mpr fun hc => ?_⟩, hs⟩
      rw [releases_iff.mpr ⟨_, e, he, hc, (h.entry he).running, hs⟩] at hrel
      cases hrel
    · rintro ⟨e, he, hs⟩
      obtain ⟨he, hc⟩ := get?_close_eq_some.mp he
      refine ⟨⟨e, he, hs⟩, Bool.eq_false_iff.mpr fun hrel => ?_⟩
      obtain ⟨k, e', he', hc', -, hs'⟩ := releases_iff.mp hrel
      -- an entry's socket is on its own port, so the two entries are one
      obtain rfl : k = socket.port := by rw [← hs', (h.entry he').port_eq]
      rw [he] at he'
      obtain rfl := Option.some.inj he'
      rw [hc] at hc'
      cases hc'

theorem Busy.close (h : p.Busy) {closing : UInt16 → Entry → Bool} : (p.close closing).Busy :=
  fun k e he => h k e (get?_close_eq_some.mp he).1

/-- **Evicting leaves busy ports.** -/
theorem busy_evict : p.evict.Busy :=
  fun _ _ he => (get?_close_eq_some.mp he).2

/-! #### The port of a listener -/

/-- The port of a listener has been opened for it. -/
theorem exists_of_portOf? {id : ListenerId} (h : p.portOf? id = some k) :
    ∃ e, p.get? k = some e ∧ e.origin = .listener id := by
  obtain ⟨⟨k', e⟩, hfind, rfl⟩ := Option.map_eq_some_iff.mp h
  have hmem := Std.ExtTreeMap.mem_toList_iff_getElem?_eq_some.mp (List.mem_of_find?_eq_some hfind)
  refine ⟨e, hmem, ?_⟩
  simpa using List.find?_some hfind

/-- The port of a listener depends on no more than which ports were opened for it. -/
theorem portOf?_congr {id : ListenerId}
    (h : ∀ k, (∃ e, p.get? k = some e ∧ e.origin = .listener id) ↔
      ∃ e, p'.get? k = some e ∧ e.origin = .listener id) : p.portOf? id = p'.portOf? id := by
  -- the ports that were opened for the listener, as a set
  let owned (p : Ports) : Std.ExtTreeMap UInt16 Unit :=
    (p.entries.filter fun _ e => e.origin = .listener id).map fun _ _ => ()
  have hfirst : ∀ p : Ports, p.portOf? id = (owned p).keys.head? := by
    intro p
    rw [Std.ExtTreeMap.keys_map, ← Std.ExtTreeMap.map_fst_toList_eq_keys,
      Std.ExtTreeMap.toList_filter, List.head?_map, List.head?_filter]
    rfl
  have howned : owned p = owned p' := by
    refine Std.ExtTreeMap.ext_getElem? fun k => Option.ext fun u => ?_
    have hk := h k
    simp only [get?] at hk
    simpa [owned, Option.map_eq_some_iff, Option.filter_eq_some_iff] using hk
  rw [hfirst, hfirst, howned]

end Ports

end GameGateway
