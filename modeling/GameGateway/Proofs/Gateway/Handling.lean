import GameGateway.Proofs.Gateway.Moves
import GameGateway.Proofs.Route.Mapping

/-!
# Forwarders that others handle

Whoever is given the forwarder of a port may start and stop it and change its routes behind the back
of the gateway. What is left of the law is that ports are **proper**: entries are at their own
addresses and of one kind with their tables, those of listeners forward the game's protocol, and no
socket is held but by a forwarder that runs on its port. Ports are so in every **history**, which is
a run in which forwarders are handled between the turns (`proper_live`).
-/

namespace GameGateway

/-- What others do with a forwarder that they **handle**. -/
inductive Handling where
  | start (machine : Machine)
  | stop
  | reroute (c : Route.Table.Change)

/-- An entry is **proper** on a port when it is at the port's address, with a table of its kind, and
forwards the game's protocol if it was opened for a listener. -/
structure Entry.Proper (config : Gateway.Config) (port : UInt16) (e : Entry) : Prop where
  address : e.address = config.address port
  virtualHosts : e.routes.virtualHosts = e.protocol.isVirtualHosted
  listener : ∀ {id}, e.origin = .listener id → e.protocol = .minecraft

namespace Entry

variable {config : Gateway.Config} {port : UInt16} {e : Entry}

/-- An entry is proper when it is opened, if listeners have the game's protocol. -/
theorem proper_opened {origin : Origin} {protocol : Protocol}
    (h : ∀ id, origin = .listener id → protocol = .minecraft) :
    (opened origin protocol (config.address port)).Proper config port where
  address := rfl
  virtualHosts := rfl
  listener := h _

theorem Proper.port_eq (h : e.Proper config port) : e.address.port = port := by
  rw [h.address]
  rfl

/-- The socket of a proper entry is told by its protocol and its port. -/
theorem Proper.socket_eq (h : e.Proper config port) : e.socket = ⟨e.protocol.transport, port⟩ := by
  rw [Forwarder.socket, h.port_eq]

end Entry

namespace Ports

variable {config : Gateway.Config} {opens : UInt16 → ListenerId → Prop} {machine : Machine}
  {p p' : Ports} {port : UInt16} {e : Entry}

/-- Ports are **proper** when all entries are, and each socket that is held is that of an entry that
runs. -/
structure Proper (config : Gateway.Config) (p : Ports) : Prop where
  entry : ∀ {k e}, p.get? k = some e → e.Proper config k
  held : ∀ {socket}, socket ∈ p.held →
    ∃ e, p.get? socket.port = some e ∧ e.running = true ∧ e.socket = socket

theorem proper_empty : Proper config {} where
  entry h := by simp [get?] at h
  held h := by simp at h

/-- Where no port is open, only the machine can be in the way. -/
theorem Proper.bindFault_eq (h : p.Proper config) {socket : Socket}
    (hk : p.get? socket.port = none) : p.bindFault machine socket = machine.bindFault socket := by
  have hfree : socket ∉ p.held := by
    intro hmem
    obtain ⟨e, he, -⟩ := h.held hmem
    rw [hk] at he
    cases he
  unfold bindFault
  cases machine.bindFault socket with
  | some cause => rfl
  | none => simp [hfree]

/-- Closing entries gives up the sockets of those that ran. -/
theorem Proper.close (h : p.Proper config) {closing : UInt16 → Entry → Bool} :
    (p.close closing).Proper config where
  entry he := h.entry (get?_close_eq_some.mp he).1
  held {socket} hmem := by
    obtain ⟨hheld, hkept⟩ := List.mem_filter.mp hmem
    obtain ⟨e, he, hrunning, hsocket⟩ := h.held hheld
    refine ⟨e, get?_close_eq_some.mpr ⟨he, Bool.eq_false_iff.mpr fun hclosing => ?_⟩, hrunning,
      hsocket⟩
    rw [releases_iff.mpr ⟨_, e, he, hclosing, hrunning, hsocket⟩] at hkept
    cases hkept

/-- Entries that are routed otherwise keep their sockets. -/
theorem Proper.reroute {f : UInt16 → Entry → Route.Table} (h : p.Proper config)
    (hr : Rerouted f p p')
    (hf : ∀ k e, p.get? k = some e → (f k e).virtualHosts = e.routes.virtualHosts) :
    p'.Proper config where
  entry {k e} he := by
    rw [hr.get?] at he
    obtain ⟨e₀, he₀, rfl⟩ := Option.map_eq_some_iff.mp he
    have hentry := h.entry he₀
    exact ⟨hentry.address, (hf k e₀ he₀).trans hentry.virtualHosts, hentry.listener⟩
  held {socket} hmem := by
    rw [hr.held] at hmem
    obtain ⟨e, he, hrunning, hsocket⟩ := h.held hmem
    exact ⟨{ e with routes := f socket.port e }, by rw [hr.get?, he]; rfl, hrunning, hsocket⟩

/-- A port that is opened comes with its socket, and takes none from others. -/
theorem Proper.openPort {origin : Origin} {protocol : Protocol} (h : p.Proper config)
    (hfree : p.get? port = none) (hl : ∀ id, origin = .listener id → protocol = .minecraft)
    (hok : p.openPort machine origin protocol (config.address port) = .ok p') :
    p'.Proper config where
  entry {k e} he := by
    rw [get?_openPort hok] at he
    split at he
    · next hk =>
      obtain rfl := Option.some.inj he
      exact hk ▸ Entry.proper_opened hl
    · exact h.entry he
  held {socket} hmem := by
    rw [(openPort_eq_ok hok).2.1] at hmem
    rcases List.mem_cons.mp hmem with rfl | hmem
    · refine ⟨.opened origin protocol (config.address port), ?_, rfl, rfl⟩
      rw [get?_openPort hok]
      exact if_pos rfl
    · obtain ⟨e, he, hrunning, hsocket⟩ := h.held hmem
      refine ⟨e, ?_, hrunning, hsocket⟩
      rw [get?_openPort hok, if_neg, he]
      rintro rfl
      rw [hfree] at he
      cases he

/-- **Each move of a gateway leaves its ports proper.** -/
theorem Move.proper (h : Move config opens p p') (hp : p.Proper config) : p'.Proper config := by
  cases h with
  | close closing => exact hp.close
  | reroute hr hf => exact hp.reroute hr hf
  | openListener _ hfree hok => exact hp.openPort hfree (fun _ _ => rfl) hok
  | openModule hfree hok => exact hp.openPort hfree (by rintro _ ⟨⟩) hok

/-- **Moves keep ports proper.** -/
theorem Moves.proper (h : p.Moves config opens p') (hp : p.Proper config) : p'.Proper config := by
  induction h with
  | refl => exact hp
  | tail _ hmove ih => exact hmove.proper ih

/-! ### Handling a forwarder -/

/-- The ports behind **handling** the forwarder of an entry. -/
def handle (p : Ports) (e : Entry) : Handling → Ports
  | .start machine =>
    match p.install machine e with
    | .ok p' => p'
    | .error _ => p
  | .stop => p.pause e
  | .reroute c => p.modifyRoutes e.address.port fun t => t.apply c

/-- A proper entry that is put back changes its own port only. -/
theorem get?_insert {e' : Entry} {held : List Socket} {k : UInt16} (hentry : e.Proper config port) :
    get? ⟨p.entries.insert e.address.port e', held⟩ k =
      if port = k then some e' else p.get? k := by
  simp only [get?, hentry.port_eq, Std.ExtTreeMap.getElem?_insert,
    Std.LawfulEqCmp.compare_eq_iff_eq]

/-- Entries stay proper when one runs that did not, or the other way round. -/
theorem Proper.entry_insert {e' : Entry} {running : Bool} {k : UInt16} (h : p.Proper config)
    (he : p.get? port = some e)
    (hk : (if port = k then some { e with running } else p.get? k) = some e') :
    e'.Proper config k := by
  have hentry := h.entry he
  split at hk
  · next hport =>
    obtain rfl := Option.some.inj hk
    exact hport ▸ ⟨hentry.address, hentry.virtualHosts, hentry.listener⟩
  · exact h.entry hk

/-- An entry that stops gives up its socket and no other one. -/
theorem Proper.pause (h : p.Proper config) (he : p.get? port = some e) :
    (p.pause e).Proper config := by
  have hget : ∀ k, (p.pause e).get? k =
      if port = k then some { e with running := false } else p.get? k :=
    fun _ => get?_insert (h.entry he)
  constructor
  · intro k e' he'
    exact h.entry_insert he (hget k ▸ he')
  · intro socket hmem
    have hheld : socket ∈ p.held ∧ (e.running = true → socket ≠ e.socket) := by
      unfold Ports.pause at hmem
      split at hmem
      · obtain ⟨hheld, hne⟩ := List.mem_filter.mp hmem
        exact ⟨hheld, fun _ => of_decide_eq_true hne⟩
      · next hrunning => exact ⟨hmem, fun h => absurd h hrunning⟩
    obtain ⟨e', he', hrunning, hsocket⟩ := h.held hheld.1
    refine ⟨e', ?_, hrunning, hsocket⟩
    rw [hget, if_neg, he']
    -- the socket of the entry itself is given up
    rintro rfl
    obtain rfl := Option.some.inj (he.symm.trans he')
    exact hheld.2 hrunning hsocket.symm

/-- An entry that starts gets the socket of its address. -/
theorem Proper.install (h : p.Proper config) (he : p.get? port = some e)
    (hok : p.install machine e = .ok p') : p'.Proper config := by
  have hentry := h.entry he
  unfold Ports.install at hok
  split at hok
  · cases hok
  · next f hstart =>
    obtain rfl := Except.ok.inj hok
    obtain ⟨hstopped, rfl⟩ : e.running = false ∧ f = { e.toForwarder with running := true } := by
      unfold Forwarder.start at hstart
      split at hstart
      · cases hstart
      · next hrunning =>
        split at hstart
        · cases hstart
        · exact ⟨Bool.eq_false_iff.mpr hrunning, (Except.ok.inj hstart).symm⟩
    have hget : ∀ k, Ports.get? ⟨p.entries.insert e.address.port { e with running := true },
        e.socket :: p.held⟩ k = if port = k then some { e with running := true } else p.get? k :=
      fun _ => get?_insert hentry
    constructor
    · intro k e' he'
      exact h.entry_insert he (hget k ▸ he')
    · intro socket hmem
      rw [hget]
      rcases List.mem_cons.mp hmem with rfl | hmem
      · exact ⟨_, if_pos (by rw [hentry.socket_eq]), rfl, rfl⟩
      · obtain ⟨e', he', hrunning, hsocket⟩ := h.held hmem
        refine ⟨e', ?_, hrunning, hsocket⟩
        rw [if_neg, he']
        rintro rfl
        obtain rfl := Option.some.inj (he.symm.trans he')
        rw [hstopped] at hrunning
        cases hrunning

/-- **Handling a forwarder keeps ports proper.** -/
theorem Proper.handle (h : p.Proper config) (he : p.get? port = some e) (handling : Handling) :
    (p.handle e handling).Proper config := by
  cases handling with
  | start machine =>
    unfold Ports.handle
    dsimp only
    split
    · next hok => exact h.install he hok
    · exact h
  | stop => exact h.pause he
  | reroute c =>
    have hmoves : p.Moves config (fun _ _ => False) (p.handle e (.reroute c)) :=
      moves_modifyRoutes fun _ => Route.Table.virtualHosts_apply
    exact hmoves.proper h

end Ports

/-! ### Histories -/

namespace Gateway

variable {machine : Machine} {opens : UInt16 → ListenerId → Prop} {g : Gateway}

/-- An **act** of a history: a turn of the gateway, or the handling of the forwarder of a port. -/
inductive Act where
  | turn (turn : Turn)
  | handle (port : UInt16) (handling : Handling)

/-- The gateway behind an act. -/
def act (g : Gateway) : Act → Gateway
  | .turn turn => g.take turn
  | .handle port handling =>
    match g.ports.get? port with
    | none => g
    | some e => { g with ports := g.ports.handle e handling }

/-- The gateway behind a **history**. -/
def live (g : Gateway) (acts : List Act) : Gateway :=
  acts.foldl act g

/-- **Every turn moves the gateway.** -/
theorem moves_take (turn : Turn) : g.Moves (fun _ _ => True) (g.take turn) := by
  cases turn with
  | store s => exact ⟨rfl, .refl⟩
  | call machine c =>
    cases c with
    | start => exact moves_start fun _ _ => trivial
    | stop => exact moves_stop
    | refresh => exact moves_refresh fun _ _ => trivial
    | addListener l => exact moves_addListener trivial
    | removeListener port => exact moves_removeListener
    | updateServer s => exact moves_updateServer
    | removeServer id => exact moves_removeServer
    | removeHostname hostname listener => exact moves_removeHostname
    | addModule m s => exact moves_addModule
    | updateModule m s => exact moves_updateModule
    | removeModule id => exact moves_removeModule
    | event e => exact moves_applyEvent e fun _ _ _ _ _ => trivial

/-- **Every act keeps ports proper.** -/
theorem proper_act (h : g.ports.Proper g.config) (a : Act) :
    (g.act a).config = g.config ∧ (g.act a).ports.Proper g.config := by
  cases a with
  | turn turn =>
    obtain ⟨hconfig, hmoves⟩ := moves_take (g := g) turn
    exact ⟨hconfig, hmoves.proper h⟩
  | handle port handling =>
    unfold act
    dsimp only
    split
    · exact ⟨rfl, h⟩
    · next e he => exact ⟨rfl, h.handle he handling⟩

/-- **Ports are proper in every history.** -/
theorem proper_live (config : Config) (store : Store) (acts : List Act) :
    ((new config store).live acts).config = config ∧
      ((new config store).live acts).ports.Proper config := by
  have hlive : ∀ (acts : List Act) (g : Gateway), g.ports.Proper g.config →
      (g.live acts).config = g.config ∧ (g.live acts).ports.Proper g.config := by
    intro acts
    induction acts with
    | nil => exact fun g h => ⟨rfl, h⟩
    | cons a rest ih =>
      intro g h
      obtain ⟨hconfig, hproper⟩ := proper_act h a
      have hrest := ih (g.act a) (hconfig ▸ hproper)
      rwa [hconfig] at hrest
  exact hlive acts _ Ports.proper_empty

end Gateway

end GameGateway
