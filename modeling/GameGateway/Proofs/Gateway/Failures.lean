import GameGateway.Proofs.Gateway.Listeners

/-!
# Requests that fail

A **request** is a call to a gateway that may fail. One that does leaves no trace
(`untouched_of_error`): the ports with their routes, the sockets that are held and the records are
what they were. Most requests find out that they fail before they change anything. Adding a listener
does not, since its port is open before the store can refuse the record; but to close a port that
was opened just before restores the ports to the letter (`Ports.closePort_openPort`).

Only the disk may be another one, if writing to it was what failed. And for the routes of a module
all this is promised only while its container is looked up: if one of its ports cannot be opened,
those that come before it have been.
-/

namespace GameGateway

/-! ### Ports that are closed again -/

namespace Ports

variable {config : Gateway.Config} {machine : Machine} {p p' : Ports} {port : UInt16}
  {origin : Origin} {protocol : Protocol}

theorem get?_closePort_eq_some {k : UInt16} {e : Entry} :
    (p.closePort port).get? k = some e ↔ p.get? k = some e ∧ k ≠ port := by
  rw [closePort, get?_close_eq_some, decide_eq_false_iff_not]

/-- To close a port is to give up the socket of its entry, if that runs. -/
theorem releases_port {socket : Socket} :
    p.releases (fun other _ => other = port) socket = true ↔
      ∃ e, p.get? port = some e ∧ e.running = true ∧ e.socket = socket := by
  rw [releases_iff]
  constructor
  · rintro ⟨k, e, he, hk, hrunning, hsocket⟩
    exact ⟨e, of_decide_eq_true hk ▸ he, hrunning, hsocket⟩
  · rintro ⟨e, he, hrunning, hsocket⟩
    exact ⟨port, e, he, decide_eq_true rfl, hrunning, hsocket⟩

/-- Closing a port that is not open changes nothing. -/
theorem closePort_of_free (h : p.get? port = none) : p.closePort port = p := by
  refine ext_get? (fun k => Option.ext fun e => ?_) ?_
  · rw [get?_closePort_eq_some]
    refine and_iff_left_of_imp ?_
    rintro he rfl
    rw [h] at he
    cases he
  · refine List.filter_eq_self.mpr fun socket _ => ?_
    rw [Bool.not_eq_true', Bool.eq_false_iff, Ne, releases_port, h]
    rintro ⟨e, he, -⟩
    cases he

/-- **Closing a port restores what was there before it was opened**, down to the sockets. -/
theorem closePort_openPort (h : p.get? port = none)
    (hok : p.openPort machine origin protocol (config.address port) = .ok p') :
    p'.closePort port = p := by
  have hheld : p'.held = ⟨protocol.transport, port⟩ :: p.held := (openPort_eq_ok hok).2.1
  have hopened : p'.get? port = some (.opened origin protocol (config.address port)) := by
    rw [get?_openPort hok, if_pos rfl]
  refine ext_get? (fun k => Option.ext fun e => ?_) ?_
  · rw [get?_closePort_eq_some, get?_openPort hok]
    by_cases hk : port = k
    · simp [← hk, h]
    · rw [if_neg hk]
      exact and_iff_left_of_imp fun _ => Ne.symm hk
  · -- the socket that the port took is the only one that it gives up, and no one held it before
    have hreleases : ∀ socket, p'.releases (fun other _ => other = port) socket = true ↔
        ⟨protocol.transport, port⟩ = socket := by
      intro socket
      rw [releases_port, hopened]
      constructor
      · rintro ⟨e, he, -, hsocket⟩
        rw [← Option.some.inj he] at hsocket
        exact hsocket
      · exact fun hsocket => ⟨_, rfl, rfl, hsocket⟩
    change p'.held.filter _ = p.held
    rw [hheld, List.filter_cons_of_neg (by simpa using (hreleases _).mpr rfl), List.filter_eq_self]
    intro socket hmem
    rw [Bool.not_eq_true', Bool.eq_false_iff, Ne, hreleases]
    rintro rfl
    exact (bindFault_eq_none_iff.mp (openPort_eq_ok hok).1).2 hmem

end Ports

namespace Gateway

variable {config : Config} {machine : Machine} {g g' : Gateway} {cause : GatewayError}
  {l : Listener} {port : UInt16} {m : Module} {s : Server} {container network : String}
  {why : Container.AddressError}

/-! ### Requests -/

/-- A call that may fail. -/
inductive Request where
  | start
  | refresh
  | addListener (l : Listener)
  | removeListener (port : UInt16)
  | updateServer (s : Server)
  | addModule (m : Module) (s : Server)
  | updateModule (m : Module) (s : Server)

/-- The call that a request makes. -/
def Request.call : Request → Call
  | .start => .start
  | .refresh => .refresh
  | .addListener l => .addListener l
  | .removeListener port => .removeListener port
  | .updateServer s => .updateServer s
  | .addModule m s => .addModule m s
  | .updateModule m s => .updateModule m s

/-- Whether a request is for the routes of a module. -/
def Request.isOfModule : Request → Bool
  | .addModule _ _ | .updateModule _ _ => true
  | _ => false

/-- An outcome for which the records have to be read first; `fault` is why they cannot be. -/
def reading (fault : Option StoreError) (g : Gateway) (outcome : Outcome Unit) : Outcome Unit :=
  match fault with
  | some cause => (.error (.store cause), g)
  | none => outcome

/-- The outcome of a **request** to a gateway whose store may fail to be read. -/
def ask (machine : Machine) (fault : Option StoreError) (g : Gateway) : Request → Outcome Unit
  | .start => g.reading fault (.ok (), g.start machine)
  | .refresh => g.reading fault (.ok (), g.refresh machine)
  | .addListener l => g.addListener machine l
  | .removeListener port =>
    -- Whose port it is stands in the records only while it is not open.
    if g.ports.contains port then g.removeListener port
    else g.reading fault (g.removeListener port)
  | .updateServer s => g.updateServer machine s
  | .addModule m s => g.addModule machine m s
  | .updateModule m s => g.updateModule machine m s

/-- A request does what its call does when the store can be read. -/
theorem ask_none (r : Request) : (g.ask machine none r).2 = g.perform machine r.call := by
  cases r with
  | removeListener port => exact congrArg Prod.snd (ite_self (g.removeListener port))
  | _ => rfl

/-! ### What a failure leaves -/

/-- A gateway is **untouched** by a failure when its ports and records are what they were, and all
of it is unless the disk is what has failed. -/
structure Untouched (cause : GatewayError) (g g' : Gateway) : Prop where
  config : g'.config = g.config
  ports : g'.ports = g.ports
  panel : g'.panel = g.panel
  eq : (∀ path io, cause ≠ .store (.io path io)) → g' = g

theorem Untouched.refl : g.Untouched cause g :=
  ⟨rfl, rfl, rfl, fun _ => rfl⟩

/-- A gateway whose store is spared is untouched if its ports are. -/
theorem untouched_of_spared {cause : StoreError} {store : Store} {ports : Ports}
    (h : g.store.Spared cause store) (hports : ports = g.ports) :
    g.Untouched (.store cause) { g with store, ports } where
  config := rfl
  ports := hports
  panel := h.panel
  eq hother := by
    have hstore : store = g.store :=
      h.eq fun path io hio => hother path io (congrArg GatewayError.store hio)
    rw [hstore, hports]

theorem untouched_reading {fault : Option StoreError} {outcome : Outcome Unit}
    (h : (g.reading fault outcome).1 = .error cause)
    (houtcome : outcome.1 = .error cause → g.Untouched cause outcome.2) :
    g.Untouched cause (g.reading fault outcome).2 := by
  cases fault with
  | some fault => exact .refl
  | none => exact houtcome h

/-- A port that was opened for a new listener is closed again without a trace. -/
theorem closePort_openListener {ports : Ports}
    (hok : openListener config machine l g.ports = .ok ports) :
    ports.closePort l.port = g.ports := by
  unfold openListener at hok
  split at hok
  · cases hok
  · next hfree =>
    exact Ports.closePort_openPort
      (Ports.get?_eq_none_of_contains (Bool.eq_false_iff.mpr hfree)) hok

theorem untouched_addListener (h : (g.addListener machine l).1 = .error cause) :
    g.Untouched cause (g.addListener machine l).2 := by
  unfold addListener at h ⊢
  dsimp only at h ⊢
  split at h
  · exact .refl
  · next ports hopened =>
    have hclosed : ports.closePort l.port = g.ports := by
      split at hopened
      · cases hopened
      · next hfree =>
        split at hopened
        · exact closePort_openListener hopened
        · obtain rfl := Except.ok.inj hopened
          exact Ports.closePort_of_free
            (Ports.get?_eq_none_of_contains (Bool.eq_false_iff.mpr hfree))
    split at h
    · cases h
    · next hsave =>
      obtain rfl := Except.error.inj h
      exact untouched_of_spared (Store.spared_of_change_eq_error hsave) hclosed

theorem untouched_removeListener (h : (g.removeListener port).1 = .error cause) :
    g.Untouched cause (g.removeListener port).2 := by
  unfold removeListener at h ⊢
  split at h
  · exact .refl
  · split at h
    · cases h
    · cases h
    · next hdelete =>
      obtain rfl := Except.error.inj h
      exact untouched_of_spared (Store.spared_of_takeAway_eq_error hdelete) rfl

/-- A server whose route cannot be set keeps the one that it has. -/
theorem updateServer_eq_self (h : (g.updateServer machine s).1 = .error cause) :
    (g.updateServer machine s).2 = g := by
  unfold updateServer at h ⊢
  split at h
  · rfl
  · next plan hplan =>
    cases plan with
    | nothing => cases h
    | withdraw listener hostname => cases h
    | install listener hostname backendHost =>
      unfold carryOut at h ⊢
      dsimp only at h ⊢
      split at h
      · rfl
      · cases h

/-! ### The routes of modules -/

/-- Adding the route for a port of a module looks up no container. -/
theorem addModulePort_ne_unresolved {mp : ModulePort} {p : Ports} {backendHost : String} :
    addModulePort config machine m s backendHost mp p ≠
      .error (.unresolved container network why) := by
  unfold addModulePort
  split
  · exact nofun
  · next protocol _ =>
    split
    · next fault hfault =>
      intro heq
      obtain rfl := Except.error.inj heq
      unfold ensurePort at hfault
      split at hfault
      · split at hfault
        · cases hfault
        · cases hfault
      · rw [Ports.openPort_address] at hfault
        split at hfault
        · cases hfault
        · cases hfault
    · exact nofun

theorem addModulePorts_ne_unresolved {backendHost : String} (l : List ModulePort) (p : Ports) :
    (addModulePorts config machine m s backendHost l p).1 ≠
      .error (.unresolved container network why) := by
  induction l generalizing p with
  | nil => exact nofun
  | cons mp rest ih =>
    rw [addModulePorts]
    split
    · next fault hfault =>
      intro heq
      obtain rfl := Except.error.inj heq
      exact addModulePort_ne_unresolved hfault
    · exact ih _

/-- A module whose container has no address gets no routes. -/
theorem addModule_of_unresolved
    (h : (g.addModule machine m s).1 = .error (.unresolved container network why)) :
    (g.addModule machine m s).2 = g := by
  unfold addModule at h ⊢
  split
  · rfl
  · next c hc =>
    split
    · rfl
    · next backendHost hresolve =>
      rw [hc] at h
      simp only [hresolve] at h
      exact absurd h (addModulePorts_ne_unresolved _ _)

/-- A module whose container has no address keeps its routes. -/
theorem updateModule_of_unresolved
    (h : (g.updateModule machine m s).1 = .error (.unresolved container network why)) :
    (g.updateModule machine m s).2 = g := by
  unfold updateModule at h ⊢
  split
  · rfl
  · next backendHost hplan =>
    rw [hplan] at h
    cases backendHost with
    | none => cases h
    | some backendHost => exact absurd h (addModulePorts_ne_unresolved _ _)

/-! ### All requests -/

theorem untouched_of_eq (h : g' = g) : g.Untouched cause g' :=
  h ▸ .refl

/-- **A request that fails leaves no trace**, in any gateway on any machine: its ports, with their
routes and the sockets that are held, and the records of its store are what they were, and so is
everything else unless writing to the disk was what failed. For the routes of a module this is when
its container has no address. -/
theorem untouched_of_error (machine : Machine) (fault : Option StoreError) (g : Gateway)
    (r : Request) (cause : GatewayError) (h : (g.ask machine fault r).1 = .error cause)
    (hmodule : r.isOfModule = true → ∃ container network why,
      cause = .unresolved container network why) :
    (g.ask machine fault r).2.ports = g.ports ∧ (g.ask machine fault r).2.panel = g.panel ∧
      (g.ask machine fault r).2.config = g.config ∧
      ((∀ path io, cause ≠ .store (.io path io)) → (g.ask machine fault r).2 = g) := by
  have huntouched : g.Untouched cause (g.ask machine fault r).2 := by
    cases r with
    | start => exact untouched_reading h nofun
    | refresh => exact untouched_reading h nofun
    | addListener l => exact untouched_addListener h
    | removeListener port =>
      unfold ask at h ⊢
      dsimp only at h ⊢
      split
      · next hopen =>
        rw [if_pos hopen] at h
        exact untouched_removeListener h
      · next hopen =>
        rw [if_neg hopen] at h
        exact untouched_reading h untouched_removeListener
    | updateServer s => exact untouched_of_eq (updateServer_eq_self h)
    | addModule m s =>
      obtain ⟨container, network, why, rfl⟩ := hmodule rfl
      exact untouched_of_eq (addModule_of_unresolved h)
    | updateModule m s =>
      obtain ⟨container, network, why, rfl⟩ := hmodule rfl
      exact untouched_of_eq (updateModule_of_unresolved h)
  exact ⟨huntouched.ports, huntouched.panel, huntouched.config, huntouched.eq⟩

/-- The port of a listener that is not enabled is free, and opened for another one, whose record the
store then refuses. -/
theorem untouched_of_duplicatePort :
    let main : Listener := { id := ⟨.ofNat 1⟩, port := 25565, name := "main" }
    let spare : Listener := { id := ⟨.ofNat 2⟩, port := 25566, name := "spare", enabled := false }
    let other : Listener := { id := ⟨.ofNat 3⟩, port := 25566, name := "other" }
    let machine : Machine := { address := fun _ _ => .error .unknown, bindFault := fun _ => none }
    let g := (new {} (.ofPanel { version := 1, listeners := [main, spare] })).start machine
    let cause := GatewayError.store (.refused (.duplicatePort 25566 spare.id))
    ((openListener g.config machine other g.ports).toOption.map (·.numbers)) =
        some [25565, 25566] ∧
      (g.ask machine none (.addListener other)).1 = .error cause ∧
      (g.ask machine none (.addListener other)).2.ports.numbers = [25565] ∧
      (g.ask machine none (.addListener other)).2 = g := by
  intro main spare other machine g cause
  have herror : (g.ask machine none (.addListener other)).1 = .error cause := by rfl
  have hother : ∀ path io, cause ≠ .store (.io path io) := by simp [cause]
  have h := untouched_of_error machine none g (.addListener other) cause herror nofun
  exact ⟨by decide +kernel, herror, by decide +kernel, h.2.2.2 hother⟩

end Gateway

end GameGateway
