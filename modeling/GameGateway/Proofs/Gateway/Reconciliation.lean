import GameGateway.Proofs.Gateway.Growth
import GameGateway.Proofs.Gateway.Run

/-!
# What a refresh depends on

A refresh is meant to yield what a new gateway would have, whatever the ports were before. It keeps
the ports that are open, though, and only clears their routes. A kept port stands in the way where
the records now want it for another protocol, or for a listener and no longer for modules, since
idle ports are given up at the very end; and it stays open where it could not be bound anew. These
are the only differences: a gateway that **fits** its records is brought to what a new one would
have (`Fits.entries_eq`), and to the same by a second refresh.

The proof follows a refresh of the gateway and one of a new gateway side by side. The ports of the
two are **alike** in every step: an entry is the same in both, or is one of those kept that nothing
has called for.
-/

namespace GameGateway

/-- A lawful entry without routes is as it was opened. -/
theorem Entry.Lawful.eq_opened {config : Gateway.Config} {port : UInt16} {e : Entry}
    (h : e.Lawful config port) (hempty : e.routes.isEmpty = true) :
    e = .opened e.origin e.protocol (config.address port) := by
  have hroutes : e.routes = .empty e.protocol.isVirtualHosted := by
    refine Route.Table.ext h.table.virtualHosts fun k => ?_
    rw [Route.Table.isEmpty_iff.mp hempty k, Route.Table.get?_empty]
  obtain ⟨⟨address, protocol, routes, running⟩, origin⟩ := e
  obtain rfl : address = config.address port := h.address
  obtain rfl : running = true := h.running
  obtain rfl : routes = .empty protocol.isVirtualHosted := hroutes
  rfl

/-- A lawful entry is determined by what its port shows to the outside. -/
theorem Entry.Lawful.eq_of_view {config : Gateway.Config} {port : UInt16} {e e' : Entry}
    (h : e.Lawful config port) (h' : e'.Lawful config port) (hprotocol : e.protocol = e'.protocol)
    (horigin : e.origin = e'.origin) (hroutes : e.routes = e'.routes) : e = e' := by
  have haddress := h.address.trans h'.address.symm
  have hrunning := h.running.trans h'.running.symm
  obtain ⟨⟨address, protocol, routes, running⟩, origin⟩ := e
  obtain ⟨⟨address', protocol', routes', running'⟩, origin'⟩ := e'
  dsimp only at hprotocol horigin hroutes haddress hrunning
  rw [hprotocol, horigin, hroutes, haddress, hrunning]

namespace Ports

variable {config : Gateway.Config} {machine : Machine} {kept last last' p p' q q' : Ports}
  {port k : UInt16} {e : Entry} {origin : Origin} {protocol : Protocol}

/-! ### Ports that are alike -/

/-- Ports that were built on kept ones are **alike** others that were built anew when an entry is
the same in both, or one of those kept that is not called for in the others. -/
structure Alike (config : Gateway.Config) (kept p q : Ports) : Prop where
  left : p.Lawful config
  right : q.Lawful config
  get? : ∀ k, p.get? k = q.get? k ∨
    ∃ e, kept.get? k = some e ∧ p.get? k = some e ∧ q.get? k = none

/-- Kept ports **refit** the outcomes of the two refreshes when those that the outcome of the other
one has are there for the same purpose, and all that stay could be bound anew. -/
structure Refit (config : Gateway.Config) (machine : Machine) (kept last last' : Ports) : Prop where
  lawful : kept.Lawful config
  cleared : ∀ k e, kept.get? k = some e → e.routes.isEmpty = true
  purpose : ∀ k e e', kept.get? k = some e → last'.get? k = some e' →
    e'.protocol = e.protocol ∧ e'.origin = e.origin
  bindable : ∀ k e e', kept.get? k = some e → last.get? k = some e' → isIdle e' = false →
    machine.bindFault e'.socket = none

/-- The ports that were opened for modules. -/
def ofModules (p : Ports) : Ports :=
  p.close fun _ e => e.origin ≠ .module

theorem get?_ofModules_eq_some :
    p.ofModules.get? k = some e ↔ p.get? k = some e ∧ e.origin = .module := by
  rw [ofModules, get?_close_eq_some, decide_eq_false_iff_not, Classical.not_not]

/-- Of kept ports that refit, those that were opened for modules do, too. -/
theorem Refit.ofModules (h : Refit config machine kept last last') :
    Refit config machine kept.ofModules last last' where
  lawful := h.lawful.close
  cleared k e he := h.cleared k e (get?_ofModules_eq_some.mp he).1
  purpose k e e' he := h.purpose k e e' (get?_ofModules_eq_some.mp he).1
  bindable k e e' he := h.bindable k e e' (get?_ofModules_eq_some.mp he).1

/-- A step **respects** the likeness of ports from which the outcomes may yet grow. -/
def Respects (config : Gateway.Config) (machine : Machine) (kept last last' : Ports)
    (f : Ports → Ports) : Prop :=
  ∀ p q, Alike config kept p q → (f p).Grows machine last → (f q).Grows machine last' →
    Alike config kept (f p) (f q)

/-- Steps that respect the likeness do so one after the other, as long as the outcomes can grow from
what they yield. -/
theorem Respects.comp {f g : Ports → Ports} (hg : Respects config machine kept last last' g)
    (hf : Respects config machine kept last last' f)
    (hbuilds : ∀ p : Ports, Builds config machine p (g p)) :
    Respects config machine kept last last' fun p => g (f p) :=
  fun p q h hp hq =>
    hg _ _ (hf p q h ((hbuilds _).grows.trans hp) ((hbuilds _).grows.trans hq)) hp hq

/-- Many steps that respect the likeness do so together. -/
theorem respects_foldl {α : Type} {f : Ports → α → Ports}
    (hf : ∀ a, Respects config machine kept last last' fun p => f p a)
    (hbuilds : ∀ (p : Ports) (a : α), Builds config machine p (f p a)) :
    ∀ l : List α, Respects config machine kept last last' fun p => l.foldl f p
  | [], _, _, h, _, _ => h
  | a :: l, p, q, h, hp, hq => by
    refine respects_foldl hf hbuilds l (f p a) (f q a) ?_ hp hq
    have hrest : ∀ p : Ports, (f p a).Grows machine (l.foldl f (f p a)) :=
      fun p => (builds_foldl hbuilds l (f p a)).grows
    exact hf a p q h ((hrest p).trans hp) ((hrest q).trans hq)

/-- Where nothing is kept, nothing can be left that is not called for. -/
theorem refit_empty : Refit config machine {} last last' := by
  have hnone : ∀ k e, Ports.get? {} k ≠ some e := fun k e => by simp [Ports.get?]
  exact ⟨lawful_empty, fun k e he => absurd he (hnone k e), fun k e _ he => absurd he (hnone k e),
    fun k e _ he => absurd he (hnone k e)⟩

/-- A step that respects the likeness of ports goes by their entries alone. -/
theorem Respects.get?_congr {f : Ports → Ports}
    (hf : ∀ last last', Respects config machine {} last last' f) (hp : p.Lawful config)
    (hq : q.Lawful config) (h : ∀ k, p.get? k = q.get? k) (k : UInt16) :
    (f p).get? k = (f q).get? k := by
  have halike : Alike config {} (f p) (f q) :=
    hf (f p) (f q) p q ⟨hp, hq, fun k => .inl (h k)⟩ .refl .refl
  rcases halike.get? k with heq | ⟨e, he, -⟩
  · exact heq
  · simp [Ports.get?] at he

/-- Changing routes in the same way keeps ports alike where they are the same. -/
theorem Alike.modifyRoutes (h : Alike config kept p q) (hport : p.get? port = q.get? port)
    {f : Route.Table → Route.Table} (hp : (p.modifyRoutes port f).Lawful config)
    (hq : (q.modifyRoutes port f).Lawful config) :
    Alike config kept (p.modifyRoutes port f) (q.modifyRoutes port f) where
  left := hp
  right := hq
  get? k := by
    rw [get?_modifyRoutes, get?_modifyRoutes]
    split
    · next hk =>
      rw [← hk, hport]
      exact .inl rfl
    · exact h.get? k

/-- A port that neither has yet is opened in both or in none. -/
theorem Alike.openPort (h : Alike config kept p q) (machine : Machine) (origin : Origin)
    (protocol : Protocol) (hp : p.get? port = none) (hq : q.get? port = none)
    (hl : ∀ id, origin = .listener id → protocol = .minecraft) :
    (∃ p' q', p.openPort machine origin protocol (config.address port) = .ok p' ∧
      q.openPort machine origin protocol (config.address port) = .ok q' ∧
      Alike config kept p' q') ∨
    ∃ cause, p.openPort machine origin protocol (config.address port) = .error cause ∧
      q.openPort machine origin protocol (config.address port) = .error cause := by
  have hfault : p.bindFault machine ⟨protocol.transport, port⟩ =
      q.bindFault machine ⟨protocol.transport, port⟩ :=
    (h.left.bindFault_eq hp).trans (h.right.bindFault_eq hq).symm
  cases hb : p.bindFault machine ⟨protocol.transport, port⟩ with
  | some cause =>
    refine .inr ⟨.bind (config.address port) cause, ?_, ?_⟩
    · rw [openPort_address, hb]
    · rw [openPort_address, ← hfault, hb]
  | none =>
    obtain ⟨p', hpo⟩ : ∃ p', p.openPort machine origin protocol (config.address port) = .ok p' :=
      exists_openPort hb
    obtain ⟨q', hqo⟩ : ∃ q', q.openPort machine origin protocol (config.address port) = .ok q' :=
      exists_openPort (hfault ▸ hb)
    refine .inl ⟨p', q', hpo, hqo, h.left.openPort hp hl hpo, h.right.openPort hq hl hqo,
      fun k => ?_⟩
    rw [get?_openPort hpo, get?_openPort hqo]
    split
    · exact .inl rfl
    · exact h.get? k

/-- A kept port is as it would be if it were opened anew. -/
theorem Refit.eq_opened (h : Refit config machine kept last last') (he : kept.get? port = some e)
    (hok : q.openPort machine origin protocol (config.address port) = .ok q')
    (hgrows : q'.Grows machine last') : e = .opened origin protocol (config.address port) := by
  have hopened : q'.get? port = some (.opened origin protocol (config.address port)) := by
    rw [get?_openPort hok, if_pos rfl]
  obtain ⟨e', he', hc⟩ := hgrows.kept port _ hopened
  obtain ⟨hprotocol, horigin⟩ := h.purpose port e e' he he'
  rw [(h.lawful.entry he).eq_opened (h.cleared port e he), ← horigin, ← hprotocol, hc.origin,
    hc.protocol]
  rfl

/-- When the other ports open one that was kept, it is the same in both from then on. -/
theorem Alike.openPort_right (h : Alike config kept p q)
    (hrefit : Refit config machine kept last last') (hp : p.get? port = some e)
    (he : kept.get? port = some e) (hq : q.get? port = none)
    (hl : ∀ id, origin = .listener id → protocol = .minecraft)
    (hok : q.openPort machine origin protocol (config.address port) = .ok q')
    (hgrows : q'.Grows machine last') : Alike config kept p q' where
  left := h.left
  right := h.right.openPort hq hl hok
  get? k := by
    rw [get?_openPort hok]
    split
    · next hk =>
      rw [← hk, hp, hrefit.eq_opened he hok hgrows]
      exact .inl rfl
    · exact h.get? k

/-- The listeners of alike ports are on the same ports, if those kept are all of modules. -/
theorem Alike.portOf?_eq (h : Alike config kept p q)
    (hmodule : ∀ k e, kept.get? k = some e → e.origin = .module) : p.portOf? = q.portOf? := by
  funext id
  refine portOf?_congr fun k => ?_
  rcases h.get? k with heq | ⟨e, hkept, hp, hq⟩
  · rw [heq]
  · rw [hp, hq]
    constructor
    · rintro ⟨e', he', hid⟩
      obtain rfl := Option.some.inj he'
      rw [hmodule k e hkept] at hid
      cases hid
    · rintro ⟨e', he', -⟩
      cases he'

end Ports

namespace Gateway

open Ports (Alike Refit Respects)

variable {config : Config} {machine : Machine} {kept last last' p p' q q' : Ports}

/-! ### Each step of a refresh -/

/-- A listener is opened where its port is free and can be bound; otherwise nothing happens. -/
theorem tryListener_eq {l : Listener} :
    tryListener config machine p l =
      match p.get? l.port with
      | some _ => p
      | none =>
        match p.openPort machine (.listener l.id) .minecraft (config.address l.port) with
        | .ok p' => p'
        | .error _ => p := by
  unfold tryListener openListener Ports.contains
  cases p.get? l.port with
  | some e => rfl
  | none => rfl

/-- Opening a listener respects the likeness: a port that is kept for something else in its place
would not refit. -/
theorem respects_tryListener (hrefit : Refit config machine kept last last') (l : Listener) :
    Respects config machine kept last last' fun p => tryListener config machine p l := by
  intro p q h hp hq
  rcases h.get? l.port with heq | ⟨e, hkept, hpe, hqe⟩
  · cases hk : q.get? l.port with
    | some e => simpa only [tryListener_eq, heq, hk] using h
    | none =>
      rcases h.openPort machine (.listener l.id) .minecraft (heq.trans hk) hk
        (fun _ _ => rfl) with ⟨p', q', hpo, hqo, h'⟩ | ⟨cause, hpo, hqo⟩
      · simpa only [tryListener_eq, heq, hk, hpo, hqo] using h'
      · simpa only [tryListener_eq, heq, hk, hpo, hqo] using h
  · simp only [tryListener_eq, hpe, hqe] at hq ⊢
    split at hq
    · next q' hqo => exact h.openPort_right hrefit hpe hkept hqe (fun _ _ => rfl) hqo hq
    · exact h

/-- The route of a server goes on a listener's port, which is the same on both sides. -/
theorem respects_restoreServer (hmodule : ∀ k e, kept.get? k = some e → e.origin = .module)
    (s : Server) : Respects config machine kept last last' (restoreServer config machine s) := by
  intro p q h _ _
  unfold restoreServer
  rw [h.portOf?_eq hmodule]
  split
  · next port container hport _ =>
    obtain ⟨id, -, hid⟩ := Option.bind_eq_some_iff.mp hport
    split
    · exact h
    · have heq : p.get? port = q.get? port := by
        obtain ⟨e, he, -⟩ := Ports.exists_of_portOf? hid
        rcases h.get? port with heq | ⟨-, -, -, hnone⟩
        · exact heq
        · rw [he] at hnone
          cases hnone
      have hidp : p.portOf? id = some port := by rw [h.portOf?_eq hmodule, hid]
      exact h.modifyRoutes heq
        (Ports.keeps_modifyRoutes_listener hidp (fun ht => ht.add nofun) h.left).1
        (Ports.keeps_modifyRoutes_listener hid (fun ht => ht.add nofun) h.right).1
  · exact h

/-- Making sure of a port goes the same way on both sides, but that a kept port may serve where none
can be opened anew. -/
theorem alike_ensurePort (hrefit : Refit config machine kept last last')
    (h : Alike config kept p q) {port : UInt16} {protocol : Protocol}
    (hq : ∀ q', ensurePort config machine port protocol q = .ok q' → q'.Grows machine last') :
    (∃ p' q', ensurePort config machine port protocol p = .ok p' ∧
      ensurePort config machine port protocol q = .ok q' ∧ Alike config kept p' q' ∧
      p'.get? port = q'.get? port) ∨
    (∃ cause cause', ensurePort config machine port protocol p = .error cause ∧
      ensurePort config machine port protocol q = .error cause') ∨
    ∃ e cause, ensurePort config machine port protocol p = .ok p ∧
      ensurePort config machine port protocol q = .error cause ∧ kept.get? port = some e ∧
      p.get? port = some e ∧ machine.bindFault e.socket ≠ none := by
  unfold ensurePort at hq ⊢
  rcases h.get? port with heq | ⟨e, hkept, hpe, hqe⟩
  · rw [heq]
    cases hk : q.get? port with
    | some e =>
      dsimp only
      split
      · exact .inl ⟨p, q, rfl, rfl, h, heq⟩
      · exact .inr (.inl ⟨_, _, rfl, rfl⟩)
    | none =>
      rcases h.openPort machine .module protocol (heq.trans hk) hk (by rintro _ ⟨⟩) with
        ⟨p', q', hpo, hqo, h'⟩ | ⟨cause, hpo, hqo⟩
      · refine .inl ⟨p', q', hpo, hqo, h', ?_⟩
        rw [Ports.get?_openPort hpo, Ports.get?_openPort hqo, if_pos rfl, if_pos rfl]
      · exact .inr (.inl ⟨cause, cause, hpo, hqo⟩)
  · rw [hqe] at hq
    rw [hpe, hqe]
    dsimp only at hq ⊢
    cases hqo : q.openPort machine .module protocol (config.address port) with
    | ok q' =>
      have he := hrefit.eq_opened hkept hqo (hq q' hqo)
      have hprotocol : e.protocol = protocol := by rw [he]; rfl
      refine .inl ⟨p, q', if_pos hprotocol, rfl,
        h.openPort_right hrefit hpe hkept hqe (by rintro _ ⟨⟩) hqo (hq q' hqo), ?_⟩
      rw [hpe, Ports.get?_openPort hqo, if_pos rfl, he]
    | error cause =>
      by_cases hprotocol : e.protocol = protocol
      · refine .inr (.inr ⟨e, cause, if_pos hprotocol, rfl, hkept, rfl, fun hfree => ?_⟩)
        have hsocket : e.socket = ⟨protocol.transport, port⟩ := by
          rw [Forwarder.socket, hprotocol, (hrefit.lawful.entry hkept).address]
          rfl
        rw [hsocket] at hfree
        rw [Ports.openPort_address, h.right.bindFault_eq hqe, hfree] at hqo
        cases hqo
      · exact .inr (.inl ⟨_, cause, if_neg hprotocol, rfl⟩)

section ModulePort

variable {m : Module} {server : Server} {backendHost : String} {mp : ModulePort}
  {protocol : Protocol}

/-- Where its port is there, or can be had, a module gets its route. -/
theorem addModulePort_eq_ok (m : Module) (server : Server) (backendHost : String)
    (hprotocol : mp.protocol? = some protocol)
    (hok : ensurePort config machine mp.listenPort protocol p = .ok p') :
    addModulePort config machine m server backendHost mp p =
      .ok (p'.modifyRoutes mp.listenPort fun t =>
        t.add m.id.toString (moduleKey config server mp protocol) backendHost mp.backendPort) := by
  simp only [addModulePort, hprotocol, hok]

theorem addModulePort_eq_error {cause : GatewayError} (hprotocol : mp.protocol? = some protocol)
    (herror : ensurePort config machine mp.listenPort protocol p = .error cause) :
    addModulePort config machine m server backendHost mp p = .error cause := by
  simp only [addModulePort, hprotocol, herror]

/-- A port of a module is added on both sides or on none. -/
theorem alike_addModulePort (hrefit : Refit config machine kept last last')
    (h : Alike config kept p q)
    (hp : ∀ p', addModulePort config machine m server backendHost mp p = .ok p' →
      p'.Grows machine last)
    (hq : ∀ q', addModulePort config machine m server backendHost mp q = .ok q' →
      q'.Grows machine last') :
    (∃ p' q', addModulePort config machine m server backendHost mp p = .ok p' ∧
      addModulePort config machine m server backendHost mp q = .ok q' ∧
      Alike config kept p' q') ∨
    ∃ cause cause', addModulePort config machine m server backendHost mp p = .error cause ∧
      addModulePort config machine m server backendHost mp q = .error cause' := by
  cases hprotocol : mp.protocol? with
  | none =>
    have hnone : ∀ r, addModulePort config machine m server backendHost mp r =
        .error (.unknownProtocol mp.tag) := by
      intro r
      simp only [addModulePort, hprotocol]
    exact .inr ⟨_, _, hnone p, hnone q⟩
  | some protocol =>
    have hq' : ∀ q', ensurePort config machine mp.listenPort protocol q = .ok q' →
        q'.Grows machine last' :=
      fun q' hok =>
        Ports.grows_modifyRoutes_add.trans (hq _ (addModulePort_eq_ok _ _ _ hprotocol hok))
    rcases alike_ensurePort hrefit h hq' with ⟨p', q', hpo, hqo, h', heq⟩ |
      ⟨cause, cause', hpo, hqo⟩ | ⟨e, cause, hpo, -, hkept, he, hfault⟩
    · have hpa := addModulePort_eq_ok m server backendHost hprotocol hpo
      have hqa := addModulePort_eq_ok m server backendHost hprotocol hqo
      exact .inl ⟨_, _, hpa, hqa, h'.modifyRoutes heq ((builds_addModulePort hpa).keeps h.left).1
        ((builds_addModulePort hqa).keeps h.right).1⟩
    · exact .inr ⟨cause, cause', addModulePort_eq_error hprotocol hpo,
        addModulePort_eq_error hprotocol hqo⟩
    · -- the kept port would get a route and stay open, though it could not be bound anew
      refine absurd ?_ hfault
      have hgrows := hp _ (addModulePort_eq_ok _ _ _ hprotocol hpo)
      obtain ⟨e', he', hc⟩ := hgrows.kept mp.listenPort _
        (by rw [Ports.get?_modifyRoutes, if_pos rfl, he]; rfl)
      have hidle : Ports.isIdle e' = false := by
        refine hc.not_idle ?_
        simp [Ports.isIdle, Route.Table.isEmpty_add]
      have hfree := hrefit.bindable _ e e' hkept he' hidle
      rwa [hc.socket_eq] at hfree

variable {rest : List ModulePort}

/-- A module goes on to its next port when it has got the one before. -/
theorem addModulePorts_cons_of_ok
    (hok : addModulePort config machine m server backendHost mp p = .ok p') :
    addModulePorts config machine m server backendHost (mp :: rest) p =
      addModulePorts config machine m server backendHost rest p' := by
  rw [addModulePorts, hok]

/-- A module stops at the first port that it cannot have. -/
theorem addModulePorts_cons_of_error {cause : GatewayError}
    (herror : addModulePort config machine m server backendHost mp p = .error cause) :
    addModulePorts config machine m server backendHost (mp :: rest) p = (.error cause, p) := by
  rw [addModulePorts, herror]

/-- Both sides stop at the same port of a module, or at none. -/
theorem respects_addModulePorts (hrefit : Refit config machine kept last last')
    (l : List ModulePort) : Respects config machine kept last last' fun p =>
      (addModulePorts config machine m server backendHost l p).2 := by
  induction l with
  | nil => exact fun p q h _ _ => h
  | cons mp rest ih =>
    intro p q h hp hq
    dsimp only at hp hq ⊢
    have hp' : ∀ p', addModulePort config machine m server backendHost mp p = .ok p' →
        p'.Grows machine last := by
      intro p' hok
      rw [addModulePorts_cons_of_ok hok] at hp
      exact (builds_addModulePorts rest p').grows.trans hp
    have hq' : ∀ q', addModulePort config machine m server backendHost mp q = .ok q' →
        q'.Grows machine last' := by
      intro q' hok
      rw [addModulePorts_cons_of_ok hok] at hq
      exact (builds_addModulePorts rest q').grows.trans hq
    rcases alike_addModulePort hrefit h hp' hq' with
      ⟨p', q', hpo, hqo, h'⟩ | ⟨cause, cause', hpo, hqo⟩
    · rw [addModulePorts_cons_of_ok hpo] at hp ⊢
      rw [addModulePorts_cons_of_ok hqo] at hq ⊢
      exact ih p' q' h' hp hq
    · rw [addModulePorts_cons_of_error hpo, addModulePorts_cons_of_error hqo]
      exact h

end ModulePort

theorem respects_restoreModule (hrefit : Refit config machine kept last last') (s : Server)
    (m : Module) :
    Respects config machine kept last last' fun p => restoreModule config machine s p m := by
  intro p q h
  simp only [restoreModule]
  split
  · exact fun _ _ => h
  · split
    · exact fun _ _ => h
    · exact respects_addModulePorts hrefit m.ports p q h

/-- **Restoring a server respects the likeness**, with its route and those of its modules. -/
theorem respects_restore (hrefit : Refit config machine kept last last')
    (hmodule : ∀ k e, kept.get? k = some e → e.origin = .module) (panel : Panel) (s : Server) :
    Respects config machine kept last last' fun p => restore config machine panel p s := by
  have hmodules := Ports.respects_foldl (respects_restoreModule hrefit s)
    (fun _ _ => builds_restoreModule) (panel.modulesOf s.id)
  have hall := hmodules.comp (respects_restoreServer hmodule s)
    fun p => Ports.builds_foldl (fun _ _ => builds_restoreModule) (panel.modulesOf s.id) p
  intro p q h
  simp only [restore]
  split
  · exact hall p q h
  · exact fun _ _ => h

/-! ### The two refreshes -/

/-- The ports that a refresh **keeps**, without their routes. -/
def keepPorts (panel : Panel) (ports : Ports) : Ports :=
  (ports.mapRoutes fun e => e.routes.clear).close (isStale (wantedListeners panel.listeners))

/-- The ports when a refresh has opened those of the listeners. -/
def reopenPorts (config : Config) (machine : Machine) (panel : Panel) (ports : Ports) : Ports :=
  openListeners config machine (wantedListeners panel.listeners) (keepPorts panel ports)

/-- The ports when a refresh has set all routes, before it gives up those that are idle. -/
def rebuildPorts (config : Config) (machine : Machine) (panel : Panel) (ports : Ports) : Ports :=
  restoreAll config machine panel (reopenPorts config machine panel ports)

variable {panel : Panel} {ports : Ports} {k : UInt16} {e : Entry}

/-- A refresh builds on what it keeps and then gives up what is idle. -/
theorem reconcile_eq :
    reconcile config machine panel ports = (rebuildPorts config machine panel ports).evict :=
  rfl

/-- What is kept has lost its routes and nothing else. -/
theorem get?_keepPorts_eq_some :
    (keepPorts panel ports).get? k = some e ↔ ∃ e₀, ports.get? k = some e₀ ∧
      isStale (wantedListeners panel.listeners) k e₀ = false ∧
      e = { e₀ with routes := e₀.routes.clear } := by
  rw [keepPorts, Ports.get?_close_eq_some, Ports.get?_mapRoutes, Option.map_eq_some_iff]
  constructor
  · rintro ⟨⟨e₀, he₀, rfl⟩, hstale⟩
    exact ⟨e₀, he₀, hstale, rfl⟩
  · rintro ⟨e₀, he₀, hstale, rfl⟩
    exact ⟨⟨e₀, he₀, rfl⟩, hstale⟩

theorem get?_keepPorts_empty : (keepPorts panel {}).get? k = none := by
  rw [Option.eq_none_iff_forall_ne_some]
  intro e he
  obtain ⟨e₀, he₀, -⟩ := get?_keepPorts_eq_some.mp he
  simp [Ports.get?] at he₀

theorem lawful_keepPorts (h : ports.Lawful config) : (keepPorts panel ports).Lawful config :=
  (h.thin fun _ => Route.Table.thins_clear).close

theorem builds_rebuildPorts :
    Ports.Builds config machine (keepPorts panel ports) (rebuildPorts config machine panel ports) :=
  (builds_openListeners _).trans builds_restoreAll

/-- The outcome of a refresh is what has been built, without the idle ports of modules. -/
theorem get?_reconcile_eq_some :
    (reconcile config machine panel ports).get? k = some e ↔
      (rebuildPorts config machine panel ports).get? k = some e ∧ Ports.isIdle e = false :=
  Ports.get?_close_eq_some

/-- A new gateway has no idle ports to give up. -/
theorem busy_rebuildPorts : (rebuildPorts config machine panel {}).Busy := by
  refine (builds_rebuildPorts.keeps (lawful_keepPorts Ports.lawful_empty)).2 fun k e he => ?_
  rw [get?_keepPorts_empty] at he
  cases he

/-- On a new gateway nothing idle is left to be given up. -/
theorem get?_reconcile_empty :
    (reconcile config machine panel {}).get? k = (rebuildPorts config machine panel {}).get? k := by
  refine Option.ext fun e => ?_
  rw [get?_reconcile_eq_some]
  exact and_iff_left_of_imp (busy_rebuildPorts k e)

/-- After the listeners' turn, the port of a wanted one is open unless the machine is in the way. -/
theorem isSome_openListeners {l : Listener} {listeners : List Listener} (hl : l ∈ listeners)
    (h : p.Lawful config)
    (hfree : machine.bindFault ⟨Protocol.minecraft.transport, l.port⟩ = none) :
    ((openListeners config machine listeners p).get? l.port).isSome := by
  induction listeners generalizing p with
  | nil => cases hl
  | cons a rest ih =>
    have hkeeps : p.Keeps config (tryListener config machine p a) := builds_tryListener.keeps
    rcases List.mem_cons.mp hl with rfl | hl
    · have hopen : ∃ e, (tryListener config machine p l).get? l.port = some e := by
        rw [tryListener_eq]
        cases hk : p.get? l.port with
        | some e => exact ⟨e, hk⟩
        | none =>
          obtain ⟨p', hpo⟩ : ∃ p', p.openPort machine (.listener l.id) .minecraft
              (config.address l.port) = .ok p' :=
            Ports.exists_openPort ((h.bindFault_eq hk).trans hfree)
          refine ⟨.opened (.listener l.id) .minecraft (config.address l.port), ?_⟩
          simp only [hpo]
          rw [Ports.get?_openPort hpo, if_pos rfl]
      obtain ⟨e, he⟩ := hopen
      have hgrows : (tryListener config machine p l).Grows machine
          (openListeners config machine (l :: rest) p) := (builds_openListeners rest).grows
      obtain ⟨e', he', -⟩ := hgrows.kept l.port e he
      exact Option.isSome_of_mem he'
    · exact ih hl (hkeeps h).1

/-- Opening listeners depends on the entries of the ports only. -/
theorem get?_openListeners_congr (hp : p.Lawful config) (hq : q.Lawful config)
    (h : ∀ k, p.get? k = q.get? k) (listeners : List Listener) (k : UInt16) :
    (openListeners config machine listeners p).get? k =
      (openListeners config machine listeners q).get? k :=
  Respects.get?_congr (fun _ _ => Ports.respects_foldl (respects_tryListener Ports.refit_empty)
    (fun _ _ => builds_tryListener) listeners) hp hq h k

/-- A kept port that was opened for a listener is opened again by a new gateway. -/
theorem isSome_reopenPorts_of_listener (h : ports.Lawful config) {id : ListenerId}
    (hkept : (keepPorts panel ports).get? k = some e) (hid : e.origin = .listener id)
    (hfree : machine.bindFault e.socket = none) :
    ((reopenPorts config machine panel {}).get? k).isSome := by
  obtain ⟨e₀, he₀, hstale, rfl⟩ := get?_keepPorts_eq_some.mp hkept
  obtain ⟨l, hl, hlid, hport⟩ : ∃ l ∈ wantedListeners panel.listeners, l.id = id ∧ l.port = k := by
    change e₀.origin = .listener id at hid
    simpa [isStale, hid] using hstale
  have hsocket : Forwarder.socket { e₀ with routes := e₀.routes.clear }.toForwarder =
      ⟨Protocol.minecraft.transport, k⟩ := by
    rw [Forwarder.socket, (h.entry he₀).address, (h.entry he₀).listener hid]
    rfl
  rw [hsocket] at hfree
  subst hport
  exact isSome_openListeners hl (lawful_keepPorts Ports.lawful_empty) hfree

section Refitting

variable (h : ports.Lawful config)
  (hrefit : Refit config machine (keepPorts panel ports) (rebuildPorts config machine panel ports)
    (rebuildPorts config machine panel {}))

include h hrefit

/-- What has not been called for when the listeners have been was opened for modules. -/
theorem origin_of_get?_reopenPorts (hkept : (keepPorts panel ports).get? k = some e)
    (hp : (reopenPorts config machine panel ports).get? k = some e)
    (hq : (reopenPorts config machine panel {}).get? k = none) : e.origin = .module := by
  cases horigin : e.origin with
  | module => rfl
  | listener id =>
    have hgrows : (reopenPorts config machine panel ports).Grows machine
        (rebuildPorts config machine panel ports) := builds_restoreAll.grows
    obtain ⟨e', he', hc⟩ := hgrows.kept k e hp
    have hfree := hrefit.bindable k e e' hkept he'
      (hc.not_idle (Entry.not_idle_of_listener horigin))
    rw [hc.socket_eq] at hfree
    have hsome := isSome_reopenPorts_of_listener h hkept horigin hfree
    rw [hq] at hsome
    cases hsome

/-- When the listeners have been opened, the two sides differ by kept ports of modules at most. -/
theorem alike_reopenPorts : Alike config (keepPorts panel ports).ofModules
    (reopenPorts config machine panel ports) (reopenPorts config machine panel {}) := by
  have hstart : Alike config (keepPorts panel ports) (keepPorts panel ports)
      (keepPorts panel {}) := by
    refine ⟨lawful_keepPorts h, lawful_keepPorts Ports.lawful_empty, fun k => ?_⟩
    rw [get?_keepPorts_empty]
    cases hk : (keepPorts panel ports).get? k with
    | none => exact .inl rfl
    | some e => exact .inr ⟨e, rfl, rfl, rfl⟩
  have hopened := Ports.respects_foldl (respects_tryListener hrefit)
    (fun _ _ => builds_tryListener) (wantedListeners panel.listeners) _ _ hstart
    builds_restoreAll.grows builds_restoreAll.grows
  refine ⟨hopened.left, hopened.right, fun k => (hopened.get? k).imp_right ?_⟩
  rintro ⟨e, hkept, hp, hq⟩
  have horigin := origin_of_get?_reopenPorts h hrefit hkept hp hq
  exact ⟨e, Ports.get?_ofModules_eq_some.mpr ⟨hkept, horigin⟩, hp, hq⟩

/-- And so they do when all routes have been set. -/
theorem alike_rebuildPorts : Alike config (keepPorts panel ports).ofModules
    (rebuildPorts config machine panel ports) (rebuildPorts config machine panel {}) :=
  Ports.respects_foldl
    (respects_restore hrefit.ofModules
      (fun _ _ he => (Ports.get?_ofModules_eq_some.mp he).2) panel)
    (fun _ _ => builds_restore) panel.servers _ _ (alike_reopenPorts h hrefit) .refl .refl

/-- If the kept ports refit, a refresh yields what a new gateway would have. -/
theorem get?_reconcile_of_refit :
    (reconcile config machine panel ports).get? k =
      (reconcile config machine panel {}).get? k := by
  rw [get?_reconcile_empty]
  refine Option.ext fun e => ?_
  rw [get?_reconcile_eq_some]
  rcases (alike_rebuildPorts h hrefit).get? k with heq | ⟨e₀, hkept, hp, hq⟩
  · rw [heq]
    exact and_iff_left_of_imp (busy_rebuildPorts k e)
  · rw [hp, hq]
    obtain ⟨hkept, horigin⟩ := Ports.get?_ofModules_eq_some.mp hkept
    constructor
    · rintro ⟨he, hbusy⟩
      obtain rfl := Option.some.inj he
      simp [Ports.isIdle, horigin, hrefit.cleared k e₀ hkept] at hbusy
    · rintro ⟨⟩

end Refitting

/-! ### Gateways that fit their records -/

variable {g : Gateway}

/-- A gateway **fits** the records of its store when each open port that a refresh does not close
serves the same purpose in a new gateway, if that has it, and all ports that are open after a
refresh could be bound anew. -/
structure Fits (machine : Machine) (g : Gateway) : Prop where
  purpose : ∀ port e e', g.ports.get? port = some e →
    isStale (wantedListeners g.panel.listeners) port e = false →
    ((new g.config g.store).refresh machine).ports.get? port = some e' →
    e'.protocol = e.protocol ∧ e'.origin = e.origin
  bindable : ∀ port e, (g.refresh machine).ports.get? port = some e →
    machine.bindFault e.socket = none

theorem Fits.refit (h : g.Fits machine) (hl : g.ports.Lawful g.config) :
    Refit g.config machine (keepPorts g.panel g.ports)
      (rebuildPorts g.config machine g.panel g.ports)
      (rebuildPorts g.config machine g.panel {}) where
  lawful := lawful_keepPorts hl
  cleared k e he := by
    obtain ⟨e₀, -, -, rfl⟩ := get?_keepPorts_eq_some.mp he
    exact Route.Table.isEmpty_iff.mpr fun _ => Route.Table.get?_clear
  purpose k e e' he he' := by
    obtain ⟨e₀, he₀, hstale, rfl⟩ := get?_keepPorts_eq_some.mp he
    exact h.purpose k e₀ e' he₀ hstale (get?_reconcile_empty.trans he')
  bindable k _ e _ he hidle := h.bindable k e (get?_reconcile_eq_some.mpr ⟨he, hidle⟩)

/-- **A gateway that fits its records is brought to what a new one would have.** -/
theorem Fits.entries_eq (h : g.Fits machine) (hl : g.ports.Lawful g.config) :
    (g.refresh machine).ports.entries = ((new g.config g.store).refresh machine).ports.entries :=
  Std.ExtTreeMap.ext_getElem? fun _ => get?_reconcile_of_refit hl (h.refit hl)

theorem getElem?_routes {k : UInt16} :
    g.routes[k]? = (g.ports.get? k).map fun e => ⟨e.protocol, e.origin.listener?, e.routes⟩ :=
  Std.ExtTreeMap.getElem?_map

theorem Origin.listener?_inj {o o' : Origin} (h : o.listener? = o'.listener?) : o = o' := by
  cases o with
  | listener id =>
    cases o' with
    | listener id' => exact congrArg Origin.listener (Option.some.inj h)
    | module => cases h
  | module =>
    cases o' with
    | listener id' => cases h
    | module => rfl

/-- Gateways with the same routes have the same ports. -/
theorem get?_eq_of_routes_eq {g' : Gateway} (hl : g.ports.Lawful config)
    (hl' : g'.ports.Lawful config) (h : g.routes = g'.routes) (k : UInt16) :
    g.ports.get? k = g'.ports.get? k := by
  have hview := congrArg (·[k]?) h
  simp only [getElem?_routes] at hview
  cases hk : g.ports.get? k with
  | none =>
    rw [hk, Option.map_none] at hview
    exact (Option.map_eq_none_iff.mp hview.symm).symm
  | some e =>
    rw [hk, Option.map_some] at hview
    obtain ⟨e', he', hv⟩ := Option.map_eq_some_iff.mp hview.symm
    obtain ⟨hprotocol, horigin, hroutes⟩ := PortView.mk.inj hv
    rw [he', (hl'.entry he').eq_of_view (hl.entry hk) hprotocol (Origin.listener?_inj horigin)
      hroutes]

/-- The ports of a new gateway could be bound. -/
theorem bindable_refresh_new {config : Config} {store : Store} {k : UInt16} {e : Entry}
    (he : ((new config store).refresh machine).ports.get? k = some e) :
    machine.bindFault e.socket = none :=
  builds_rebuildPorts.grows.bindable k e (get?_reconcile_empty.symm.trans he) get?_keepPorts_empty

/-- A gateway that is brought to what a new one would have fits its records. -/
theorem fits_of_routes_eq (hl : g.ports.Lawful g.config)
    (h : (g.refresh machine).routes = ((new g.config g.store).refresh machine).routes) :
    g.Fits machine := by
  have hsame := get?_eq_of_routes_eq ((keeps_refresh (g := g)).2 hl).1
    ((keeps_refresh (g := new g.config g.store)).2 Ports.lawful_empty).1 h
  constructor
  · intro k e e' he hstale he'
    have hkept : (keepPorts g.panel g.ports).get? k = some { e with routes := e.routes.clear } :=
      get?_keepPorts_eq_some.mpr ⟨e, he, hstale, rfl⟩
    obtain ⟨e₁, he₁, hc⟩ := builds_rebuildPorts.grows.kept k _ hkept
    rw [← hsame k] at he'
    obtain rfl := Option.some.inj (he₁.symm.trans (get?_reconcile_eq_some.mp he').1)
    exact ⟨hc.protocol, hc.origin⟩
  · intro k e he
    rw [hsame k] at he
    exact bindable_refresh_new he

/-- A gateway that fits its records still does after a refresh: what a second one keeps is what a
new gateway would have. -/
theorem Fits.refresh (h : g.Fits machine) (hl : g.ports.Lawful g.config) :
    (g.refresh machine).Fits machine := by
  constructor
  · intro k e e' he _ he'
    rw [Ports.get?, h.entries_eq hl] at he
    obtain rfl := Option.some.inj (he.symm.trans he')
    exact ⟨rfl, rfl⟩
  · intro k e he
    have hbuilt := (get?_reconcile_eq_some.mp he).1
    cases hk : (keepPorts g.panel (g.refresh machine).ports).get? k with
    | none => exact builds_rebuildPorts.grows.bindable k e hbuilt hk
    | some e₁ =>
      obtain ⟨e₂, he₂, hc⟩ := builds_rebuildPorts.grows.kept k e₁ hk
      obtain rfl := Option.some.inj (hbuilt.symm.trans he₂)
      obtain ⟨e₀, he₀, -, rfl⟩ := get?_keepPorts_eq_some.mp hk
      rw [hc.socket_eq]
      exact h.bindable k e₀ he₀

/-- **A second refresh changes nothing** if the gateway fitted its records before the first. -/
theorem Fits.refresh_refresh (h : g.Fits machine) (hl : g.ports.Lawful g.config) :
    ((g.refresh machine).refresh machine).ports.entries = (g.refresh machine).ports.entries := by
  have hl' : (g.refresh machine).ports.Lawful (g.refresh machine).config :=
    (keeps_refresh.2 hl).1
  exact ((h.refresh hl).entries_eq hl').trans (h.entries_eq hl).symm

/-- **What a refresh depends on**, after every run. A refresh brings a gateway to what a new one
would have exactly when the gateway fits its records. Another gateway that fits the same records is
then brought to the same, and a second refresh changes nothing. -/
theorem refresh_eq_new_iff_fits (config : Config) (store : Store) (turns : List Turn)
    (machine : Machine) :
    let g := (new config store).after turns
    ((g.refresh machine).routes = ((new config g.store).refresh machine).routes ↔
      g.Fits machine) ∧
    (g.Fits machine →
      ((g.refresh machine).refresh machine).ports.entries = (g.refresh machine).ports.entries ∧
      ∀ store' turns', let g' := (new config store').after turns'
        g'.panel = g.panel → g'.Fits machine →
          (g'.refresh machine).routes = (g.refresh machine).routes) := by
  intro g
  have hreached : ∀ store turns, ((new config store).after turns).config = config ∧
      ((new config store).after turns).ports.Lawful config :=
    fun store turns => ⟨config_after turns, (lawful_after turns).1⟩
  obtain ⟨hconfig, hl⟩ : g.config = config ∧ g.ports.Lawful config := hreached store turns
  clear_value g
  subst hconfig
  refine ⟨⟨fits_of_routes_eq hl, fun h => ?_⟩,
    fun h => ⟨h.refresh_refresh hl, fun store' turns' => ?_⟩⟩
  · rw [routes, routes, h.entries_eq hl]
  · intro g' hpanel h'
    obtain ⟨hconfig', hl'⟩ : g'.config = g.config ∧ g'.ports.Lawful g.config :=
      hreached store' turns'
    rw [← hconfig'] at hl'
    rw [routes, routes, h'.entries_eq hl', h.entries_eq hl]
    change ((reconcile g'.config machine g'.panel {}).entries.map _) =
      ((reconcile g.config machine g.panel {}).entries.map _)
    rw [hpanel, hconfig']

/-- A gateway whose server's route has gone fits the records that it was started with. -/
theorem fits_after_removeServer :
    let listener : Listener := { id := ⟨.ofNat 1⟩, port := 25565, name := "main" }
    let server : Server := {
      id := ⟨.ofNat 2⟩, name := "lobby", container := some "lobby", status := .running
      listener := some listener.id }
    let m : Module := {
      id := ⟨.ofNat 3⟩, server := server.id, name := "map"
      ports := [{ listenPort := 8000, backendPort := 80, tag := "http" }] }
    let store := Store.ofPanel {
      version := 1, listeners := [listener], servers := [server], modules := [m] }
    let machine : Machine := {
      address := fun _ _ => .ok (.v4 #v[172, 18, 0, 2]), bindFault := fun _ => none }
    let g := (new {} store).after [.call machine .start, .call machine (.removeServer server.id)]
    g.routes ≠ (g.refresh machine).routes ∧ g.Fits machine ∧
      ((g.refresh machine).refresh machine).ports.entries = (g.refresh machine).ports.entries :=
  have h := refresh_eq_new_iff_fits {} _ _ _
  ⟨by decide +kernel, h.1.mp (by decide +kernel), (h.2 (h.1.mp (by decide +kernel))).1⟩

/-- A module's port that is to change its protocol is closed by the first refresh, and only the
second one opens it again. -/
theorem refresh_retagged :
    let server : Server := {
      id := ⟨.ofNat 2⟩, name := "lobby", container := some "lobby", status := .running }
    let m (tag : String) : Module := {
      id := ⟨.ofNat 3⟩, server := server.id, name := "map"
      ports := [{ listenPort := 8000, backendPort := 80, tag }] }
    let store := Store.ofPanel { version := 1, servers := [server], modules := [m "tcp"] }
    let machine : Machine := {
      address := fun _ _ => .ok (.v4 #v[172, 18, 0, 2]), bindFault := fun _ => none }
    let g := (new {} store).after
      [.call machine .start, .store (store.saveModule (m "http")).2]
    (g.refresh machine).routes ≠ ((new {} g.store).refresh machine).routes ∧
      ((g.refresh machine).refresh machine).routes ≠ (g.refresh machine).routes := by
  decide +kernel

end Gateway

end GameGateway
