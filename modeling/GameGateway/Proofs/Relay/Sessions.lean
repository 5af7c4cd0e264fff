import GameGateway.Proofs.Record.Integrity
import GameGateway.Relay.DatagramPort
import Mathlib.Data.List.Induction

/-!
# Whose datagrams are whose

What holds at a datagram port at all times, whatever occurs, in whatever order and surroundings: the
datagrams of a client that has a session go out in it, to the backend that the session was opened
to, wherever the route may lead by now, and what is answered in a session goes to its client and to
no one else (`sessions_kept_apart`).

A session is known by its **binding**, the number, the client and the backend that it has from first
to last. The induction over the moments of a port carries what their sessions **account for**: each
one that is open has been opened with the same binding, and numbers are never used again. There is
one case for the opening of a session; all else that occurs leaves some of the sessions and adds
none (`step_cases`).
-/

namespace GameGateway.Relay

open Wire (Byte)

/-! ### What a session has from first to last -/

/-- The **binding** of a session. -/
structure Binding where
  id : Nat
  client : SocketAddress
  backend : SocketAddress
  deriving DecidableEq, Repr

/-- The binding of a session. -/
def Session.binding (s : Session) : Binding :=
  ⟨s.id, s.client, s.backend⟩

namespace Sessions

variable {t : Sessions} {client backend : SocketAddress} {id now : Nat}

/-- A session that is used keeps its number, its client and its backend. -/
theorem binding_touch : (t.touch id now).live.map Session.binding = t.live.map Session.binding := by
  rw [touch, List.map_map]
  refine List.map_congr_left fun s _ => ?_
  simp only [Function.comp_apply]
  split <;> rfl

/-- A client that has no session gets one beside all others. -/
theorem openFor_of_get?_eq_none (h : t.get? client = none) :
    t.openFor client backend now = ([], {
      live := t.live ++ [⟨t.nextId, client, backend, now⟩]
      nextId := t.nextId + 1 }) := by
  have hother : ∀ s ∈ t.live, s.client ≠ client := by simpa [get?] using h
  have hclosed : (t.live.filter fun s => !decide (s.client ≠ client)) = [] := by
    simpa using hother
  have hkept : (t.live.filter fun s => decide (s.client ≠ client)) = t.live := by
    simpa using hother
  rw [openFor, keep, hclosed, hkept]

end Sessions

namespace DatagramPort

variable {p : DatagramPort} {around : Surroundings} {o : Occurrence} {client : SocketAddress}
  {bytes : List Byte}

/-! ### What occurs in a session -/

/-- Where no socket is bound, nothing that occurs has any effect. -/
theorem step_of_unbound (h : p.running = false) : p.step around o = (p, []) := by
  unfold step
  rw [h]
  rfl

/-- **A datagram of a client that has a session goes to the backend of that session**, whatever the
routes have come to be. -/
theorem step_datagram_of_get? {s : Session} (hbound : p.running = true)
    (h : p.sessions.get? client = some s) : p.step around (.datagram client bytes) =
      ({ p with sessions := p.sessions.touch s.id around.now }, [.toBackend s.id bytes]) := by
  simp only [step, hbound, passOn, h, Bool.not_true, Bool.false_eq_true, if_false]

/-- **What comes in for a session goes to its client.** -/
theorem step_answer_of_find? {id : Nat} {s : Session} (hbound : p.running = true)
    (h : p.sessions.find? id = some s) : p.step around (.answer id bytes) =
      ({ p with sessions := p.sessions.touch id around.now }, [.toClient s.client bytes]) := by
  simp only [step, hbound, h, Bool.not_true, Bool.false_eq_true, if_false]

/-- The backend to which a client that has no session is given one, if the port is bound. -/
def backend? (p : DatagramPort) (around : Surroundings) : Option SocketAddress :=
  if p.running then (around.routes.lookup Route.Key.only).bind around.reach else none

/-- The port when a session has been opened for a client that had none. -/
def withSession (p : DatagramPort) (client backend : SocketAddress) (now : Nat) : DatagramPort :=
  { p with
    sessions := {
      live := p.sessions.live ++ [⟨p.sessions.nextId, client, backend, now⟩]
      nextId := p.sessions.nextId + 1 } }

/-- The datagram of a client that has no session opens one, or is dropped. -/
theorem step_datagram_of_get?_eq_none (h : p.sessions.get? client = none) :
    p.step around (.datagram client bytes) =
      match p.backend? around with
      | none => (p, [])
      | some backend => (p.withSession client backend around.now,
          [.opens p.sessions.nextId backend, .toBackend p.sessions.nextId bytes]) := by
  unfold step backend?
  cases p.running with
  | false => rfl
  | true =>
    simp only [passOn, h]
    cases (around.routes.lookup Route.Key.only).bind around.reach with
    | none => rfl
    | some backend =>
      simp only [Sessions.openFor_of_get?_eq_none h]
      rfl

/-- An answer is all that is sent to a client, and only to the one whose session it came in. -/
theorem exists_of_toClient (h : .toClient client bytes ∈ (p.step around o).2) :
    ∃ id s, p.sessions.find? id = some s ∧ s.client = client ∧ o = .answer id bytes := by
  cases hbound : p.running with
  | false =>
    rw [step_of_unbound hbound] at h
    cases h
  | true =>
    cases o with
    | datagram other bytes' =>
      cases hget : p.sessions.get? other with
      | none =>
        rw [step_datagram_of_get?_eq_none hget] at h
        cases hbackend : p.backend? around with
        | none => simp [hbackend] at h
        | some backend => simp [hbackend] at h
      | some s => simp [step_datagram_of_get? hbound hget] at h
    | answer id bytes' =>
      cases hfind : p.sessions.find? id with
      | none => simp [step, hbound, hfind] at h
      | some s =>
        obtain ⟨rfl, rfl⟩ : client = s.client ∧ bytes = bytes' := by
          simpa [step_answer_of_find? hbound hfind] using h
        exact ⟨id, s, hfind, rfl, rfl⟩
    | failure id =>
      cases hfind : p.sessions.find? id with
      | none => simp [step, hbound, hfind] at h
      | some s => simp [step, hbound, hfind, change] at h
    | sweep => simp [step, hbound, change] at h
    | stop => simp [step, hbound, change] at h

/-! ### What a step leaves -/

/-- A result **retains** sessions of a port when it has no others nor has used more numbers, and
when no port that is not bound has any if that was so before. -/
structure Retains (p : DatagramPort) (r : Result) : Prop where
  live : (r.1.sessions.live.map Session.binding).Sublist (p.sessions.live.map Session.binding)
  nextId : r.1.sessions.nextId = p.sessions.nextId
  unbound : (p.running = false → p.sessions.live = []) → r.1.running = false →
    r.1.sessions.live = []
  opens : ∀ id backend, .opens id backend ∉ r.2

/-- Doing nothing retains all sessions. -/
theorem retains_self : p.Retains (p, []) :=
  ⟨.refl _, rfl, id, fun _ _ => List.not_mem_nil⟩

/-- So does using one, as long as what is done opens none. -/
theorem retains_touch {id now : Nat} {act : Act} (h : ∀ id backend, act ≠ .opens id backend) :
    p.Retains ({ p with sessions := p.sessions.touch id now }, [act]) where
  live := by simp only [Sessions.binding_touch, List.Sublist.refl]
  nextId := rfl
  unbound h hbound := by rw [Sessions.touch, h hbound, List.map_nil]
  opens id backend hmem := h id backend (List.mem_singleton.mp hmem).symm

theorem opens_notMem_change {sessions : List Session × Sessions} (id : Nat)
    (backend : SocketAddress) : .opens id backend ∉ (p.change sessions).2 := by
  simp [change]

/-- Closing some sessions retains the others. -/
theorem retains_keep (keeps : Session → Bool) :
    p.Retains (p.change (p.sessions.keep keeps)) where
  live := List.filter_sublist.map Session.binding
  nextId := rfl
  unbound h hbound := by
    change p.sessions.live.filter keeps = []
    rw [h hbound, List.filter_nil]
  opens := opens_notMem_change

/-- A port that stops closes them all, and is not bound behind that. -/
theorem retains_stop : p.Retains ({ p with running := false }.change p.sessions.closeAll) where
  live := List.filter_sublist.map Session.binding
  nextId := rfl
  unbound _ _ := List.filter_eq_nil_iff.mpr fun _ _ => Bool.false_ne_true
  opens := opens_notMem_change

/-- **What occurs** opens a session for a client that has none, or leaves some of the sessions. -/
theorem step_cases (around : Surroundings) (p : DatagramPort) (o : Occurrence) :
    (∃ client bytes backend, o = .datagram client bytes ∧ p.sessions.get? client = none ∧
      p.backend? around = some backend ∧
      p.step around o = (p.withSession client backend around.now,
        [.opens p.sessions.nextId backend, .toBackend p.sessions.nextId bytes])) ∨
    p.Retains (p.step around o) := by
  cases hbound : p.running with
  | false =>
    rw [step_of_unbound hbound]
    exact .inr retains_self
  | true =>
    cases o with
    | datagram client bytes =>
      cases hget : p.sessions.get? client with
      | none =>
        rw [step_datagram_of_get?_eq_none hget]
        cases hbackend : p.backend? around with
        | none => exact .inr retains_self
        | some backend => exact .inl ⟨client, bytes, backend, rfl, hget, rfl, rfl⟩
      | some s =>
        rw [step_datagram_of_get? hbound hget]
        exact .inr (retains_touch nofun)
    | answer id bytes =>
      cases hfind : p.sessions.find? id with
      | none =>
        simp only [step, hbound, hfind]
        exact .inr retains_self
      | some s =>
        rw [step_answer_of_find? hbound hfind]
        exact .inr (retains_touch nofun)
    | failure id =>
      simp only [step, hbound]
      cases p.sessions.find? id with
      | none => exact .inr retains_self
      | some s => exact .inr (retains_keep _)
    | sweep =>
      simp only [step, hbound]
      exact .inr (retains_keep _)
    | stop =>
      simp only [step, hbound]
      exact .inr retains_stop

/-! ### Runs -/

/-- A **moment** of a port: it is bound, or something occurs. -/
inductive Moment where
  | start
  | occurs (around : Surroundings) (o : Occurrence)

/-- What a moment makes of a port, and what is done in it. -/
def pass (p : DatagramPort) : Moment → Result
  | .start => ({ p with running := true }, [])
  | .occurs around o => p.step around o

/-- The port **after** moments; it is not bound before the first. -/
def after (moments : List Moment) : DatagramPort :=
  moments.foldl (fun p m => (p.pass m).1) { running := false }

variable {moments : List Moment} {m : Moment} {b b' : Binding}

/-- One more moment is a step from the port behind the earlier ones. -/
theorem after_concat : after (moments ++ [m]) = ((after moments).pass m).1 := by
  rw [after, List.foldl_append]
  rfl

/-- A session has been **opened** with a binding in the course of moments, for a datagram of its
client. -/
def Opened (moments : List Moment) (b : Binding) : Prop :=
  ∃ earlier around bytes later,
    moments = earlier ++ .occurs around (.datagram b.client bytes) :: later ∧
    .opens b.id b.backend ∈ ((after earlier).step around (.datagram b.client bytes)).2

/-- What has been opened behind one more moment: what was before, and what a datagram opened in
it. -/
theorem opened_concat : Opened (moments ++ [m]) b ↔ Opened moments b ∨
    ∃ around bytes, m = .occurs around (.datagram b.client bytes) ∧
      .opens b.id b.backend ∈ ((after moments).step around (.datagram b.client bytes)).2 := by
  constructor
  · rintro ⟨earlier, around, bytes, later, heq, hopens⟩
    rcases List.eq_nil_or_concat later with rfl | ⟨later, m', rfl⟩
    · obtain ⟨rfl, hm⟩ := List.append_inj' heq rfl
      exact .inr ⟨around, bytes, List.singleton_inj.mp hm, hopens⟩
    · rw [List.concat_eq_append, ← List.cons_append, ← List.append_assoc] at heq
      obtain ⟨rfl, -⟩ := List.append_inj' heq rfl
      exact .inl ⟨earlier, around, bytes, later, rfl, hopens⟩
  · rintro (⟨earlier, around, bytes, later, rfl, hopens⟩ | ⟨around, bytes, rfl, hopens⟩)
    · exact ⟨earlier, around, bytes, later ++ [m], by simp, hopens⟩
    · exact ⟨moments, around, bytes, [], rfl, hopens⟩

/-- The sessions of a port are **accounted for** by moments: those that are open have been opened
with their bindings, a client has at most one, a number stands for one binding only and is less than
the next one, and a port that is not bound has no sessions. -/
structure Accounted (moments : List Moment) (p : DatagramPort) : Prop where
  opened : ∀ b ∈ p.sessions.live.map Session.binding, Opened moments b
  clients : Distinct Binding.client (p.sessions.live.map Session.binding)
  below : ∀ b, Opened moments b → b.id < p.sessions.nextId
  unique : ∀ b b', Opened moments b → Opened moments b' → b.id = b'.id → b = b'
  unbound : p.running = false → p.sessions.live = []

/-- Sessions are still accounted for when some are left and none has been opened. -/
theorem Accounted.retains {moments' : List Moment} {r : Result} (h : Accounted moments p)
    (hr : p.Retains r) (hopened : ∀ b, Opened moments' b ↔ Opened moments b) :
    Accounted moments' r.1 where
  opened b hb := (hopened b).mpr (h.opened b (hr.live.subset hb))
  clients := h.clients.sublist hr.live
  below b hb := hr.nextId ▸ h.below b ((hopened b).mp hb)
  unique b b' hb hb' := h.unique b b' ((hopened b).mp hb) ((hopened b').mp hb')
  unbound := hr.unbound h.unbound

/-- Sessions are still accounted for when one has been opened with a number that is not used. -/
theorem Accounted.withSession {moments' : List Moment} {backend : SocketAddress} {now : Nat}
    (h : Accounted moments p) (hbound : p.running = true) (hget : p.sessions.get? client = none)
    (hopened : ∀ b, Opened moments' b ↔
      Opened moments b ∨ b = ⟨p.sessions.nextId, client, backend⟩) :
    Accounted moments' (p.withSession client backend now) := by
  have hlive : (p.withSession client backend now).sessions.live.map Session.binding =
      p.sessions.live.map Session.binding ++ [⟨p.sessions.nextId, client, backend⟩] :=
    List.map_append
  have hold : ∀ b, Opened moments b → b.id ≠ p.sessions.nextId :=
    fun b hb => Nat.ne_of_lt (h.below b hb)
  constructor
  case opened =>
    intro b hb
    rw [hlive, List.mem_append, List.mem_singleton] at hb
    exact (hopened b).mpr (hb.imp_left (h.opened b))
  case clients =>
    have hother : ∀ s ∈ p.sessions.live, s.client ≠ client := by simpa [Sessions.get?] using hget
    rw [hlive]
    refine List.pairwise_append.mpr ⟨h.clients, List.pairwise_singleton _ _, ?_⟩
    intro b hb b' hb'
    obtain ⟨s, hs, rfl⟩ := List.mem_map.mp hb
    rw [List.mem_singleton.mp hb']
    exact hother s hs
  case below =>
    intro b hb
    rcases (hopened b).mp hb with hb | rfl
    · exact Nat.lt_succ_of_lt (h.below b hb)
    · exact Nat.lt_succ_self _
  case unique =>
    intro b b' hb hb' hid
    rcases (hopened b).mp hb with hb | rfl
    · rcases (hopened b').mp hb' with hb' | rfl
      · exact h.unique b b' hb hb' hid
      · exact absurd hid (hold b hb)
    · rcases (hopened b').mp hb' with hb' | rfl
      · exact absurd hid.symm (hold b' hb')
      · rfl
  case unbound =>
    intro hunbound
    change p.running = false at hunbound
    rw [hbound] at hunbound
    cases hunbound

/-- Starting a port opens nothing. -/
theorem retains_start : p.Retains ({ p with running := true }, []) :=
  ⟨.refl _, rfl, nofun, fun _ _ => List.not_mem_nil⟩

/-- Only a bound port has a backend to offer. -/
theorem running_of_backend? {backend : SocketAddress} (h : p.backend? around = some backend) :
    p.running = true := by
  unfold backend? at h
  split at h
  · assumption
  · cases h

/-- **A moment leaves the sessions accounted for.** -/
theorem accounted_pass (h : Accounted moments (after moments)) (m : Moment) :
    Accounted (moments ++ [m]) (after (moments ++ [m])) := by
  rw [after_concat]
  cases m with
  | start =>
    refine h.retains retains_start fun b => opened_concat.trans (or_iff_left ?_)
    rintro ⟨around, bytes, ⟨⟩, -⟩
  | occurs around o =>
    rcases step_cases around (after moments) o with
      ⟨client, bytes, backend, rfl, hget, hbackend, hstep⟩ | hretains
    · rw [pass, hstep]
      refine h.withSession (running_of_backend? hbackend) hget fun b =>
        opened_concat.trans (or_congr_right ?_)
      constructor
      · rintro ⟨around', bytes', heq, hopens⟩
        obtain ⟨rfl, ho⟩ := Moment.occurs.inj heq
        obtain ⟨hclient, rfl⟩ := Occurrence.datagram.inj ho
        rw [← hclient, hstep] at hopens
        obtain ⟨hid, hto⟩ : b.id = (after moments).sessions.nextId ∧ b.backend = backend := by
          simpa using hopens
        rw [← hid, hclient, ← hto]
      · rintro rfl
        exact ⟨around, bytes, rfl, by rw [hstep]; exact List.mem_cons_self⟩
    · refine h.retains hretains fun b => opened_concat.trans (or_iff_left ?_)
      rintro ⟨around', bytes, heq, hopens⟩
      obtain ⟨rfl, rfl⟩ := Moment.occurs.inj heq
      exact hretains.opens _ _ hopens

/-- **Sessions are accounted for in every run.** -/
theorem accounted_after (moments : List Moment) : Accounted moments (after moments) := by
  induction moments using List.reverseRecOn with
  | nil =>
    have hnone : ∀ b, ¬Opened [] b := by
      rintro b ⟨earlier, around, bytes, later, heq, -⟩
      simp at heq
    exact ⟨nofun, .nil, fun b hb => absurd hb (hnone b), fun b _ hb => absurd hb (hnone b),
      fun _ => rfl⟩
  | append_singleton moments m ih => exact accounted_pass ih m

section Accounted

variable (h : Accounted moments p) {s : Session} (hs : s ∈ p.sessions.live)

include h hs

theorem Accounted.running : p.running = true := by
  rw [← Bool.not_eq_false]
  intro hunbound
  rw [h.unbound hunbound] at hs
  cases hs

/-- Each session was opened at some moment. -/
theorem Accounted.opened_of_mem : Opened moments s.binding :=
  h.opened s.binding (List.mem_map_of_mem hs)

/-- Since no two clients share one, a session is the one that its client is found to have. -/
theorem Accounted.get?_eq_some : p.sessions.get? s.client = some s := by
  have hclients : Distinct Session.client p.sessions.live :=
    (List.pairwise_map (f := Session.binding)).mp h.clients
  exact hclients.find?_eq_some hs

/-- An open session is found by its number, since no other open one has it. -/
theorem Accounted.find?_eq_some : p.sessions.find? s.id = some s := by
  have hids : Distinct Session.id p.sessions.live := by
    refine (List.pairwise_map.mp h.clients).imp_of_mem fun {a b} ha hb hne hid => hne ?_
    exact congrArg Binding.client (h.unique _ _ (h.opened _ (List.mem_map_of_mem ha))
      (h.opened _ (List.mem_map_of_mem hb)) hid)
  exact hids.find?_eq_some hs

end Accounted

/-! ### Affinity and isolation -/

/-- **Sessions keep clients apart**, whatever has occurred at a port up to now and in whatever
surroundings. A number stands for one client and one backend, those that the session was opened
with. The datagrams of a client that has a session go out in it, and what is answered in it goes to
the client. The datagram of one that has none opens one with a new number, to the backend of the
route, or if there is none is dropped, and all other sessions are left alone. Nothing is sent to a
client but what has been answered in its own session. -/
theorem sessions_kept_apart (moments : List Moment) (around : Surroundings) :
    let p := after moments
    (∀ b b', Opened moments b → Opened moments b' → b.id = b'.id → b = b') ∧
    (∀ s ∈ p.sessions.live, Opened moments s.binding ∧ ∀ bytes,
      p.step around (.datagram s.client bytes) =
        ({ p with sessions := p.sessions.touch s.id around.now }, [.toBackend s.id bytes]) ∧
      p.step around (.answer s.id bytes) =
        ({ p with sessions := p.sessions.touch s.id around.now }, [.toClient s.client bytes])) ∧
    (∀ client, (∀ s ∈ p.sessions.live, s.client ≠ client) → ∀ bytes,
      (∀ b, Opened moments b → b.id ≠ p.sessions.nextId) ∧
      p.step around (.datagram client bytes) =
        match p.backend? around with
        | none => (p, [])
        | some backend => (p.withSession client backend around.now,
            [.opens p.sessions.nextId backend, .toBackend p.sessions.nextId bytes])) ∧
    ∀ o client bytes, .toClient client bytes ∈ (p.step around o).2 →
      ∃ s ∈ p.sessions.live, s.client = client ∧ o = .answer s.id bytes := by
  intro p
  have h : Accounted moments p := accounted_after moments
  refine ⟨h.unique, fun s hs => ⟨h.opened_of_mem hs, fun bytes => ⟨?_, ?_⟩⟩,
    fun client hother bytes => ⟨fun b hb => Nat.ne_of_lt (h.below b hb), ?_⟩,
    fun o client bytes hsent => ?_⟩
  · exact step_datagram_of_get? (h.running hs) (h.get?_eq_some hs)
  · exact step_answer_of_find? (h.running hs) (h.find?_eq_some hs)
  · exact step_datagram_of_get?_eq_none (by simpa [Sessions.get?] using hother)
  · obtain ⟨id, s, hfind, hclient, rfl⟩ := exists_of_toClient hsent
    obtain rfl : s.id = id := by simpa using List.find?_some hfind
    exact ⟨s, List.mem_of_find?_eq_some hfind, hclient, rfl⟩

/-- A client keeps its backend when the route changes, and has another session to the new backend
when it has been idle for too long. An answer that comes late in the old one reaches no one. -/
theorem sessions_kept_apart_after_change :
    let client : SocketAddress := ⟨.v4 #v[10, 0, 0, 1], 5000⟩
    let other : SocketAddress := ⟨.v4 #v[10, 0, 0, 2], 5000⟩
    let old : SocketAddress := ⟨.v4 #v[172, 18, 0, 2], 19132⟩
    let new : SocketAddress := ⟨.v4 #v[172, 18, 0, 3], 19132⟩
    let around (backend : SocketAddress) (now : Nat) : Surroundings := {
      routes := (Route.Table.empty false).add "voice" "" (toString backend.host) backend.port
      reach := fun _ => some backend, longest := 1000, now }
    let moments := [.start, .occurs (around old 0) (.datagram client [1]),
      .occurs (around new 100) (.datagram client [2]),
      .occurs (around new 2000) (.datagram other [3]), .occurs (around new 2000) .sweep,
      .occurs (around new 2100) (.datagram client [4])]
    let p := after moments
    (after (moments.take 3)).sessions.live.map Session.binding = [⟨1, client, old⟩] ∧
      p.sessions.live.map Session.binding = [⟨2, other, new⟩, ⟨3, client, new⟩] ∧
      (p.step (around new 2200) (.answer 1 [5])).2 = [] ∧
      (p.step (around new 2200) (.answer 2 [5])).2 = [.toClient other [5]] := by
  intro client other old new around moments p
  have hopen : (⟨2, other, new, 2000⟩ : Session) ∈ p.sessions.live := by decide +kernel
  have h := (sessions_kept_apart moments (around new 2200)).2.1 _ hopen
  exact ⟨by decide +kernel, by decide +kernel, by decide +kernel, congrArg Prod.snd (h.2 [5]).2⟩

end DatagramPort

end GameGateway.Relay
