import GameGateway.Proofs.Relay.Sessions
import Mathlib.Data.List.Nodup

/-!
# The lives of sessions

Whatever steps the sessions of a port take, in whatever order, each session that is opened gets the
next number and is closed no more than once: it has been closed just when it is not open any more,
and it does not come back (`closed_once`). That holds for those that another one replaces, and where
someone who has missed that closes a session late.

A `History` notes what the steps have done. The induction over the steps carries `Accounts`: those
that have been closed and those that are open are together those that have been opened. All steps
but two keep some of the sessions and close the others (`Accounts.keep`); the opening of one does
this first, too.
-/

namespace GameGateway.Relay

namespace Sessions

variable {t : Sessions} {client backend : SocketAddress} {s : Session} {id now longest : Nat}

/-! ### Steps -/

/-- A **step** that sessions take. -/
inductive Step where
  | openFor (client backend : SocketAddress) (now : Nat)
  | touch (id now : Nat)
  | close (client : SocketAddress) (id : Nat)
  | sweep (longest now : Nat)
  | closeAll

/-- The sessions that a step closes, and what it leaves. -/
def take (t : Sessions) : Step → List Session × Sessions
  | .openFor client backend now => t.openFor client backend now
  | .touch id now => ([], t.touch id now)
  | .close client id => t.close client id
  | .sweep longest now => t.sweep longest now
  | .closeAll => t.closeAll

/-- The session that a step opens: the one that the client has then. -/
def opened? (t : Sessions) : Step → Option Session
  | .openFor client backend now => (t.openFor client backend now).2.get? client
  | .touch _ _ | .close _ _ | .sweep _ _ | .closeAll => none

/-- The number of the session that a step touches, and when; opening it counts. -/
def touched? (t : Sessions) : Step → Option (Nat × Nat)
  | .openFor _ _ now => some (t.nextId, now)
  | .touch id now => some (id, now)
  | .close _ _ | .sweep _ _ | .closeAll => none

/-! ### Histories -/

/-- What steps have **done**, each list in their order. -/
structure History where
  sessions : Sessions := {}
  /-- The sessions that have been opened, as they were then. -/
  opened : List Session := []
  /-- The sessions that have been closed, as they were then. -/
  closed : List Session := []
  /-- The numbers of the sessions that have been touched, and when. -/
  touches : List (Nat × Nat) := []

namespace History

/-- One more step. -/
def take (h : History) (step : Step) : History where
  sessions := (h.sessions.take step).2
  opened := h.opened ++ (h.sessions.opened? step).toList
  closed := h.closed ++ (h.sessions.take step).1
  touches := h.touches ++ (h.sessions.touched? step).toList

/-- When the session with a number has been touched last. -/
def lastTouch (h : History) (id : Nat) : Option Nat :=
  ((h.touches.filter (·.1 = id)).getLast?).map (·.2)

/-- A session is **overdue** when it has been touched last more than a time ago. -/
def Overdue (h : History) (id longest now : Nat) : Prop :=
  ∃ last ∈ h.lastTouch id, last + longest < now

end History

/-- The history **of** steps, from no sessions on. -/
def history (steps : List Step) : History :=
  steps.foldl History.take {}

theorem History.lastTouch_concat {h h' : History} {touch : Nat × Nat}
    (htouches : h'.touches = h.touches ++ [touch]) :
    h'.lastTouch id = if touch.1 = id then some touch.2 else h.lastTouch id := by
  rw [lastTouch, htouches, List.filter_append]
  by_cases hid : touch.1 = id
  · simp [hid]
  · simp [hid, lastTouch]

/-! ### What a history accounts for -/

/-- A history **accounts** for its sessions: they have different clients, their numbers are counted
from one, those that have been closed and those that are open are together those that have been
opened, and an open one tells when it has been touched last. -/
structure Accounts (h : History) : Prop where
  clients : Distinct Session.client h.sessions.live
  numbers : h.opened.map (·.id) = List.range' 1 h.opened.length
  next : h.sessions.nextId = h.opened.length + 1
  once : ((h.closed ++ h.sessions.live).map Session.binding).Perm (h.opened.map Session.binding)
  touched : ∀ s ∈ h.sessions.live, h.lastTouch s.id = some s.lastActive

namespace Accounts

variable {h : History}

theorem empty : Accounts {} :=
  ⟨.nil, rfl, rfl, .nil, nofun⟩

/-- An open session has the number of one that has been opened. -/
theorem id_lt (ha : Accounts h) (hs : s ∈ h.sessions.live) : s.id < h.sessions.nextId := by
  have hmem : s.binding ∈ h.opened.map Session.binding :=
    ha.once.mem_iff.mp (List.mem_map_of_mem (List.mem_append_right _ hs))
  obtain ⟨o, ho, hbinding⟩ := List.mem_map.mp hmem
  have hid : o.id ∈ List.range' 1 h.opened.length := ha.numbers ▸ List.mem_map_of_mem ho
  rw [List.mem_range'_1] at hid
  have hsame : o.id = s.id := congrArg Binding.id hbinding
  have hnext := ha.next
  omega

/-- Sessions that are not kept are closed. -/
theorem keep (ha : Accounts h) (p : Session → Bool) : Accounts { h with
    sessions := (h.sessions.keep p).2
    closed := h.closed ++ (h.sessions.keep p).1 } where
  clients := ha.clients.sublist List.filter_sublist
  numbers := ha.numbers
  next := ha.next
  once := by
    refine .trans (.map _ ?_) ha.once
    have hsplit : (h.sessions.live.filter (fun s => !p s) ++ h.sessions.live.filter p).Perm
        h.sessions.live :=
      List.perm_append_comm.trans (List.filter_append_perm p h.sessions.live)
    rw [List.append_assoc]
    exact hsplit.append_left h.closed
  touched s hs := ha.touched s (List.mem_filter.mp hs).1

/-- A session is opened for a client that has none, with the next number. -/
theorem add (ha : Accounts h) (hnone : ∀ s ∈ h.sessions.live, s.client ≠ client) :
    Accounts { h with
      sessions := {
        live := h.sessions.live ++ [⟨h.sessions.nextId, client, backend, now⟩]
        nextId := h.sessions.nextId + 1 }
      opened := h.opened ++ [⟨h.sessions.nextId, client, backend, now⟩]
      touches := h.touches ++ [(h.sessions.nextId, now)] } where
  clients := by
    refine List.pairwise_append.mpr ⟨ha.clients, List.pairwise_singleton _ _, fun s hs s' hs' => ?_⟩
    rw [List.mem_singleton.mp hs']
    exact hnone s hs
  numbers := by
    rw [List.map_append, ha.numbers, List.length_append, List.length_singleton,
      List.range'_1_concat, ha.next, Nat.add_comm]
    rfl
  next := by rw [List.length_append, ha.next, List.length_singleton]
  once := by
    have honce := ha.once
    rw [List.map_append] at honce
    simp only [List.map_append, ← List.append_assoc]
    exact honce.append_right _
  touched := by
    intro s hs
    rw [History.lastTouch_concat (h := h) rfl]
    rcases List.mem_append.mp hs with hs | hs
    · rw [if_neg (Nat.ne_of_gt (ha.id_lt hs)), ha.touched s hs]
    · rw [List.mem_singleton.mp hs, if_pos rfl]

/-- A session is touched, if it is open. -/
theorem touch (ha : Accounts h) (id now : Nat) : Accounts { h with
    sessions := h.sessions.touch id now
    touches := h.touches ++ [(id, now)] } where
  clients := by
    have hclients : Distinct Binding.client (h.sessions.live.map Session.binding) :=
      List.pairwise_map.mpr ha.clients
    have hbindings : (h.sessions.touch id now).live.map Session.binding =
        h.sessions.live.map Session.binding := binding_touch
    rw [← hbindings] at hclients
    exact (List.pairwise_map (f := Session.binding)).mp hclients
  numbers := ha.numbers
  next := ha.next
  once := by
    rw [List.map_append, binding_touch, ← List.map_append]
    exact ha.once
  touched := by
    intro s hs
    obtain ⟨s, hmem, rfl⟩ := List.mem_map.mp hs
    rw [History.lastTouch_concat (h := h) rfl]
    by_cases hid : s.id = id
    · simp [hid]
    · simp [hid, Ne.symm hid, ha.touched s hmem]

theorem take_of_keep (ha : Accounts h) {step : Step} {p : Session → Bool}
    (htake : h.sessions.take step = h.sessions.keep p) (hopened : h.sessions.opened? step = none)
    (htouched : h.sessions.touched? step = none) : Accounts (h.take step) := by
  rw [History.take, htake, hopened, htouched, Option.toList_none, Option.toList_none,
    List.append_nil, List.append_nil]
  exact ha.keep p

/-- **A step leaves all sessions accounted for.** -/
theorem take (ha : Accounts h) (step : Step) : Accounts (h.take step) := by
  cases step with
  | openFor client backend now =>
    have hopened : h.sessions.opened? (.openFor client backend now) =
        some ⟨h.sessions.nextId, client, backend, now⟩ := by
      rw [opened?, get?_openFor, if_pos rfl]
    rw [History.take, hopened]
    exact (ha.keep (·.client ≠ client)).add fun s hs => by simpa using (List.mem_filter.mp hs).2
  | touch id now =>
    rw [History.take, opened?, Option.toList_none, List.append_nil, Sessions.take, List.append_nil]
    exact ha.touch id now
  | close client id => exact ha.take_of_keep rfl rfl rfl
  | sweep longest now => exact ha.take_of_keep rfl rfl rfl
  | closeAll => exact ha.take_of_keep rfl rfl rfl

/-! #### What follows for sessions -/

/-- No session is opened twice, and none that is closed is open. -/
theorem nodup (ha : Accounts h) :
    ((h.closed ++ h.sessions.live).map Session.binding).Nodup := by
  refine ha.once.nodup_iff.mpr (List.Nodup.of_map Binding.id ?_)
  rw [List.map_map, show Binding.id ∘ Session.binding = Session.id from rfl, ha.numbers]
  exact List.nodup_range'

theorem notMem_live_of_closed (ha : Accounts h) (hs : s ∈ h.closed) :
    s.binding ∉ h.sessions.live.map Session.binding := by
  have hnodup := ha.nodup
  rw [List.map_append] at hnodup
  exact fun hlive => List.disjoint_of_nodup_append hnodup (List.mem_map_of_mem hs) hlive

theorem opened_of_live (ha : Accounts h) (hs : s ∈ h.sessions.live) :
    s.binding ∈ h.opened.map Session.binding :=
  ha.once.mem_iff.mp (List.mem_map_of_mem (List.mem_append_right _ hs))

/-- A session that has been opened has been closed once, if it is not open. -/
theorem count_closed (ha : Accounts h) (hs : s ∈ h.opened) :
    (h.closed.map Session.binding).count s.binding =
      if s.binding ∈ h.sessions.live.map Session.binding then 0 else 1 := by
  have hmem : s.binding ∈ (h.closed ++ h.sessions.live).map Session.binding :=
    ha.once.mem_iff.mpr (List.mem_map_of_mem hs)
  have hone := List.count_eq_one_of_mem ha.nodup hmem
  rw [List.map_append, List.count_append] at hone
  split
  · next hlive =>
    have hpos := List.count_pos_iff.mpr hlive
    omega
  · next hlive =>
    have hzero := List.count_eq_zero.mpr hlive
    omega

theorem get?_eq_some (ha : Accounts h) (hs : s ∈ h.sessions.live) :
    h.sessions.get? s.client = some s :=
  ha.clients.find?_eq_some hs

/-- Closing a session that its client does not have any more does nothing. -/
theorem close_eq_self (ha : Accounts h)
    (hother : ∀ s, h.sessions.get? client = some s → s.id ≠ id) :
    h.sessions.close client id = ([], h.sessions) := by
  have hkept : ∀ s ∈ h.sessions.live, (s.client ≠ client || s.id ≠ id) = true := by
    intro s hs
    by_cases hclient : s.client = client
    · simpa [hclient] using hother s (hclient ▸ ha.get?_eq_some hs)
    · simp [hclient]
  have hclosed : h.sessions.live.filter (fun s => !(s.client ≠ client || s.id ≠ id)) = [] :=
    List.filter_eq_nil_iff.mpr fun s hs => by rw [hkept s hs]; exact Bool.false_ne_true
  rw [close, Sessions.keep, hclosed, List.filter_eq_self.mpr hkept]

theorem mem_close_iff (ha : Accounts h) (hs : s ∈ h.sessions.live) {s' : Session} :
    s' ∈ (h.sessions.close s.client s.id).1 ↔ s' = s := by
  simp only [close, Sessions.keep, List.mem_filter, ne_eq, Bool.not_or, Bool.and_eq_true,
    decide_not, Bool.not_not, decide_eq_true_eq]
  constructor
  · rintro ⟨hs', hclient, -⟩
    exact ha.clients.eq_of_mem hs' hs hclient
  · rintro rfl
    exact ⟨hs, rfl, rfl⟩

/-- An open session has been idle for too long when it is overdue. -/
theorem idle_le_iff (ha : Accounts h) (hs : s ∈ h.sessions.live) :
    s.idle now ≤ longest ↔ ¬h.Overdue s.id longest now := by
  rw [History.Overdue, ha.touched s hs, Session.idle]
  simp only [Option.mem_def, Option.some.injEq, exists_eq_left', Nat.not_lt]
  omega

end Accounts

theorem accounts_foldl {h : History} (ha : Accounts h) (steps : List Step) :
    Accounts (steps.foldl History.take h) := by
  induction steps generalizing h with
  | nil => exact ha
  | cons step steps ih => exact ih (ha.take step)

/-- **All sessions are accounted for**, whatever steps they take. -/
theorem accounts_history (steps : List Step) : Accounts (history steps) :=
  accounts_foldl .empty steps

theorem closed_isPrefix_foldl (h : History) (steps : List Step) :
    h.closed <+: (steps.foldl History.take h).closed := by
  induction steps generalizing h with
  | nil => exact List.prefix_rfl
  | cons step steps ih => exact (List.prefix_append _ _).trans (ih (h.take step))

/-- **Sessions are closed once**, whatever steps they take. The open ones have different clients,
and each is the one that its client has. Those that are opened have ever greater numbers, no greater
than how many there have been. One that has been opened has been closed if it is not open any more,
and then just once, and it is never open again. Closing a session with another number than that of
the client's does nothing, and closing that one closes it alone. A sweep closes just the sessions
that are overdue. -/
theorem closed_once (steps : List Step) :
    let h := history steps
    let t := h.sessions
    Distinct Session.client t.live ∧
    (∀ s ∈ t.live, t.get? s.client = some s ∧ s.binding ∈ h.opened.map Session.binding) ∧
    (h.opened.map (·.id)).Pairwise (· < ·) ∧ (∀ s ∈ h.opened, s.id ≤ h.opened.length) ∧
    (∀ s ∈ h.opened, (h.closed.map Session.binding).count s.binding =
      if s.binding ∈ t.live.map Session.binding then 0 else 1) ∧
    (∀ later, ∀ s ∈ h.closed,
      s.binding ∉ (history (steps ++ later)).sessions.live.map Session.binding) ∧
    (∀ client id, (∀ s, t.get? client = some s → s.id ≠ id) → t.close client id = ([], t)) ∧
    (∀ s ∈ t.live, ∀ s', s' ∈ (t.close s.client s.id).1 ↔ s' = s) ∧
    ∀ longest now s,
      (s ∈ (t.sweep longest now).1 ↔ s ∈ t.live ∧ h.Overdue s.id longest now) ∧
      (s ∈ (t.sweep longest now).2.live ↔ s ∈ t.live ∧ ¬h.Overdue s.id longest now) := by
  intro h t
  have ha : Accounts h := accounts_history steps
  refine ⟨ha.clients, fun s hs => ⟨ha.get?_eq_some hs, ha.opened_of_live hs⟩, ?_,
    fun s hs => ?_, fun s hs => ha.count_closed hs, fun later s hs => ?_,
    fun client id => ha.close_eq_self, fun s hs s' => ha.mem_close_iff hs,
    fun longest now s => ⟨?_, ?_⟩⟩
  · rw [ha.numbers]
    exact List.pairwise_lt_range'
  · have hid : s.id ∈ List.range' 1 h.opened.length := ha.numbers ▸ List.mem_map_of_mem hs
    rw [List.mem_range'_1] at hid
    omega
  · have hlater : history (steps ++ later) = later.foldl History.take h := List.foldl_append
    rw [hlater]
    exact (accounts_foldl ha later).notMem_live_of_closed
      ((closed_isPrefix_foldl h later).subset hs)
  · simp only [sweep, keep, List.mem_filter, Bool.not_eq_true', decide_eq_false_iff_not]
    exact and_congr_right fun hs => by rw [ha.idle_le_iff hs, not_not]
  · simp only [sweep, keep, List.mem_filter, decide_eq_true_eq]
    exact and_congr_right fun hs => ha.idle_le_iff hs

/-- A client has a second session in place of its first one. Closing the first one late leaves the
second alone, which is overdue one moment after it could still be kept; then only the session of
another client is open. -/
theorem closed_once_of_stale_close :
    let client : SocketAddress := ⟨.v4 #v[10, 0, 0, 1], 5000⟩
    let other : SocketAddress := ⟨.v4 #v[10, 0, 0, 2], 5000⟩
    let backend : SocketAddress := ⟨.v4 #v[172, 18, 0, 2], 19132⟩
    let steps := [.openFor client backend 0, .openFor client backend 5, .touch 2 50,
      .openFor other backend 60]
    let h := history steps
    let t := h.sessions
    let second : Session := ⟨2, client, backend, 50⟩
    (∀ s, t.get? client = some s → s.id ≠ 1) ∧ t.close client 1 = ([], t) ∧
      h.closed = [⟨1, client, backend, 0⟩] ∧ second ∈ t.live ∧
      second ∈ (t.sweep 100 150).2.live ∧ second ∈ (t.sweep 100 151).1 ∧
      (history (steps ++ [.close client 1, .sweep 100 151])).sessions.live =
        [⟨3, other, backend, 60⟩] := by
  intro client other backend steps h t second
  have hsecond : t.get? client = some second := by decide +kernel
  have hother : ∀ s, t.get? client = some s → s.id ≠ 1 := by
    intro s hs
    rw [← Option.some.inj (hsecond.symm.trans hs)]
    decide
  have hlive : second ∈ t.live := by decide +kernel
  have hlast : h.lastTouch 2 = some 50 := by decide +kernel
  have honce := closed_once steps
  have hsweep := fun now => honce.2.2.2.2.2.2.2.2 100 now second
  refine ⟨hother, honce.2.2.2.2.2.2.1 client 1 hother, by decide +kernel, hlive, ?_, ?_,
    by decide +kernel⟩
  · refine (hsweep 150).2.mpr ⟨hlive, ?_⟩
    rintro ⟨last, hlast', hlt⟩
    obtain rfl := Option.some.inj (hlast.symm.trans hlast')
    exact absurd hlt (by decide)
  · exact (hsweep 151).1.mpr ⟨hlive, 50, hlast, by decide⟩

end Sessions

end GameGateway.Relay
