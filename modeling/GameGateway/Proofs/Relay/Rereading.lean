import GameGateway.Proofs.Relay.Takeover

/-!
# Serving what has been read ahead

A connection that stays with HTTP is served from a replay: first what has been read ahead of it,
then what still comes in. The run takes what has been read ahead at once, whereas whoever serves the
connection asks the replay for as many bytes at a time as it likes. That makes no difference to
what is done, then or later (`effects_replayed`).

The reason is that a turn of the bytes that wait is the same turn when more bytes wait behind them,
or else goes on with those (`takeAhead_hear`). It holds as long as no backend has taken the
connection: from then on the pieces of a request's body are passed on as they come.
-/

namespace GameGateway

open Wire (Byte)

/-! ### More bytes behind those that wait -/

namespace Http.Serving

variable {routes : Route.Table} {peer : IpAddress} {s t : Serving} {effects : List Relay.Effect}
  {more : List Byte}

/-- The same connection with more bytes that wait. -/
def hear (more : List Byte) (s : Serving) : Serving :=
  { s with ahead := s.ahead ++ more }

@[simp]
theorem hear_nil : s.hear [] = s := by
  simp [hear]

@[simp]
theorem hear_hear (xs ys : List Byte) : (s.hear xs).hear ys = s.hear (xs ++ ys) := by
  simp [hear]

/-- Whether no backend **has a part** in a connection yet. -/
def Unengaged (s : Serving) : Prop :=
  match s.phase with
  | .exchanging _ | .piping _ => False
  | .awaiting | .dialing _ | .skipping _ _ | .closed => True

/-- What follows a response does not look at the bytes that wait. -/
theorem hear_behindResponse (request : Option Body.Reader) (keepAlive : Bool) :
    (s.hear more).behindResponse request keepAlive =
      ((s.behindResponse request keepAlive).1.hear more,
        (s.behindResponse request keepAlive).2) := by
  cases keepAlive with
  | true =>
    cases request with
    | none | some => rfl
  | false => rfl

theorem hear_refuse (m : Manner) (request : Option Body.Reader) :
    (s.hear more).refuse m request =
      ((s.refuse m request).1.hear more, (s.refuse m request).2) := by
  rw [refuse, hear_behindResponse]
  rfl

/-- Behind a response a backend has no part any more. -/
theorem unengaged_behindResponse (request : Option Body.Reader) (keepAlive : Bool) :
    (s.behindResponse request keepAlive).1.Unengaged := by
  cases keepAlive with
  | true =>
    cases request with
    | none | some => trivial
  | false => trivial

/-- The turn of a head is the same with more bytes behind it, unless there are too many for a
head. -/
theorem takeHead_hear (hlength : (s.ahead ++ more).length ≤ maxHead)
    (h : s.takeHead routes peer = some (t, effects)) :
    t.Unengaged ∧ (s.hear more).takeHead routes peer = some (t.hear more, effects) := by
  have hstable := Head.stable_scan s.ahead more
  rw [takeHead] at h ⊢
  cases hscan : Head.scan s.ahead with
  | incomplete =>
    have hshort : ¬ maxHead < s.ahead.length := by
      rw [List.length_append] at hlength
      omega
    simp only [hscan, if_neg hshort] at h
    cases h
  | malformed cause =>
    have hmore : Head.scan (s.hear more).ahead = .malformed cause :=
      (hstable (by simp [hscan])).trans (by rw [hscan]; rfl)
    rw [hscan] at h
    cases h
    exact ⟨trivial, by rw [hmore]; rfl⟩
  | complete head rest =>
    have hmore : Head.scan (s.hear more).ahead = .complete head (rest ++ more) :=
      (hstable (by simp [hscan])).trans (by rw [hscan]; rfl)
    simp only [hscan] at h
    simp only [hmore]
    split at h
    · cases h
      exact ⟨trivial, rfl⟩
    · split at h
      · cases h
        refine ⟨unengaged_behindResponse .., congrArg some ?_⟩
        exact hear_refuse (s := { s with ahead := rest }) _ _
      · cases h
        exact ⟨trivial, rfl⟩

/-- Connections are **alike** when nothing that befalls them can tell them apart: they are the same,
or have been given up. -/
def Alike (s t : Serving) : Prop :=
  s = t ∨ s.phase = .closed ∧ t.phase = .closed

/-- Where bytes are not all of a request's rest, those behind them go on with it. -/
theorem skip_append {reader onward : Body.Reader} {bytes payload : List Byte} {keepAlive : Bool}
    (hfed : reader.feed bytes = .more onward payload) :
    (skip (bytes ++ more) reader keepAlive).1.Alike (skip more onward keepAlive).1 ∧
      (skip (bytes ++ more) reader keepAlive).2 = (skip more onward keepAlive).2 := by
  rw [skip, skip, reader.feed_append, hfed, Body.Fed.extend]
  cases onward.feed more with
  | malformed => exact ⟨.inr ⟨rfl, rfl⟩, rfl⟩
  | more | done => exact ⟨.inl rfl, rfl⟩

/-- A turn **goes on** with more bytes: it is the same turn with these behind those that it takes,
or it takes all that there is and does nothing, and what is left of it is the turn of the further
bytes. -/
def GoesOn (routes : Route.Table) (peer : IpAddress) (more : List Byte) (s t : Serving)
    (effects : List Relay.Effect) : Prop :=
  (s.hear more).takeAhead routes peer = some (t.hear more, effects) ∨
    effects = [] ∧ t.takeAhead routes peer = none ∧ ∃ one other : Result,
      (s.hear more).takeAhead routes peer = some one ∧
      (t.hear more).takeAhead routes peer = some other ∧
      one.1.Alike other.1 ∧ one.2 = other.2

/-- The turn of a request's rest goes on. -/
theorem goesOn_skip {reader : Body.Reader} {bytes : List Byte} {keepAlive : Bool}
    (hwait : bytes ≠ []) :
    (skip bytes reader keepAlive).1.Unengaged ∧
      GoesOn routes peer more ⟨.skipping reader keepAlive, bytes⟩ (skip bytes reader keepAlive).1
        (skip bytes reader keepAlive).2 := by
  have hturn : (hear more ⟨.skipping reader keepAlive, bytes⟩).takeAhead routes peer =
      some (skip (bytes ++ more) reader keepAlive) :=
    takeAhead_skipping (List.append_ne_nil_of_left_ne_nil hwait more)
  rw [GoesOn, hturn]
  cases hfed : reader.feed bytes with
  | malformed =>
    rw [skip, skip, reader.feed_append, hfed]
    exact ⟨trivial, .inl rfl⟩
  | done payload rest =>
    rw [skip, skip, reader.feed_append, hfed]
    refine ⟨unengaged_behindResponse .., .inl (congrArg some ?_)⟩
    exact hear_behindResponse (s := ⟨.awaiting, rest⟩) _ _
  | more onward payload =>
    have hskip : skip bytes reader keepAlive = (⟨.skipping onward keepAlive, []⟩, []) := by
      rw [skip, hfed]
    refine ⟨hskip ▸ trivial, ?_⟩
    obtain rfl | hnil := eq_or_ne more []
    · rw [List.append_nil, hear_nil]
      exact .inl rfl
    · rw [hskip]
      exact .inr ⟨rfl, rfl, _, _, rfl, takeAhead_skipping hnil, skip_append hfed⟩

/-- **Every turn goes on**, as long as there are not too many bytes for a head. -/
theorem takeAhead_hear (hs : s.Unengaged) (hlength : (s.ahead ++ more).length ≤ maxHead)
    (h : s.takeAhead routes peer = some (t, effects)) :
    t.Unengaged ∧ s.GoesOn routes peer more t effects := by
  have hwait := ne_nil_of_takeAhead h
  obtain ⟨phase, ahead⟩ := s
  cases phase with
  | awaiting =>
    rw [takeAhead, if_neg (by simpa using hwait)] at h
    obtain ⟨ht, hturn⟩ := takeHead_hear hlength h
    refine ⟨ht, .inl ?_⟩
    rw [takeAhead, if_neg (by simpa [hear] using List.append_ne_nil_of_left_ne_nil hwait more)]
    exact hturn
  | skipping reader keepAlive =>
    rw [takeAhead_skipping hwait, Option.some_inj] at h
    obtain ⟨rfl, rfl⟩ := Prod.ext_iff.mp h
    exact goesOn_skip hwait
  | exchanging | piping => exact hs.elim
  | dialing | closed =>
    rw [takeAhead, if_neg (by simpa using hwait)] at h
    cases h

end Http.Serving

/-! ### Serving on -/

namespace Relay.Connection

open Http (Serving Replay Head)

variable {routes : Route.Table} {peer : IpAddress} {s t : Serving} {effects : List Effect}
  {more : List Byte} {later : List Signal}

/-- What is **done** on a connection whose waiting bytes have their turns before signals befall
it. -/
def doneBy (routes : Route.Table) (peer : IpAddress) (s : Serving) (later : List Signal) :
    List Effect :=
  (s.proceed routes peer).2 ++
    (runFrom routes peer (.serving (s.proceed routes peer).1) later).2

theorem doneBy_of_none (h : s.takeAhead routes peer = none) :
    doneBy routes peer s later = (runFrom routes peer (.serving s) later).2 := by
  rw [doneBy, Serving.proceed_of_none h, List.nil_append]

/-- What is done is what the first turn does, and then what is done behind it. -/
theorem doneBy_of_turn (h : s.takeAhead routes peer = some (t, effects)) :
    doneBy routes peer s later = effects ++ doneBy routes peer t later := by
  rw [doneBy, Serving.proceed_of_turn h, List.append_assoc, doneBy]

theorem takeAhead_closed (h : s.phase = .closed) : s.takeAhead routes peer = none := by
  rw [Serving.takeAhead, h]
  split <;> rfl

/-- Nothing is done any more on a connection that has been given up. -/
theorem effects_closed (h : s.phase = .closed) :
    (runFrom routes peer (.serving s) later).2 = [] := by
  induction later with
  | nil => rfl
  | cons signal later ih =>
    have hreact : s.react signal = (s, []) := by
      obtain ⟨phase, ahead⟩ := s
      obtain rfl : phase = .closed := h
      rfl
    simp [runFrom, step, Serving.step, hreact, Serving.proceed_of_none (takeAhead_closed h), ih]

/-- On connections that are alike the same is done. -/
theorem doneBy_congr (h : s.Alike t) :
    doneBy routes peer s later = doneBy routes peer t later := by
  obtain rfl | ⟨hs, ht⟩ := h
  · rfl
  · rw [doneBy_of_none (takeAhead_closed hs), doneBy_of_none (takeAhead_closed ht),
      effects_closed hs, effects_closed ht]

/-- **Bytes may come later**: it makes no difference whether they wait behind others from the first,
or come when those have had their turns. -/
theorem doneBy_hear (hs : s.Unengaged) (hlength : (s.ahead ++ more).length ≤ Serving.maxHead) :
    doneBy routes peer (s.hear more) later =
      (s.proceed routes peer).2 ++
        doneBy routes peer ((s.proceed routes peer).1.hear more) later := by
  induction s using Serving.turn_induction routes peer with
  | rest s hrest => rw [Serving.proceed_of_none hrest, List.nil_append]
  | turn s t effects hturn ih =>
    have hshorter := Serving.length_ahead_le hturn
    obtain ⟨ht, hsame | ⟨rfl, hrest, one, other, hone, hother, halike, heffects⟩⟩ :=
      Serving.takeAhead_hear hs hlength hturn
    · have hlater := ih ht (by simp only [List.length_append] at hlength ⊢; omega)
      rw [doneBy_of_turn hsame, hlater, Serving.proceed_of_turn hturn, List.append_assoc]
    · rw [Serving.proceed_of_turn hturn, Serving.proceed_of_none hrest, doneBy_of_turn hone,
        doneBy_of_turn hother, doneBy_congr halike, heffects]
      rfl

/-- The bytes of a client alone give no backend a part in its connection. -/
theorem unengaged_proceed (hs : s.Unengaged) (hlength : s.ahead.length ≤ Serving.maxHead) :
    (s.proceed routes peer).1.Unengaged ∧
      (s.proceed routes peer).1.ahead.length ≤ s.ahead.length := by
  induction s using Serving.turn_induction routes peer with
  | rest s hrest => exact Serving.proceed_of_none hrest ▸ ⟨hs, Nat.le_refl _⟩
  | turn s t effects hturn ih =>
    have hshorter := Serving.length_ahead_le hturn
    have hnothing : (s.ahead ++ []).length ≤ Serving.maxHead := by simpa using hlength
    obtain ⟨ht, -⟩ := Serving.takeAhead_hear hs hnothing hturn
    obtain ⟨hproceed, hle⟩ := ih ht (hshorter.trans hlength)
    rw [Serving.proceed_of_turn hturn]
    exact ⟨hproceed, hle.trans hshorter⟩

theorem react_received (hs : s.Unengaged) (hopen : s.phase ≠ .closed) (bytes : List Byte) :
    s.react (.received .client bytes) = (s.hear bytes, []) := by
  obtain ⟨phase, ahead⟩ := s
  cases phase with
  | awaiting | dialing | skipping => rfl
  | exchanging | piping => exact hs.elim
  | closed => exact absurd rfl hopen

/-- **What comes in pieces is served as if it came at once**, as long as no backend has a part in
it. -/
theorem effects_spoken {reads : List (List Byte)} (hs : s.Unengaged)
    (hrest : s.takeAhead routes peer = none)
    (hlength : (s.ahead ++ reads.flatten).length ≤ Serving.maxHead) :
    (runFrom routes peer (.serving s) (spoken reads ++ later)).2 =
      doneBy routes peer (s.hear reads.flatten) later := by
  induction reads generalizing s with
  | nil =>
    rw [List.flatten_nil, Serving.hear_nil, doneBy_of_none hrest]
    rfl
  | cons piece reads ih =>
    by_cases hopen : s.phase = .closed
    · have hheard : (s.hear (piece :: reads).flatten).phase = .closed := hopen
      rw [effects_closed hopen, doneBy_of_none (takeAhead_closed hheard), effects_closed hheard]
    · have hheard : ((s.hear piece).ahead ++ reads.flatten).length ≤ Serving.maxHead := by
        simpa [Serving.hear] using hlength
      have hfirst : (s.hear piece).ahead.length ≤ Serving.maxHead := by
        rw [List.length_append] at hheard
        omega
      obtain ⟨hnext, hle⟩ : ((s.hear piece).proceed routes peer).1.Unengaged ∧ _ :=
        unengaged_proceed hs hfirst
      have hstep : s.step routes peer (.received .client piece) =
          (s.hear piece).proceed routes peer := by
        rw [Serving.step, react_received hs hopen]
        rfl
      have hlater := ih (s := ((s.hear piece).proceed routes peer).1) hnext
        Serving.takeAhead_proceed (by simp only [List.length_append] at hheard ⊢; omega)
      rw [List.flatten_cons, ← Serving.hear_hear, doneBy_hear (s := s.hear piece) hs hheard,
        ← hlater, ← hstep]
      rfl

/-! ### Serving from a replay -/

/-- **It makes no difference how a replay is read.** A connection is served as if all that has been
read ahead of it were there at once: the reads that give it, however many they are and whatever
their sizes, lead to the same effects, and so does whatever comes behind them. -/
theorem effects_replayed {r : Replay} {sizes : List Nat}
    (hread : (r.readAll sizes).2 = { r with ahead := [] })
    (hlength : r.ahead.length ≤ Serving.maxHead) (later : List Signal) :
    let start := Serving.start routes peer r.ahead
    (runFrom routes peer (.serving {}) (spoken (r.readAll sizes).1 ++ later)).2 =
      start.2 ++ (runFrom routes peer (.serving start.1) later).2 := by
  have hahead : (r.readAll sizes).1.flatten = r.ahead := by
    have hbytes := Replay.readAll_bytes sizes r
    rw [hread, Replay.bytes, Replay.bytes, List.nil_append] at hbytes
    exact List.append_cancel_right hbytes
  rw [effects_spoken (s := {}) trivial rfl (by simpa [hahead] using hlength), hahead]
  rfl

-- Reads that give what has been read ahead, and nothing of what still comes in.
example : Replay.readAll [2, 2] ⟨[1, 2, 3], [[4]]⟩ = ([[1, 2], [3]], ⟨[], [[4]]⟩) := by decide

/-- **A connection that stays with HTTP is served from a replay** of what has been read to tell its
head: whatever then befalls it, the effects are those of serving what the replay gives, read by
read. -/
theorem Told.served_replayed {h : Head} {told pieces : List (List Byte)} {sizes : List Nat}
    (htold : Told routes peer h told) (hplain : h.opening routes = .plain)
    (hlength : told.flatten.length ≤ Serving.maxHead)
    (hread : (Replay.readAll sizes ⟨told.flatten, pieces⟩).2 = ⟨[], pieces⟩)
    (later : List Signal) :
    (run .http routes peer (spoken told ++ later)).2 =
      (runFrom routes peer (.serving {})
        (spoken (Replay.readAll sizes ⟨told.flatten, pieces⟩).1 ++ later)).2 := by
  rw [htold.served hplain later, Connection.effects_replayed hread hlength]

end Relay.Connection

end GameGateway
