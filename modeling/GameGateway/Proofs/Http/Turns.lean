import GameGateway.Http.Serving

/-!
# Taking turns with the bytes that wait

Where requests are served, bytes of the client may have to wait: for a backend to take the
connection, or for a response to be over. When their **turn** comes, a head is read off their front,
or a piece of a body, and that may make the next turn possible. Turns come to an end, since each of
them leaves fewer bytes or is the last that these bytes can have (`turnsLeft_lt`); so
`Serving.proceed`, which takes a number of turns that it reckons beforehand, takes all that are
possible (`takeAhead_proceed`), and what it does is one turn and then the others
(`proceed_of_turn`).
-/

namespace GameGateway.Http

open Wire (Byte)

/-! ### What a scanner consumes -/

namespace Scanner

variable {α β : Type} {scan other : Scanner α} {m n : Nat}

/-- Whether a scanner that is complete has read a number of bytes, or more. -/
def Consumes (n : Nat) (scan : Scanner α) : Prop :=
  ∀ bytes a rest, scan bytes = .complete a rest → rest.length + n ≤ bytes.length

/-- What has read so many bytes has read fewer. -/
theorem Consumes.mono (h : Consumes n scan) (hle : m ≤ n) : Consumes m scan :=
  fun bytes a rest hscan => Nat.le_trans (Nat.add_le_add_left hle _) (h bytes a rest hscan)

theorem Consumes.pure (a : α) : Consumes 0 (Pure.pure a : Scanner α) := by
  rintro bytes _ _ ⟨⟩
  exact Nat.le_refl _

theorem Consumes.refuse (cause : HeadError) : Consumes n (Scanner.refuse cause : Scanner α) :=
  nofun

/-- What two scanners consume one after the other is the sum. -/
theorem Consumes.bind {next : α → Scanner β} (h : Consumes m scan)
    (hnext : ∀ a, Consumes n (next a)) : Consumes (m + n) (scan >>= next) := by
  intro bytes b rest hscan
  change Scanner.bind scan next bytes = _ at hscan
  unfold Scanner.bind at hscan
  cases hfirst : scan bytes with
  | incomplete => simp [hfirst] at hscan
  | malformed cause => simp [hfirst] at hscan
  | complete a between =>
    rw [hfirst] at hscan
    have hone := h bytes a between hfirst
    have htwo := hnext a between b rest hscan
    omega

theorem Consumes.ite {c : Prop} [Decidable c] (h : Consumes n scan) (hother : Consumes n other) :
    Consumes n (if c then scan else other) := by
  split
  · exact h
  · exact hother

/-- A scanner gets on by the byte that it takes. -/
theorem Consumes.next : Consumes 1 next := by
  rintro (_ | ⟨b, bytes⟩) a rest hscan
  · cases hscan
  · cases hscan
    exact Nat.le_refl _

/-- To look at a byte is not to take it. -/
theorem Consumes.peek : Consumes 0 peek := by
  rintro (_ | ⟨b, bytes⟩) a rest hscan
  · cases hscan
  · cases hscan
    exact Nat.le_refl _

/-- A scanner of a class of bytes may find none. -/
theorem Consumes.span (p : Byte → Bool) : Consumes 0 (span p) := by
  intro bytes a rest hscan
  have hle := (List.dropWhile_suffix (l := bytes) p).length_le
  unfold Scanner.span at hscan
  cases hdrop : bytes.dropWhile p with
  | nil => simp [hdrop] at hscan
  | cons b left =>
    simp only [hdrop, Scanned.complete.injEq] at hscan
    rwa [hdrop, hscan.2] at hle

theorem Consumes.expect (b : Byte) (cause : HeadError) : Consumes 1 (expect b cause) :=
  Consumes.next.bind fun _ => (Consumes.refuse cause).ite (Consumes.pure ())

theorem Consumes.expectAll (cause : HeadError) (bytes : List Byte) :
    Consumes 0 (expectAll cause bytes) := by
  induction bytes with
  | nil => exact Consumes.pure ()
  | cons b bytes ih => exact ((Consumes.expect b cause).bind fun _ => ih).mono (Nat.zero_le _)

end Scanner

namespace Head

open Scanner (Consumes)

/-- There may be no empty line to skip. -/
theorem consumes_skipEmptyLines : Consumes 0 skipEmptyLines := by
  intro bytes a rest hscan
  fun_induction skipEmptyLines bytes with
  | case1 => cases hscan
  | case2 bytes ih => exact Nat.le_succ_of_le (ih hscan)
  | case3 => cases hscan
  | case4 bytes _ ih => exact Nat.le_succ_of_le (Nat.le_succ_of_le (ih hscan))
  | case5 => cases hscan
  | case6 =>
    cases hscan
    exact Nat.le_refl _

theorem consumes_lineEnd (cause : HeadError) : Consumes 0 (lineEnd cause) := by
  refine (Consumes.next.bind (n := 0) fun b => ?_).mono (Nat.zero_le _)
  split
  · exact (Consumes.expect _ _).mono (Nat.zero_le _)
  · exact Consumes.pure ()
  · exact Consumes.refuse cause

/-- A word ends in a blank, so it is never empty. -/
theorem consumes_word (p : Byte → Bool) : Consumes 1 (word p) :=
  ((Consumes.span p).bind fun _ =>
    (Consumes.refuse _).ite ((Consumes.expect _ _).bind fun _ => Consumes.pure _)).mono
      (Nat.le_refl _)

theorem consumes_version : Consumes 0 version := by
  refine ((Consumes.expectAll _ _).bind fun _ =>
    Consumes.next.bind (n := 0) fun b => ?_).mono (Nat.zero_le _)
  split
  · exact Consumes.pure 0
  · exact Consumes.pure 1
  · exact Consumes.refuse _

/-- Reading a field leaves no more bytes than there were. -/
theorem consumes_field : Consumes 0 field :=
  ((Consumes.span _).bind fun _ => (Consumes.expect _ _).bind fun _ =>
    (Consumes.span _).bind fun _ => (Consumes.span _).bind fun _ =>
      (consumes_lineEnd _).bind fun _ => Consumes.pure _).mono (Nat.zero_le _)

theorem consumes_endOr {next : Scanner Fields} (h : Consumes 0 next) : Consumes 0 (endOr next) :=
  Consumes.peek.bind fun _ =>
    ((consumes_lineEnd _).bind fun _ => Consumes.pure _).ite (h.ite (Consumes.refuse _))

/-- For what follows, a head is known to have a byte by its method already, so that its fields need
not be counted. -/
theorem consumes_fieldLines (most : Nat) : Consumes 0 (fieldLines most) := by
  induction most with
  | zero => exact consumes_endOr (Consumes.refuse _)
  | succ most ih =>
    exact consumes_endOr (consumes_field.bind fun _ => ih.bind fun _ => Consumes.pure _)

/-- **A head has at least one byte.** -/
theorem consumes_scan : Consumes 1 scan :=
  (consumes_skipEmptyLines.bind fun _ => (consumes_word _).bind fun _ =>
    (consumes_word _).bind fun _ => consumes_version.bind fun _ =>
      (consumes_lineEnd _).bind fun _ => (consumes_fieldLines _).bind fun _ =>
        Consumes.pure _).mono (by decide)

end Head

/-! ### Bodies that come in pieces -/

namespace Body

/-- The same with more payload in front. -/
def Fed.behind (front : List Byte) : Fed → Fed
  | .more reader payload => .more reader (front ++ payload)
  | .done payload rest => .done (front ++ payload) rest
  | .malformed => .malformed

/-- What it becomes with further bytes: a body in progress goes on with them, and behind one that is
complete they stay. -/
def Fed.extend (bytes : List Byte) : Fed → Fed
  | .more reader payload => (reader.feed bytes).behind payload
  | .done payload rest => .done payload (rest ++ bytes)
  | .malformed => .malformed

/-- Payload that is already there does not change how a body goes on. -/
theorem Fed.extend_cons (b : Byte) (bytes : List Byte) (fed : Fed) :
    (fed.cons b).extend bytes = (fed.extend bytes).cons b := by
  cases fed with
  | more reader payload =>
    rw [Fed.cons, Fed.extend, Fed.extend]
    cases reader.feed bytes with
    | more | done | malformed => rfl
  | done | malformed => rfl

/-- A body in chunks may be cut anywhere, within a chunk's size as well as within its data. -/
theorem feedChunks_append (state : Chunked) (xs ys : List Byte) :
    feedChunks state (xs ++ ys) = (feedChunks state xs).extend ys := by
  induction xs generalizing state with
  | nil =>
    rw [List.nil_append, feedChunks, Fed.extend, Reader.feed]
    cases feedChunks state ys with
    | more | done | malformed => rfl
  | cons b xs ih =>
    rw [List.cons_append, feedChunks, feedChunks]
    cases state.take b with
    | more state => exact ih state
    | payload state => exact (congrArg (Fed.cons b) (ih state)).trans (Fed.extend_cons ..).symm
    | done | malformed => rfl

/-- **A body may come in pieces**: reading one piece and going on with the next is reading both at
once. -/
theorem Reader.feed_append (reader : Reader) (xs ys : List Byte) :
    reader.feed (xs ++ ys) = (reader.feed xs).extend ys := by
  cases reader with
  | sized missing =>
    rw [feed, feed, List.length_append]
    by_cases hxs : xs.length < missing
    · rw [if_pos hxs, Fed.extend, feed]
      by_cases hys : ys.length < missing - xs.length
      · rw [if_pos (by omega), if_pos hys, Fed.behind, Nat.sub_sub]
      · rw [if_neg (by omega), if_neg hys, Fed.behind, List.take_append, List.drop_append,
          List.take_of_length_le (Nat.le_of_lt hxs), List.drop_of_length_le (Nat.le_of_lt hxs),
          List.nil_append]
    · rw [if_neg (by omega), if_neg hxs, Fed.extend, List.take_append_of_le_length (by omega),
        List.drop_append_of_le_length (by omega)]
  | chunked state => exact feedChunks_append state xs ys
  | untilEnd => rfl

/-- The bytes behind a body in chunks are among those that were given. -/
theorem feedChunks_done {state : Chunked} {bytes payload rest : List Byte}
    (h : feedChunks state bytes = .done payload rest) : rest.length ≤ bytes.length := by
  fun_induction feedChunks state bytes generalizing payload with
  | case1 => cases h
  | case2 state b bytes next htake ih => exact Nat.le_succ_of_le (ih h)
  | case3 state b bytes next htake ih =>
    cases hfed : feedChunks next bytes with
    | done payload rest =>
      rw [hfed] at h
      cases h
      exact Nat.le_succ_of_le (ih hfed)
    | more | malformed =>
      rw [hfed] at h
      cases h
  | case4 =>
    cases h
    exact Nat.le_succ _
  | case5 => cases h

/-- The bytes behind a body are among those that were given. -/
theorem Reader.length_rest_le {reader : Reader} {bytes payload rest : List Byte}
    (h : reader.feed bytes = .done payload rest) : rest.length ≤ bytes.length := by
  cases reader with
  | sized missing =>
    rw [feed] at h
    split at h
    · cases h
    · cases h
      exact (List.drop_suffix ..).length_le
  | chunked state => exact feedChunks_done h
  | untilEnd => cases h

end Body

/-! ### Turns -/

namespace Serving

variable {routes : Route.Table} {peer : IpAddress} {s t : Serving} {effects : List Relay.Effect}

/-- Only bytes that wait can have a turn. -/
theorem ne_nil_of_takeAhead (h : s.takeAhead routes peer = some (t, effects)) : s.ahead ≠ [] := by
  rintro hempty
  rw [takeAhead, hempty] at h
  cases h

/-- How many turns the phase of a connection is good for by itself: none where bytes have to wait,
and one more where the rest of a request comes before the next. -/
def Phase.turns : Phase → Nat
  | .dialing _ | .piping _ | .closed => 0
  | .awaiting => 1
  | .exchanging e => if e.request.isSome then 2 else 0
  | .skipping _ _ => 2

/-- A number that each turn makes **smaller**: every byte that waits is good for two turns, as the
byte of a head and as one of the rest of a request. -/
def turnsLeft (s : Serving) : Nat :=
  2 * s.ahead.length + s.phase.turns

/-- Behind a response there is the rest of its request, or the next request. -/
theorem turnsLeft_behindResponse (request : Option Body.Reader) (keepAlive : Bool) :
    (s.behindResponse request keepAlive).1.turnsLeft ≤
      2 * s.ahead.length + if request.isSome then 2 else 1 := by
  cases keepAlive with
  | true =>
    cases request with
    | none | some => exact Nat.le_refl _
  | false => exact Nat.add_le_add_left (Nat.zero_le _) _

/-- When all of a request has been read, its exchange has no more turns. -/
theorem turnsLeft_settle {e : Exchange} (hrequest : e.request = none) :
    (s.settle e).1.turnsLeft ≤ 2 * s.ahead.length + 1 := by
  cases hresponse : e.response with
  | head | body =>
    simp [settle, hresponse, turnsLeft, Phase.turns, hrequest]
  | complete keepAlive =>
    have hbehind := turnsLeft_behindResponse (s := s) none keepAlive
    simpa [settle, hresponse, hrequest] using hbehind

/-- A head takes one byte at least, which is good for two turns. -/
theorem turnsLeft_takeHead (h : s.takeHead routes peer = some (t, effects)) :
    t.turnsLeft ≤ 2 * s.ahead.length := by
  rw [takeHead] at h
  cases hscan : Head.scan s.ahead with
  | incomplete =>
    simp only [hscan] at h
    split at h
    · cases h
      exact Nat.le_refl _
    · cases h
  | malformed cause =>
    rw [hscan] at h
    cases h
    exact Nat.le_refl _
  | complete head rest =>
    have hlength : rest.length + 1 ≤ s.ahead.length := Head.consumes_scan _ _ _ hscan
    simp only [hscan] at h
    split at h
    · cases h
      simp only [turnsLeft, Phase.turns]
      omega
    · next framing _ =>
      split at h
      · cases h
        have hbehind := turnsLeft_behindResponse (s := { s with ahead := rest })
          (bodyReader framing) (Manner.ofHead head).keepAlive
        refine Nat.le_trans hbehind ?_
        split <;> simp only <;> omega
      · cases h
        simp only [turnsLeft, Phase.turns]
        omega

/-- A piece of a body takes all bytes that wait, or is the last one. -/
theorem turnsLeft_takeBody {e : Exchange} {reader : Body.Reader} (hwait : s.ahead ≠ []) :
    (s.takeBody e reader).1.turnsLeft < 2 * s.ahead.length + 2 := by
  have hpos := List.length_pos_iff.2 hwait
  rw [takeBody]
  cases hfed : reader.feed s.ahead with
  | malformed =>
    simp only [turnsLeft, leave, Phase.turns]
    omega
  | more reader payload =>
    simp only [turnsLeft, Phase.turns, List.length_nil, Option.isSome_some, if_true]
    omega
  | done payload rest =>
    have hle : rest.length ≤ s.ahead.length := Body.Reader.length_rest_le hfed
    have hsettle := turnsLeft_settle (s := { s with ahead := rest })
      (e := { e with request := none }) rfl
    simp only at hsettle ⊢
    omega

/-- What comes of the rest of a request that has been answered when bytes of it come in. -/
def skip (bytes : List Byte) (reader : Body.Reader) (keepAlive : Bool) : Result :=
  match reader.feed bytes with
  | .malformed => (⟨.closed, bytes⟩, [.close])
  | .more reader _ => (⟨.skipping reader keepAlive, []⟩, [])
  | .done _ rest => behindResponse ⟨.awaiting, rest⟩ none keepAlive

theorem takeAhead_skipping {reader : Body.Reader} {keepAlive : Bool} {bytes : List Byte}
    (hwait : bytes ≠ []) :
    takeAhead ⟨.skipping reader keepAlive, bytes⟩ routes peer =
      some (skip bytes reader keepAlive) := by
  have hempty : bytes.isEmpty = false := by simpa using hwait
  simp only [takeAhead, skip, hempty, Bool.false_eq_true, if_false]
  cases reader.feed bytes with
  | malformed | more | done => rfl

theorem turnsLeft_skip {reader : Body.Reader} {keepAlive : Bool} {bytes : List Byte}
    (hwait : bytes ≠ []) : (skip bytes reader keepAlive).1.turnsLeft < 2 * bytes.length + 2 := by
  have hpos := List.length_pos_iff.2 hwait
  rw [skip]
  cases hfed : reader.feed bytes with
  | malformed =>
    simp only [turnsLeft, Phase.turns]
    omega
  | more reader payload =>
    simp only [turnsLeft, Phase.turns, List.length_nil]
    omega
  | done payload rest =>
    have hle : rest.length ≤ bytes.length := Body.Reader.length_rest_le hfed
    refine Nat.lt_of_le_of_lt (turnsLeft_behindResponse none keepAlive) ?_
    simp only [Option.isSome_none, Bool.false_eq_true, if_false]
    omega

/-- **Each turn makes the number of turns smaller.** -/
theorem turnsLeft_lt (h : s.takeAhead routes peer = some (t, effects)) :
    t.turnsLeft < s.turnsLeft := by
  have hwait := ne_nil_of_takeAhead h
  obtain ⟨phase, ahead⟩ := s
  have hempty : ahead.isEmpty = false := by simpa using hwait
  cases phase with
  | awaiting =>
    rw [takeAhead, hempty] at h
    exact Nat.lt_succ_of_le (turnsLeft_takeHead h)
  | exchanging e =>
    rw [takeAhead, hempty] at h
    obtain ⟨reader, hreader, htake⟩ := Option.map_eq_some_iff.1 h
    have hlt : (takeBody ⟨.exchanging e, ahead⟩ e reader).1.turnsLeft < 2 * ahead.length + 2 :=
      turnsLeft_takeBody hwait
    rw [htake] at hlt
    simpa [turnsLeft, Phase.turns, hreader] using hlt
  | skipping reader keepAlive =>
    rw [takeAhead_skipping hwait] at h
    have hlt : (skip ahead reader keepAlive).1.turnsLeft < 2 * ahead.length + 2 :=
      turnsLeft_skip hwait
    rwa [Option.some.inj h] at hlt
  | dialing | piping | closed =>
    rw [takeAhead, hempty] at h
    cases h

/-- The number of turns that `Serving.proceed` reckons with is enough. -/
theorem turnsLeft_le (s : Serving) : s.turnsLeft ≤ 2 * s.ahead.length + 2 := by
  refine Nat.add_le_add_left ?_ _
  cases s.phase with
  | exchanging e =>
    rw [Phase.turns]
    split <;> omega
  | awaiting | dialing | skipping | piping | closed => simp [Phase.turns]

/-- **Induction on turns**: what holds where no turn is possible, and before each turn if it holds
behind it, always holds. -/
theorem turn_induction (routes : Route.Table) (peer : IpAddress) {motive : Serving → Prop}
    (rest : ∀ s, s.takeAhead routes peer = none → motive s)
    (turn : ∀ s t effects, s.takeAhead routes peer = some (t, effects) → motive t → motive s)
    (s : Serving) : motive s := by
  induction hleft : s.turnsLeft using Nat.strongRecOn generalizing s with
  | _ left ih =>
    cases hturn : s.takeAhead routes peer with
    | none => exact rest s hturn
    | some result =>
      have hlt := turnsLeft_lt hturn
      exact turn s result.1 result.2 hturn (ih _ (hleft ▸ hlt) result.1 rfl)

/-- A turn leaves no more bytes than there were. -/
theorem length_ahead_le (h : s.takeAhead routes peer = some (t, effects)) :
    t.ahead.length ≤ s.ahead.length := by
  have hlt := turnsLeft_lt h
  have hle := turnsLeft_le s
  simp only [turnsLeft] at hlt hle
  omega

/-! ### Taking all turns -/

/-- Where no turn is left to be taken, taking more does nothing. -/
theorem takeAll_of_none (h : s.takeAhead routes peer = none) (most : Nat) :
    takeAll routes peer most s = (s, []) := by
  cases most with
  | zero => rfl
  | succ most => rw [takeAll, h]

/-- A turn comes first, and then the others. -/
theorem takeAll_of_turn (h : s.takeAhead routes peer = some (t, effects)) (most : Nat) :
    takeAll routes peer (most + 1) s =
      ((takeAll routes peer most t).1, effects ++ (takeAll routes peer most t).2) := by
  rw [takeAll, h]

/-- There is nothing to take where only one turn is left: a byte that waits is good for two. -/
theorem takeAhead_eq_none_of_turnsLeft (h : s.turnsLeft ≤ 1) : s.takeAhead routes peer = none := by
  rw [Option.eq_none_iff_forall_ne_some]
  rintro ⟨t, effects⟩ hturn
  have hpos : 0 < s.ahead.length := List.length_pos_iff.2 (ne_nil_of_takeAhead hturn)
  simp only [turnsLeft] at h
  omega

/-- Where as many turns are taken as a connection has left, no other is possible. -/
theorem takeAhead_takeAll {most : Nat} (hmost : s.turnsLeft ≤ most + 1) :
    (takeAll routes peer most s).1.takeAhead routes peer = none := by
  induction most generalizing s with
  | zero => exact takeAhead_eq_none_of_turnsLeft hmost
  | succ most ih =>
    cases hturn : s.takeAhead routes peer with
    | none => rwa [takeAll_of_none hturn]
    | some turn =>
      have hlt := turnsLeft_lt hturn
      rw [takeAll_of_turn hturn]
      exact ih (by omega)

/-- It does not matter how many turns are taken where they are as many as are left. -/
theorem takeAll_eq {m n : Nat} (hm : s.turnsLeft ≤ m + 1) (hn : s.turnsLeft ≤ n + 1) :
    takeAll routes peer m s = takeAll routes peer n s := by
  induction m generalizing s n with
  | zero =>
    have hnone : s.takeAhead routes peer = none := takeAhead_eq_none_of_turnsLeft hm
    rw [takeAll_of_none hnone, takeAll_of_none hnone]
  | succ m ih =>
    cases hturn : s.takeAhead routes peer with
    | none => rw [takeAll_of_none hturn, takeAll_of_none hturn]
    | some turn =>
      have hlt := turnsLeft_lt hturn
      cases n with
      | zero =>
        rw [takeAhead_eq_none_of_turnsLeft hn] at hturn
        cases hturn
      | succ n =>
        have hrest := ih (s := turn.1) (n := n) (by omega) (by omega)
        rw [takeAll_of_turn hturn, takeAll_of_turn hturn, hrest]

/-- **All turns that are possible are taken.** -/
theorem takeAhead_proceed : (s.proceed routes peer).1.takeAhead routes peer = none :=
  takeAhead_takeAll (turnsLeft_le s)

theorem proceed_of_none (h : s.takeAhead routes peer = none) : s.proceed routes peer = (s, []) :=
  takeAll_of_none h _

/-- **What bytes do that wait is one turn, and then what the others do.** -/
theorem proceed_of_turn (h : s.takeAhead routes peer = some (t, effects)) :
    s.proceed routes peer =
      ((t.proceed routes peer).1, effects ++ (t.proceed routes peer).2) := by
  have hlt := turnsLeft_lt h
  have hle := turnsLeft_le s
  have hrest : takeAll routes peer (2 * s.ahead.length) t = t.proceed routes peer :=
    takeAll_eq (by omega) (turnsLeft_le t)
  rw [proceed, takeAll_of_turn h, hrest]

/-- **A connection starts with what has been read** as one on which nothing has been served yet goes
on when it receives that. -/
theorem start_eq_step (routes : Route.Table) (peer : IpAddress) (bytes : List Byte) :
    start routes peer bytes = step routes peer {} (.received .client bytes) :=
  rfl

end Serving

end GameGateway.Http
