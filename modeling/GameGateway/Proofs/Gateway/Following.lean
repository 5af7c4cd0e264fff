import GameGateway.Gateway.Events
import Mathlib.Data.List.Induction

/-!
# Which events of a stream are applied

A gateway that follows a stream applies an event when it is new, that is at a later position than
the beginning and than all events in front of it, and of a version that is understood. So the
gateway behind a stream is what these make of it, one after the other, whether or not they fail, and
the cursor is at the highest position that there was (`run_eq_foldl_applied`). Events that are
delivered again change nothing, since the cursor is never behind an event that has been taken
(`le_step`).
-/

namespace GameGateway

namespace EventId

variable {a b c : EventId}

/-- Positions are compared as the integers that they stand for. -/
theorem le_iff : a ≤ b ↔ a.value.toInt ≤ b.value.toInt :=
  Int64.le_iff_toInt_le

theorem lt_iff : a < b ↔ a.value.toInt < b.value.toInt :=
  Int64.lt_iff_toInt_lt

theorem le_refl : a ≤ a :=
  le_iff.mpr (Int.le_refl _)

theorem le_trans (h₁ : a ≤ b) (h₂ : b ≤ c) : a ≤ c :=
  le_iff.mpr (Int.le_trans (le_iff.mp h₁) (le_iff.mp h₂))

theorem not_le : ¬a ≤ b ↔ b < a := by
  rw [le_iff, lt_iff, Int.not_le]

theorem le_of_lt (h : a < b) : a ≤ b :=
  le_iff.mpr (Int.le_of_lt (lt_iff.mp h))

end EventId

/-- An event is **new** behind others when it is at a later position than the beginning and than all
of them. -/
def Envelope.IsNew (earlier : List Envelope) (e : Envelope) : Prop :=
  .zero < e.id ∧ ∀ e' ∈ earlier, e'.id < e.id

instance (earlier : List Envelope) (e : Envelope) : Decidable (e.IsNew earlier) :=
  inferInstanceAs (Decidable (_ ∧ _))

/-- A stream **redelivers** another one, behind events that have been seen, when it has further
events, each at or before the position of one that is in front of it. -/
inductive Redelivers : (seen events events' : List Envelope) → Prop
  | nil {seen : List Envelope} : Redelivers seen [] []
  | event {seen events events' : List Envelope} (e : Envelope)
      (hrest : Redelivers (e :: seen) events events') : Redelivers seen (e :: events) (e :: events')
  | again {seen events events' : List Envelope} (e : Envelope) (hseen : ∃ e' ∈ seen, e.id ≤ e'.id)
      (hrest : Redelivers (e :: seen) events events') : Redelivers seen events (e :: events')

namespace Gateway

variable {machine : Machine} {g : Gateway} {state : EventId × Gateway} {e : Envelope}
  {events events' seen : List Envelope}

/-- The events of a stream that are **applied**: those that are new behind all in front of them and
of a version that is understood. -/
def applied (events : List Envelope) : List Envelope :=
  (events.zipIdx.filter fun (e, i) => e.IsNew (events.take i) ∧ e.isSupported).map Prod.fst

/-! ### One event -/

/-- **An event at or before the cursor is passed over.** -/
theorem step_of_le (h : e.id ≤ state.1) : step machine state e = state := by
  rw [step, if_pos h]

/-- An event behind the cursor moves it there, even if its version is not understood and nothing is
applied. -/
theorem step_of_lt (h : state.1 < e.id) : step machine state e =
    (e.id, if e.isSupported then (state.2.applyEvent machine e.event).2 else state.2) := by
  rw [step, if_neg (EventId.not_le.mpr h)]
  split <;> rfl

/-- **The cursor does not go back**, and is not behind the event that has been taken. -/
theorem le_step : state.1 ≤ (step machine state e).1 ∧ e.id ≤ (step machine state e).1 := by
  by_cases h : e.id ≤ state.1
  · rw [step_of_le h]
    exact ⟨EventId.le_refl, h⟩
  · have hlt := EventId.not_le.mp h
    rw [step_of_lt hlt]
    exact ⟨EventId.le_of_lt hlt, EventId.le_refl⟩

/-- In numbers, the cursor is at the maximum of the two positions. -/
theorem toInt_step : (step machine state e).1.value.toInt =
    max state.1.value.toInt e.id.value.toInt := by
  by_cases h : e.id ≤ state.1
  · rw [step_of_le h, Int.max_eq_left (EventId.le_iff.mp h)]
  · have hlt := EventId.not_le.mp h
    rw [step_of_lt hlt, Int.max_eq_right (EventId.le_iff.mp (EventId.le_of_lt hlt))]

/-! ### Whole streams -/

/-- One more event is a step from where the others have led. -/
theorem run_append_singleton :
    run machine g (events ++ [e]) = step machine (run machine g events) e := by
  rw [run, List.foldl_append, run, List.foldl_cons, List.foldl_nil]

/-- **The cursor is at the highest position** of a stream, the beginning included. -/
theorem toInt_run : (run machine g events).1.value.toInt =
    (events.map fun e => e.id.value.toInt).foldl max 0 := by
  induction events using List.reverseRecOn with
  | nil => rfl
  | append_singleton events e ih =>
    rw [run_append_singleton, toInt_step, ih, List.map_append, List.foldl_append]
    rfl

/-- The cursor is behind an event just when this is new. -/
theorem run_lt_iff : (run machine g events).1 < e.id ↔ e.IsNew events := by
  have hmax : ∀ (events : List Envelope) (n : Int),
      (events.map fun e => e.id.value.toInt).foldl max n < e.id.value.toInt ↔
        n < e.id.value.toInt ∧ ∀ e' ∈ events, e'.id < e.id := by
    intro events
    induction events with
    | nil => simp
    | cons a events ih =>
      intro n
      rw [List.map_cons, List.foldl_cons, ih, Int.max_lt, List.forall_mem_cons, EventId.lt_iff,
        and_assoc]
  rw [EventId.lt_iff, toInt_run, hmax, Envelope.IsNew, EventId.lt_iff]
  rfl

/-- One more event is applied if it is new and understood, whatever else the stream holds. -/
theorem applied_append_singleton : applied (events ++ [e]) =
    applied events ++ if e.IsNew events ∧ e.isSupported then [e] else [] := by
  have hfront : ∀ a ∈ events.zipIdx, (events ++ [e]).take a.2 = events.take a.2 := by
    intro a ha
    exact List.take_append_of_le_length (Nat.le_of_lt (List.snd_lt_of_mem_zipIdx ha))
  have hsame : events.zipIdx.filter
      (fun (e', i) => e'.IsNew ((events ++ [e]).take i) ∧ e'.isSupported) =
      events.zipIdx.filter (fun (e', i) => e'.IsNew (events.take i) ∧ e'.isSupported) := by
    refine List.filter_congr fun a ha => ?_
    dsimp only
    rw [hfront a ha]
  rw [applied, List.zipIdx_append, List.filter_append, List.map_append, hsame, applied]
  congr 1
  simp only [List.zipIdx_singleton, Nat.zero_add, List.filter_cons, List.filter_nil, List.take_left]
  by_cases h : e.IsNew events ∧ e.isSupported
  · simp [h]
  · simp [h]

/-- What a gateway does with an event behind others: it applies one that is new and of a version
that is understood. -/
theorem run_append_singleton_eq : run machine g (events ++ [e]) =
    if e.IsNew events then
      (e.id, if e.isSupported then ((run machine g events).2.applyEvent machine e.event).2
        else (run machine g events).2)
    else run machine g events := by
  rw [run_append_singleton]
  split
  · next h => exact step_of_lt (run_lt_iff.mpr h)
  · next h => exact step_of_le (Decidable.byContradiction fun hle =>
      h (run_lt_iff.mp (EventId.not_le.mp hle)))

/-- **The gateway is what the applied events make of it.** -/
theorem run_snd : (run machine g events).2 =
    (applied events).foldl (fun g e => (g.applyEvent machine e.event).2) g := by
  induction events using List.reverseRecOn with
  | nil => rfl
  | append_singleton events e ih =>
    rw [run_append_singleton_eq, applied_append_singleton, List.foldl_append, ← ih]
    by_cases hnew : e.IsNew events
    · cases hsupported : e.isSupported <;> simp [hnew]
    · simp [hnew]

/-- **Events that are delivered again change nothing**, from any state that is not behind those that
have been seen. -/
theorem foldl_step_of_redelivers (h : Redelivers seen events events') (state : EventId × Gateway)
    (hseen : ∀ e ∈ seen, e.id ≤ state.1) :
    events'.foldl (step machine) state = events.foldl (step machine) state := by
  induction h generalizing state with
  | nil => rfl
  | event e _ ih =>
    refine ih _ fun a ha => ?_
    rcases List.mem_cons.mp ha with rfl | ha
    · exact le_step.2
    · exact EventId.le_trans (hseen a ha) le_step.1
  | again e hagain _ ih =>
    obtain ⟨e', he', hle⟩ := hagain
    have hbehind : e.id ≤ state.1 := EventId.le_trans hle (hseen e' he')
    rw [List.foldl_cons, step_of_le hbehind]
    refine ih _ fun a ha => ?_
    rcases List.mem_cons.mp ha with rfl | ha
    · exact hbehind
    · exact hseen a ha

/-- **What becomes of a stream of events.** Each event that is new behind those in front of it and
of a version that is understood is applied, once and in order and whether or not this fails, and no
other one is. The cursor ends at the highest position, and events that are delivered again, at or
before the position of one in front of them, change neither the gateway nor the cursor. -/
theorem run_eq_foldl_applied (machine : Machine) (g : Gateway) (events : List Envelope) :
    (∀ earlier e later, events = earlier ++ e :: later →
      run machine g (earlier ++ [e]) =
        if e.IsNew earlier then
          (e.id, if e.isSupported then ((run machine g earlier).2.applyEvent machine e.event).2
            else (run machine g earlier).2)
        else run machine g earlier) ∧
    (run machine g events).2 =
      (applied events).foldl (fun g e => (g.applyEvent machine e.event).2) g ∧
    (run machine g events).1.value.toInt =
      (events.map fun e => e.id.value.toInt).foldl max 0 ∧
    ∀ events', Redelivers [] events events' → run machine g events' = run machine g events :=
  ⟨fun _ _ _ _ => run_append_singleton_eq, run_snd, toInt_run,
    fun _ h => foldl_step_of_redelivers h _ (by simp)⟩

/-- A listener's creation that is delivered again, and a deletion that comes late, do not matter. -/
theorem run_eq_after_redelivery :
    let machine : Machine := {
      address := fun _ _ => .error .unknown, bindFault := fun _ => none }
    let listener : Listener := { id := ⟨.ofNat 1⟩, port := 25565, name := "main" }
    let g := new {} (.ofPanel { version := 1, listeners := [listener] })
    let placed (position : Int64) (event : Event) : Envelope :=
      .of ⟨position⟩ ⟨⟨2024, 5, 1⟩, 12, 0, 0, 0⟩ event
    let deleted := placed 1 (.listenerDeleted listener.id 25565)
    let created := placed 2 (.listenerCreated listener.id 25565)
    let events := [created]
    let events' := [created, deleted, created]
    Redelivers [] events events' ∧ applied events' = [created] ∧
      run machine g events' = run machine g events ∧ (run machine g events).1 = ⟨2⟩ ∧
      (run machine g events').2.ports.numbers = [25565] := by
  intro machine listener g placed deleted created events events'
  have hagain : Redelivers [] events events' :=
    .event created (.again deleted ⟨created, by decide, by decide⟩
      (.again created ⟨created, by decide, by decide⟩ .nil))
  have hrun := (run_eq_foldl_applied machine g events).2.2.2 events' hagain
  exact ⟨hagain, by decide +kernel, hrun, by decide +kernel, by decide +kernel⟩

end Gateway

end GameGateway
