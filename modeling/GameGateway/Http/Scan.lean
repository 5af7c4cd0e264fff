import GameGateway.Wire.Error

/-!
# Scanning bytes that are still coming in

The head of a message is looked at while it arrives, so a **scanner** has three answers: what it
has read and the bytes behind it, that it needs more bytes, or that no bytes that follow can mend
what is wrong. A scanner is **stable** if an answer other than the second does not change when more
bytes follow; those of this module are, and so is what is put together from them (`Stable.bind`).
-/

namespace GameGateway.Http

open Wire (Byte)

/-- The cause for which bytes are **no head** of a message. -/
inductive HeadError where
  | newLine
  | token
  | version
  | status
  | fieldName
  | fieldValue
  | tooManyFields
  deriving DecidableEq, Repr

/-- The answer of a scanner. -/
inductive Scanned (α : Type) where
  | complete (value : α) (rest : List Byte)
  | incomplete
  | malformed (cause : HeadError)
  deriving DecidableEq, Repr

/-- The same answer with more bytes behind it. -/
def Scanned.extend {α : Type} (more : List Byte) : Scanned α → Scanned α
  | .complete value rest => .complete value (rest ++ more)
  | .incomplete => .incomplete
  | .malformed cause => .malformed cause

/-- A **scanner** of bytes. -/
def Scanner (α : Type) : Type := List Byte → Scanned α

namespace Scanner

variable {α β : Type}

/-- Reads nothing. -/
protected def pure (a : α) : Scanner α := fun bytes => .complete a bytes

/-- Reads on behind what a scanner has read. -/
protected def bind (scan : Scanner α) (next : α → Scanner β) : Scanner β := fun bytes =>
  match scan bytes with
  | .complete a rest => next a rest
  | .incomplete => .incomplete
  | .malformed cause => .malformed cause

instance : Monad Scanner where
  pure := Scanner.pure
  bind := Scanner.bind

/-- Refuses what follows. -/
def refuse (cause : HeadError) : Scanner α := fun _ => .malformed cause

/-- Reads one byte. -/
def next : Scanner Byte
  | [] => .incomplete
  | b :: rest => .complete b rest

/-- Looks at the next byte without reading it. -/
def peek : Scanner Byte
  | [] => .incomplete
  | b :: rest => .complete b (b :: rest)

/-- Reads the bytes that satisfy `p`; the byte behind them must be there to end them. -/
def span (p : Byte → Bool) : Scanner (List Byte) := fun bytes =>
  match bytes.dropWhile p with
  | [] => .incomplete
  | rest => .complete (bytes.takeWhile p) rest

/-- Reads one given byte. -/
def expect (b : Byte) (cause : HeadError) : Scanner Unit := do
  if (← next) ≠ b then refuse cause

/-- Reads given bytes. -/
def expectAll (cause : HeadError) : List Byte → Scanner Unit
  | [] => pure ()
  | b :: bytes => do
    expect b cause
    expectAll cause bytes

/-! ### Stability -/

/-- Whether bytes that follow do not change an answer other than that more are needed. -/
def Stable (scan : Scanner α) : Prop :=
  ∀ bytes more, scan bytes ≠ .incomplete → scan (bytes ++ more) = (scan bytes).extend more

/-- What is complete in front of a stream is the same wherever the stream has been cut behind it;
where it has been cut before, more is needed. -/
theorem Stable.complete_of_prefix {scan : Scanner α} (h : Stable scan)
    {said stream rest : List Byte} {a : α} (hsaid : said <+: stream)
    (hscan : scan stream = .complete a rest) :
    scan said = .incomplete ∨ ∃ rest', scan said = .complete a rest' := by
  obtain ⟨more, rfl⟩ := hsaid
  have hmore := h said more
  rw [hscan] at hmore
  cases hs : scan said with
  | incomplete => exact .inl rfl
  | malformed cause =>
    rw [hs] at hmore
    cases hmore (by simp)
  | complete b rest' =>
    rw [hs] at hmore
    cases hmore (by simp)
    exact .inr ⟨rest', rfl⟩

/-- What reads nothing leaves the bytes that follow where they are. -/
theorem Stable.pure (a : α) : Stable (Pure.pure a : Scanner α) :=
  fun _ _ _ => rfl

theorem Stable.refuse (cause : HeadError) : Stable (refuse cause : Scanner α) :=
  fun _ _ _ => rfl

/-- **Scanners that are stable are so one after the other**: bytes that follow come behind what the
second one leaves. -/
theorem Stable.bind {scan : Scanner α} {next : α → Scanner β} (h : Stable scan)
    (hn : ∀ a, Stable (next a)) : Stable (scan >>= next) := by
  intro bytes more hi
  have hs := h bytes more
  change Scanner.bind scan next bytes ≠ _ at hi
  change Scanner.bind scan next (bytes ++ more) = (Scanner.bind scan next bytes).extend more
  unfold Scanner.bind at hi ⊢
  cases hb : scan bytes with
  | incomplete => simp [hb] at hi
  | malformed cause => simp [hs (by simp [hb]), hb, Scanned.extend]
  | complete a rest =>
    rw [hs (by simp [hb]), hb]
    exact hn a rest more (by simpa [hb] using hi)

/-- A choice that does not look at the bytes leaves a scanner stable. -/
theorem Stable.ite {c : Prop} [Decidable c] {scan other : Scanner α} (h : Stable scan)
    (ho : Stable other) : Stable (if c then scan else other) := by
  split
  · exact h
  · exact ho

theorem Stable.next : Stable next := by
  rintro (_ | ⟨b, rest⟩) more h
  · exact absurd rfl h
  · rfl

/-- A byte that is looked at is still there for what comes next, and so is what follows it. -/
theorem Stable.peek : Stable peek := by
  rintro (_ | ⟨b, rest⟩) more h
  · exact absurd rfl h
  · rfl

/-- Bytes of a class end with one that is not of it, so bytes that follow cannot make them more. -/
theorem Stable.span (p : Byte → Bool) : Stable (span p) := by
  intro bytes more h
  induction bytes with
  | nil => exact absurd rfl h
  | cons b rest ih =>
    cases hb : p b with
    | false => simp [Scanner.span, hb, Scanned.extend]
    | true =>
      have hc : ∀ xs, Scanner.span p (b :: xs) =
          match Scanner.span p xs with
          | .complete bytes rest => .complete (b :: bytes) rest
          | .incomplete => .incomplete
          | .malformed cause => .malformed cause := by
        intro xs
        simp only [Scanner.span, List.dropWhile_cons, List.takeWhile_cons, hb, if_true]
        split <;> simp_all
      rw [List.cons_append, hc, hc]
      rw [hc] at h
      cases hs : Scanner.span p rest with
      | incomplete => simp [hs] at h
      | complete bytes rest => simp [ih (by simp [hs]), hs, Scanned.extend]
      | malformed cause => simp [ih (by simp [hs]), hs, Scanned.extend]

theorem Stable.expect (b : Byte) (cause : HeadError) : Stable (expect b cause) :=
  Stable.next.bind fun _ => (Stable.refuse cause).ite (Stable.pure ())

/-- Given bytes are read as soon as all of them have come, and refused at the first that differs. -/
theorem Stable.expectAll (cause : HeadError) (bytes : List Byte) :
    Stable (expectAll cause bytes) := by
  induction bytes with
  | nil => exact Stable.pure ()
  | cons b bytes ih => exact (Stable.expect b cause).bind fun _ => ih

end Scanner

end GameGateway.Http
