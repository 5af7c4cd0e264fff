/-!
# Computations that may fail

What `do` blocks of `Except` come to: a step that succeeds hands its value on, one that fails ends
the computation, and a computation succeeds just when each of its steps does (`Except.bind_eq_ok`).
-/

namespace Except

variable {ε α β : Type}

@[simp]
theorem ok_bind (a : α) (f : α → Except ε β) : (ok a >>= f) = f a := rfl

@[simp]
theorem error_bind (e : ε) (f : α → Except ε β) : (error e >>= f) = error e := rfl

@[simp]
theorem throw_eq_error (e : ε) : (throw e : Except ε α) = error e := rfl

@[simp]
theorem pure_eq_ok (a : α) : (pure a : Except ε α) = ok a := rfl

@[simp]
theorem ok_map (f : α → β) (a : α) : Except.map (ε := ε) f (ok a) = ok (f a) := rfl

/-- Two steps succeed when the first does and then the second, with what the first gave. -/
theorem bind_eq_ok {x : Except ε α} {f : α → Except ε β} {b : β} :
    (x >>= f) = ok b ↔ ∃ a, x = ok a ∧ f a = ok b := by
  cases x with
  | error e => simp
  | ok a => simp

/-- A failure is the same whatever was to be made of a result. -/
theorem map_eq_error {f : α → β} {x : Except ε α} {e : ε} :
    Except.map f x = error e ↔ x = error e := by
  cases x with
  | error e => simp [Except.map]
  | ok a => simp

/-- Whether a computation yields a value can be decided, whatever its errors are. -/
instance decidableEqOk [DecidableEq α] (x : Except ε α) (a : α) : Decidable (x = ok a) :=
  match x with
  | ok b => decidable_of_iff (b = a) ⟨congrArg ok, Except.ok.inj⟩
  | error _ => .isFalse nofun

end Except
