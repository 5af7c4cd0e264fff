import GameGateway.Wire.Error

/-!
# Streams that are read once more

To see what a connection asks for, its first bytes are read ahead. Whoever reads the connection
after that is to see these bytes as well: a **replay** gives them again and then goes on with what
still comes in, piece by piece. `read_bytes` says that reading neither loses nor repeats a byte,
however much is asked for at a time, and `readAll_exactly` that whoever reads on gets all of them.
-/

namespace GameGateway.Http

open Wire (Byte)

/-- A stream with bytes that have been read **ahead** of it. -/
structure Replay where
  ahead : List Byte
  /-- The pieces in which the rest of the stream comes in. -/
  pieces : List (List Byte) := []
  deriving DecidableEq, Repr

namespace Replay

/-- All bytes that are still to be read. -/
def bytes (r : Replay) : List Byte :=
  r.ahead ++ r.pieces.flatten

/-- Reads up to a number of bytes: of those read ahead, while there are any, or else of the piece
that comes in next. -/
def read (size : Nat) (r : Replay) : List Byte × Replay :=
  match r.ahead, r.pieces with
  | [], [] => ([], r)
  | [], piece :: pieces => (piece.take size, ⟨piece.drop size, pieces⟩)
  | ahead, pieces => (ahead.take size, ⟨ahead.drop size, pieces⟩)

/-- **A read neither loses nor repeats a byte.** -/
theorem read_bytes (size : Nat) (r : Replay) :
    (r.read size).1 ++ (r.read size).2.bytes = r.bytes := by
  obtain ⟨ahead, pieces⟩ := r
  match ahead, pieces with
  | [], [] => rfl
  | [], piece :: pieces => simp [read, bytes, ← List.append_assoc]
  | a :: ahead, pieces => simp [read, bytes, ← List.append_assoc]

/-- As long as there are bytes, a read gives one at least, if no piece comes in that is empty. -/
theorem read_ne_nil {size : Nat} {r : Replay} (hsize : 0 < size) (hpieces : [] ∉ r.pieces)
    (hbytes : r.bytes ≠ []) : (r.read size).1 ≠ [] := by
  obtain ⟨ahead, pieces⟩ := r
  match ahead, pieces with
  | [], [] => exact absurd rfl hbytes
  | [], piece :: pieces =>
    have hpiece : piece ≠ [] := fun h => hpieces (h ▸ List.mem_cons_self)
    simpa [read, hpiece] using Nat.ne_of_gt hsize
  | a :: ahead, pieces => simpa [read] using Nat.ne_of_gt hsize

theorem mem_pieces_of_mem_read {size : Nat} {r : Replay} {piece : List Byte}
    (h : piece ∈ (r.read size).2.pieces) : piece ∈ r.pieces := by
  obtain ⟨ahead, pieces⟩ := r
  match ahead, pieces with
  | [], [] => exact h
  | [], first :: pieces => exact List.mem_cons_of_mem first h
  | a :: ahead, pieces => exact h

/-! ### Reading on -/

/-- Reads for each size once, one after the other. -/
def readAll : List Nat → Replay → List (List Byte) × Replay
  | [], r => ([], r)
  | size :: sizes, r =>
    let (bytes, r) := r.read size
    let (more, r) := readAll sizes r
    (bytes :: more, r)

/-- Several reads give what there is, in order, and leave the rest. -/
theorem readAll_bytes (sizes : List Nat) (r : Replay) :
    (r.readAll sizes).1.flatten ++ (r.readAll sizes).2.bytes = r.bytes := by
  induction sizes generalizing r with
  | nil => rfl
  | cons size sizes ih =>
    rw [readAll, List.flatten_cons, List.append_assoc, ih]
    exact r.read_bytes size

/-- Nothing is left when a read has given nothing, or when there have been as many reads as
bytes. -/
theorem bytes_readAll_eq_nil {sizes : List Nat} {r : Replay} (hsizes : 0 ∉ sizes)
    (hpieces : [] ∉ r.pieces)
    (henough : [] ∈ (r.readAll sizes).1 ∨ r.bytes.length ≤ sizes.length) :
    (r.readAll sizes).2.bytes = [] := by
  induction sizes generalizing r with
  | nil => exact List.eq_nil_of_length_eq_zero (Nat.le_zero.1 (henough.resolve_left nofun))
  | cons size sizes ih =>
    by_cases hbytes : r.bytes = []
    · exact (List.append_eq_nil_iff.1 ((readAll_bytes (size :: sizes) r).trans hbytes)).2
    · -- the first read gives something, so what the others leave is what all of them leave
      obtain ⟨hsize, hsizes⟩ := not_or.1 (mt List.mem_cons.2 hsizes)
      have hread := read_ne_nil (Nat.pos_of_ne_zero (Ne.symm hsize)) hpieces hbytes
      refine ih (r := (r.read size).2) hsizes (mt mem_pieces_of_mem_read hpieces)
        (henough.imp (fun h => ?_) fun h => ?_)
      · exact (List.mem_cons.1 h).resolve_left (Ne.symm hread)
      · have hlength := congrArg List.length (r.read_bytes size)
        have hpos := List.length_pos_iff.2 hread
        simp only [List.length_append, List.length_cons] at hlength h
        omega

/-- **Whoever reads on gets exactly the bytes of the stream**, however much is asked for at a
time. -/
theorem readAll_exactly {sizes : List Nat} {r : Replay} (hsizes : 0 ∉ sizes)
    (hpieces : [] ∉ r.pieces) :
    (r.readAll sizes).1.flatten <+: r.bytes ∧
      ([] ∈ (r.readAll sizes).1 ∨ r.bytes.length ≤ sizes.length →
        (r.readAll sizes).1.flatten = r.bytes) := by
  refine ⟨⟨_, readAll_bytes sizes r⟩, fun henough => ?_⟩
  rw [← readAll_bytes sizes r, bytes_readAll_eq_nil hsizes hpieces henough, List.append_nil]

end Replay

end GameGateway.Http
