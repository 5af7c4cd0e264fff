import GameGateway.Net.Socket

/-!
# Sessions

Datagrams come without connections, so each client that sends them has a **session**, in which it
talks to one backend. A session is closed when its client has another one, when it has been idle
for too long, when its backend fails or when its port is closed; each change of the `Sessions` tells
which ones it closes. Times are in milliseconds.

`Sessions.get?` is the sessions as a partial map; `get?_openFor` and `get?_touch` say what a change
does to it.
-/

namespace GameGateway.Relay

/-- A **session** of a client. -/
structure Session where
  /-- The number of the session among all that there have been. A counter of 64 bits has the same
  numbers: by `Sessions.closed_once` none is greater than how many sessions have been opened, so it
  would begin again only behind 2 ^ 64 of them. -/
  id : Nat
  client : SocketAddress
  /-- The backend that the session has led to from the first. -/
  backend : SocketAddress
  /-- When the last datagram came, from either end. -/
  lastActive : Nat
  deriving DecidableEq, Repr

/-- How long a session has been idle. -/
def Session.idle (s : Session) (now : Nat) : Nat :=
  now - s.lastActive

/-- The **sessions** of a port. -/
structure Sessions where
  /-- The sessions that are open, in the order of their numbers. -/
  live : List Session := []
  nextId : Nat := 1
  deriving DecidableEq, Repr

namespace Sessions

variable (t : Sessions)

/-- The session of a client. -/
def get? (client : SocketAddress) : Option Session :=
  t.live.find? (·.client = client)

/-- The open session with a number. -/
def find? (id : Nat) : Option Session :=
  t.live.find? (·.id = id)

/-- Closes the sessions that do not satisfy `p`, and tells which those are. -/
def keep (p : Session → Bool) : List Session × Sessions :=
  (t.live.filter fun s => !p s, { t with live := t.live.filter p })

/-- Opens a session for a client, in place of any that it has. -/
def openFor (client backend : SocketAddress) (now : Nat) : List Session × Sessions :=
  let (closed, rest) := t.keep (·.client ≠ client)
  (closed, {
    live := rest.live ++ [{ id := t.nextId, client, backend, lastActive := now }]
    nextId := t.nextId + 1 })

/-- Notes that a datagram has come in a session. -/
def touch (id now : Nat) : Sessions :=
  { t with live := t.live.map fun s => if s.id = id then { s with lastActive := now } else s }

/-- Closes the session with a number, if it is the one that the client has. -/
def close (client : SocketAddress) (id : Nat) : List Session × Sessions :=
  t.keep fun s => s.client ≠ client || s.id ≠ id

/-- Closes the sessions that have been idle for longer than a time. -/
def sweep (longest now : Nat) : List Session × Sessions :=
  t.keep fun s => s.idle now ≤ longest

/-- Closes all sessions. -/
def closeAll : List Session × Sessions :=
  t.keep fun _ => false

section Lemmas

variable {t : Sessions} {client backend c : SocketAddress} {now id : Nat}

/-- A client for which a session is opened has that one, and the others keep theirs. -/
theorem get?_openFor : (t.openFor client backend now).2.get? c =
    if client = c then some ⟨t.nextId, client, backend, now⟩ else t.get? c := by
  simp only [get?, openFor, keep, List.find?_append, List.find?_filter]
  by_cases h : client = c
  · rw [List.find?_eq_none.2 fun s _ => by simp [h]]
    simp [h]
  · have hs : ∀ s : Session, (!decide (s.client = client) && decide (s.client = c)) =
        decide (s.client = c) := by
      intro s
      by_cases hc : s.client = c
      · simp [hc, Ne.symm h]
      · simp [hc]
    simp [h, hs]

/-- A session that is used is found by its client as before. -/
theorem get?_touch : (t.touch id now).get? c =
    (t.get? c).map fun s => if s.id = id then { s with lastActive := now } else s := by
  simp only [get?, touch, List.find?_map]
  congr 2
  funext s
  simp only [Function.comp_apply]
  split <;> rfl

end Lemmas

end Sessions

end GameGateway.Relay
