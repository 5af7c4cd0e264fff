import GameGateway.Route.Table
import GameGateway.Wire.Error

/-!
# Pipes

A connection of a client is joined to one of a backend. **Signals** are what befalls the two of
them, **effects** what is done to them, and everything between is a function from the one to the
other. A `Pipe` joins them without looking at what they say: it passes each side's bytes to the
other until both have ended.

`sent` is what a list of effects says to a side, `dialed` the routes that it follows.
-/

namespace GameGateway.Relay

open Wire (Byte)

/-- One of the two **sides** that are joined. -/
inductive Side where
  | client
  | backend
  deriving DecidableEq, Repr

/-- The other side. -/
def Side.other : Side → Side
  | client => backend
  | backend => client

/-- What **befalls** a connection. -/
inductive Signal where
  | received (side : Side) (bytes : List Byte)
  /-- The side has said all that it says. -/
  | ended (side : Side)
  /-- What the side says can no longer be read, or no longer be passed on. -/
  | failed (side : Side)
  /-- The backend has taken the connection. -/
  | connected
  /-- The backend has not taken it. -/
  | refused
  /-- The time is up in which a client has to tell where it wants to go. -/
  | overdue
  deriving DecidableEq, Repr

/-- What is **done** to a connection. -/
inductive Effect where
  | dial (route : Route)
  | send (side : Side) (bytes : List Byte)
  /-- Tells the side that it has been told everything. -/
  | finish (side : Side)
  /-- Gives up the connection to the backend. -/
  | hangUp
  /-- Gives up both connections. -/
  | close
  deriving DecidableEq, Repr

/-- The bytes that an effect sends to a side. -/
def Effect.sentTo (side : Side) : Effect → List Byte
  | .send s bytes => if s = side then bytes else []
  | .dial _ | .finish _ | .hangUp | .close => []

/-- What effects **send** to a side, one after the other. -/
def sent (side : Side) (effects : List Effect) : List Byte :=
  effects.flatMap (Effect.sentTo side)

/-- The routes that effects **dial**. -/
def dialed (effects : List Effect) : List Route :=
  effects.filterMap fun
    | .dial route => some route
    | .send _ _ | .finish _ | .hangUp | .close => none

theorem sent_append (side : Side) (es fs : List Effect) :
    sent side (es ++ fs) = sent side es ++ sent side fs := by
  simp [sent]

theorem dialed_append (es fs : List Effect) : dialed (es ++ fs) = dialed es ++ dialed fs := by
  simp [dialed]

/-! ### The pipe -/

/-- A **pipe**: for each side, whether it still speaks. -/
structure Pipe where
  client : Bool := true
  backend : Bool := true
  deriving DecidableEq, Repr

namespace Pipe

/-- Whether a side still speaks. -/
def speaks (p : Pipe) : Side → Bool
  | .client => p.client
  | .backend => p.backend

/-- A side speaks no longer. -/
def mute (p : Pipe) : Side → Pipe
  | .client => { p with client := false }
  | .backend => { p with backend := false }

/-- What is done when no side speaks any more. -/
def closing (p : Pipe) : List Effect :=
  if p.client || p.backend then [] else [.close]

/-- What a signal does to a pipe. -/
def step (p : Pipe) : Signal → Pipe × List Effect
  | .received side bytes => (p, if p.speaks side then [.send side.other bytes] else [])
  | .ended side =>
    if p.speaks side then (p.mute side, .finish side.other :: (p.mute side).closing) else (p, [])
  -- Not everything may have been passed on, so the other side is told of no end.
  | .failed side => if p.speaks side then (p.mute side, (p.mute side).closing) else (p, [])
  | .connected | .refused | .overdue => (p, [])

end Pipe

end GameGateway.Relay
