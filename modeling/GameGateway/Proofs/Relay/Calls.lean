import GameGateway.Relay.Connection
import Mathlib.Data.List.Induction

/-!
# Calls

A connection that is to be led to a backend is a **call** until the backend answers. What is known
of a call and of what follows in an undisturbed history does not depend on why it was made: once the
backend has taken it, it has been sent the first words and all that the client has said since, and
the client what the backend has said; until then nobody has been sent anything, and if it is refused
the client gets the apology (`Called.step`).
-/

namespace GameGateway.Relay

open Wire (Byte)

/-! ### What is heard -/

/-- What a side says in a signal. -/
def Signal.heardFrom (side : Side) : Signal → List Byte
  | .received s bytes => if s = side then bytes else []
  | .ended _ | .failed _ | .connected | .refused | .overdue => []

/-- What a side **says** in a history, one piece after the other. -/
def heard (side : Side) (signals : List Signal) : List Byte :=
  signals.flatMap (Signal.heardFrom side)

@[simp]
theorem heard_append (side : Side) (xs ys : List Signal) :
    heard side (xs ++ ys) = heard side xs ++ heard side ys := by
  simp [heard]

@[simp]
theorem heard_singleton (side : Side) (signal : Signal) :
    heard side [signal] = signal.heardFrom side := by
  simp [heard]

namespace Connection

/-! ### Undisturbed histories -/

/-- Whether a signal **may follow** a history in which these routes have been dialed, if nothing
goes wrong: a side says nothing behind its end, a dial is answered once, a backend speaks when it
has taken the connection, and neither does anything fail nor a time run out. -/
def MayFollow (signals : List Signal) (routes : List Route) : Signal → Prop
  | .received .client _ | .ended .client => .ended .client ∉ signals
  | .received .backend _ | .ended .backend => .connected ∈ signals ∧ .ended .backend ∉ signals
  | .connected | .refused => routes ≠ [] ∧ .connected ∉ signals ∧ .refused ∉ signals
  | .failed _ | .overdue => False

/-- What may follow while no backend has taken the connection. -/
theorem MayFollow.of_not_connected {signals : List Signal} {routes : List Route} {signal : Signal}
    (h : MayFollow signals routes signal) (hconnected : .connected ∉ signals) :
    (∃ bytes, signal = .received .client bytes ∧ .ended .client ∉ signals) ∨
      (signal = .ended .client ∧ .ended .client ∉ signals) ∨
      (routes ≠ [] ∧ .refused ∉ signals ∧ (signal = .connected ∨ signal = .refused)) := by
  match signal, h with
  | .received .client bytes, h => exact .inl ⟨bytes, rfl, h⟩
  | .ended .client, h => exact .inr (.inl ⟨rfl, h⟩)
  | .received .backend _, h | .ended .backend, h => exact absurd h.1 hconnected
  | .connected, h => exact .inr (.inr ⟨h.1, h.2.2, .inl rfl⟩)
  | .refused, h => exact .inr (.inr ⟨h.1, h.2.2, .inr rfl⟩)

/-- What may follow when a backend has taken the connection. -/
theorem MayFollow.of_connected {signals : List Signal} {routes : List Route} {signal : Signal}
    (h : MayFollow signals routes signal) (hconnected : .connected ∈ signals) :
    (∃ side bytes, signal = .received side bytes ∧ .ended side ∉ signals) ∨
      (∃ side, signal = .ended side ∧ .ended side ∉ signals) := by
  match signal, h with
  | .received .client bytes, h => exact .inl ⟨.client, bytes, rfl, h⟩
  | .received .backend bytes, h => exact .inl ⟨.backend, bytes, rfl, h.2⟩
  | .ended .client, h => exact .inr ⟨.client, rfl, h⟩
  | .ended .backend, h => exact .inr ⟨.backend, rfl, h.2⟩
  | .connected, h | .refused, h => exact absurd hconnected h.2.1

/-- An **undisturbed** history of a connection. -/
inductive Undisturbed (protocol : Protocol) (routes : Route.Table) (peer : IpAddress) :
    List Signal → Prop
  | nil : Undisturbed protocol routes peer []
  | snoc {signals : List Signal} {signal : Signal}
      (history : Undisturbed protocol routes peer signals)
      (next : MayFollow signals (dialed (run protocol routes peer signals).2) signal) :
      Undisturbed protocol routes peer (signals ++ [signal])

variable {routes : Route.Table} {peer : IpAddress} {signals : List Signal}

theorem run_append (protocol : Protocol) (xs ys : List Signal) :
    run protocol routes peer (xs ++ ys) =
      ((runFrom routes peer (run protocol routes peer xs).1 ys).1,
        (run protocol routes peer xs).2 ++
          (runFrom routes peer (run protocol routes peer xs).1 ys).2) := by
  simp [run, runFrom_append]

theorem run_snoc (protocol : Protocol) (signal : Signal) :
    run protocol routes peer (signals ++ [signal]) =
      let (c, effects) := run protocol routes peer signals
      let (d, more) := c.step routes peer signal
      (d, effects ++ more) := by
  simp [run_append, runFrom]

theorem undisturbed_snoc_iff {protocol : Protocol} {signal : Signal} :
    Undisturbed protocol routes peer (signals ++ [signal]) ↔
      Undisturbed protocol routes peer signals ∧
        MayFollow signals (dialed (run protocol routes peer signals).2) signal := by
  refine ⟨fun h => ?_, fun h => .snoc h.1 h.2⟩
  generalize hs : signals ++ [signal] = all at h
  cases h with
  | nil => simp at hs
  | snoc history next =>
    obtain ⟨rfl, rfl⟩ : signals = _ ∧ signal = _ := by simpa using hs
    exact ⟨history, next⟩

/-! ### Calls in undisturbed histories -/

/-- The backend is **silent** in a history: it neither says anything nor ends. -/
def Silent (signals : List Signal) : Prop :=
  heard .backend signals = [] ∧ .ended .backend ∉ signals

/-- What has become of a connection that is **called** to a route: its state, and what has been done
for it since, when these are the first words and what the client has said behind them. -/
inductive Called (route : Route) (apology words : List Byte) (signals : List Signal) :
    Connection → List Effect → Prop
  | dialing (hconnected : .connected ∉ signals) (hsilent : Silent signals) :
      Called route apology words signals
        (.dialing {
          route, first := words, apology, speaks := decide (.ended .client ∉ signals) })
        [.dial route]
  | refused (hconnected : .connected ∉ signals) (hrefused : .refused ∈ signals) :
      Called route apology words signals .closed [.dial route, .send .client apology, .close]
  | piping {effects : List Effect} (hconnected : .connected ∈ signals)
      (hdialed : dialed effects = [route]) (hup : sent .backend effects = words)
      (hdown : sent .client effects = heard .backend signals) :
      Called route apology words signals
        (.piping ⟨decide (.ended .client ∉ signals), decide (.ended .backend ∉ signals)⟩) effects

variable {c : Connection} {effects : List Effect} {signal : Signal} {route : Route}
  {apology words : List Byte}

theorem Silent.snoc (h : Silent signals) (hheard : signal.heardFrom .backend = [])
    (hne : signal ≠ .ended .backend) : Silent (signals ++ [signal]) := by
  refine ⟨by simp [h.1, hheard], ?_⟩
  simpa [h.2] using hne.symm

theorem Silent.received_client (h : Silent signals) (bytes : List Byte) :
    Silent (signals ++ [.received .client bytes]) :=
  h.snoc rfl (by simp)

/-- The backend takes the connection. -/
theorem Called.connect (hsilent : Silent signals) :
    let call : Call :=
      { route, first := words, apology, speaks := decide (.ended .client ∉ signals) }
    Called route apology words (signals ++ [.connected]) (await call .connected).1
      ([.dial route] ++ (await call .connected).2) := by
  have hpipe : Called route apology words (signals ++ [.connected])
      (.piping ⟨decide (.ended .client ∉ signals ++ [.connected]),
        decide (.ended .backend ∉ signals ++ [.connected])⟩)
      ([.dial route] ++ (.send .backend words ::
        if .ended .client ∈ signals then [.finish .backend] else [])) := by
    refine .piping (by simp) ?_ ?_ ?_
    · split <;> rfl
    · split <;> simp [sent, Effect.sentTo]
    · rw [heard_append, heard_singleton, hsilent.1]
      split <;> rfl
  by_cases hended : Signal.ended .client ∈ signals <;>
    simpa [await, hended, hsilent.2] using hpipe

/-- What is done for a signal behind the dial tells each side what the other says with it. -/
theorem Called.pass (hconnected : .connected ∈ signals) (hdialed : dialed effects = [route])
    (hup : sent .backend effects = words) (hdown : sent .client effects = heard .backend signals)
    (signal : Signal) (more : List Effect) (hnone : dialed more = [])
    (hbackend : sent .backend more = signal.heardFrom .client)
    (hclient : sent .client more = signal.heardFrom .backend) :
    Called route apology (words ++ signal.heardFrom .client) (signals ++ [signal])
      (.piping ⟨decide (.ended .client ∉ signals ++ [signal]),
        decide (.ended .backend ∉ signals ++ [signal])⟩) (effects ++ more) := by
  refine .piping (by simp [hconnected]) ?_ ?_ ?_
  · rw [dialed_append, hdialed, hnone, List.append_nil]
  · rw [sent_append, hup, hbackend]
  · rw [sent_append, hdown, hclient, heard_append, heard_singleton]

/-- A side that is piped says something, or ends. -/
theorem Called.pipe (hconnected : .connected ∈ signals) (hdialed : dialed effects = [route])
    (hup : sent .backend effects = words) (hdown : sent .client effects = heard .backend signals)
    (hnext : MayFollow signals (dialed effects) signal) :
    let pipe : Pipe := ⟨decide (.ended .client ∉ signals), decide (.ended .backend ∉ signals)⟩
    Called route apology (words ++ signal.heardFrom .client) (signals ++ [signal])
      (.piping (pipe.step signal).1) (effects ++ (pipe.step signal).2) := by
  have hpass : ∀ more, _ → _ → _ → Called route apology _ _ _ (effects ++ more) :=
    Called.pass hconnected hdialed hup hdown signal
  obtain ⟨side, bytes, rfl, hspeaks⟩ | ⟨side, rfl, hspeaks⟩ := hnext.of_connected hconnected
  · have hsend := hpass [.send side.other bytes] rfl
      (by cases side <;> simp [sent, Effect.sentTo, Signal.heardFrom, Side.other])
      (by cases side <;> simp [sent, Effect.sentTo, Signal.heardFrom, Side.other])
    cases side <;> simpa [Pipe.step, Pipe.speaks, hspeaks] using hsend
  · -- the other side is told of the end, and if both have ended both are given up
    have hfinish := hpass
      (.finish side.other :: if .ended side.other ∈ signals then [.close] else [])
      (by split <;> rfl) (by split <;> rfl) (by split <;> rfl)
    cases side with
    | client =>
      by_cases hother : Signal.ended .backend ∈ signals <;>
        simpa [Pipe.step, Pipe.speaks, Pipe.mute, Pipe.closing, Side.other, hspeaks, hother]
          using hfinish
    | backend =>
      by_cases hother : Signal.ended .client ∈ signals <;>
        simpa [Pipe.step, Pipe.speaks, Pipe.mute, Pipe.closing, Side.other, hspeaks, hother]
          using hfinish

/-- **A call stays one** with every signal that may follow. -/
theorem Called.step (hcalled : Called route apology words signals c effects)
    (hnext : MayFollow signals (dialed effects) signal) :
    Called route apology (words ++ signal.heardFrom .client) (signals ++ [signal])
      (c.step routes peer signal).1 (effects ++ (c.step routes peer signal).2) := by
  cases hcalled with
  | dialing hconnected hsilent =>
    obtain ⟨bytes, rfl, -⟩ | ⟨rfl, -⟩ | ⟨-, -, rfl | rfl⟩ := hnext.of_not_connected hconnected
    · have hdial : Called route apology (words ++ bytes)
          (signals ++ [.received .client bytes]) _ _ :=
        .dialing (by simp [hconnected]) (hsilent.received_client bytes)
      simpa [Connection.step, await, Signal.heardFrom] using hdial
    · have hdial : Called route apology words (signals ++ [.ended .client]) _ _ :=
        .dialing (by simp [hconnected]) (hsilent.snoc rfl nofun)
      simpa [Connection.step, await, Signal.heardFrom] using hdial
    · simpa [Connection.step, Signal.heardFrom] using Called.connect hsilent
    · have hrefused : Called route apology words (signals ++ [.refused]) .closed _ :=
        .refused (by simp [hconnected]) (by simp)
      simpa [Connection.step, await, Signal.heardFrom] using hrefused
  | refused hconnected hrefused =>
    have hstill : ∀ signal ≠ .connected, Called route apology (words ++ signal.heardFrom .client)
        (signals ++ [signal]) .closed [.dial route, .send .client apology, .close] :=
      fun signal hne => .refused (by simp [hconnected, hne.symm]) (by simp [hrefused])
    obtain ⟨bytes, rfl, -⟩ | ⟨rfl, -⟩ | ⟨-, hanswer, -⟩ := hnext.of_not_connected hconnected
    · exact hstill _ nofun
    · exact hstill _ nofun
    · exact absurd hrefused hanswer
  | piping hconnected hdialed hup hdown =>
    exact Called.pipe hconnected hdialed hup hdown hnext

/-- A call stays one to the end of an undisturbed history. -/
theorem Called.run_append {protocol : Protocol} {later : List Signal}
    (hcalled : Called route apology words signals (run protocol routes peer signals).1
      (run protocol routes peer signals).2)
    (hs : Undisturbed protocol routes peer (signals ++ later)) :
    Called route apology (words ++ heard .client later) (signals ++ later)
      (run protocol routes peer (signals ++ later)).1
      (run protocol routes peer (signals ++ later)).2 := by
  induction later using List.reverseRecOn with
  | nil => simpa [heard] using hcalled
  | append_singleton later signal ih =>
    rw [← List.append_assoc] at hs ⊢
    obtain ⟨hs, hnext⟩ := undisturbed_snoc_iff.1 hs
    rw [run_snoc, heard_append, heard_singleton, ← List.append_assoc]
    exact (ih hs).step hnext

/-- What has been done for the two sides of a call. -/
theorem Called.streams (hcalled : Called route apology words signals c effects) :
    dialed effects = [route] ∧
      (.connected ∈ signals →
        sent .backend effects = words ∧ sent .client effects = heard .backend signals) ∧
      (.connected ∉ signals →
        sent .backend effects = [] ∧ sent .client effects ∈ [[], apology]) := by
  cases hcalled with
  | dialing hconnected | refused hconnected =>
    exact ⟨rfl, fun h => absurd h hconnected, fun _ => ⟨rfl, by simp [sent, Effect.sentTo]⟩⟩
  | piping hconnected hdialed hup hdown =>
    exact ⟨hdialed, fun _ => ⟨hup, hdown⟩, fun h => absurd hconnected h⟩

end Connection

end GameGateway.Relay
