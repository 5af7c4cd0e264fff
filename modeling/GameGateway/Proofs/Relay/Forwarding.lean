import GameGateway.Proofs.Wire.Rewriting
import GameGateway.Proofs.Wire.Stream
import GameGateway.Proofs.Relay.Calls

/-!
# Forwarding behind a handshake

A client of the game's protocol is led to the backend of the host that its handshake asks for. In
an undisturbed history of its connection no byte is lost, doubled or displaced, however the streams
are cut: the backend is sent the handshake in the words for it and then what the client says behind
its own one, the client is sent what the backend says, and a client that is led nowhere is sent
nothing (`forwarded_exactly`).

The induction over histories carries a `Stage`, which ties the state of the connection and what has
been done so far to what has been heard.
-/

namespace GameGateway.Relay

open Wire (Byte FrameReader Handshake)
open Wire.Handshake (textBytes)

namespace Connection

variable {routes : Route.Table} {peer : IpAddress} {signals : List Signal}

/-! ### Stages -/

/-- Where a client is **led** that has said this: the handshake and its route, and what stands
behind the handshake. -/
def Leads (routes : Route.Table) (said : List Byte) (h : Handshake) (route : Route)
    (rest : List Byte) : Prop :=
  FrameReader.start.feed said = .done (.ok h) rest ∧
    routes.lookup (Route.Key.normalize h.hostname) = some route

/-- A client that has said this is led **nowhere**, whatever it says further. -/
def LeadsNowhere (routes : Route.Table) (said : List Byte) : Prop :=
  ∃ result rest, FrameReader.start.feed said = .done result rest ∧
    ∀ h, result = .ok h → routes.lookup (Route.Key.normalize h.hostname) = none

/-- What a backend is told first. -/
def firstWords (h : Handshake) (route : Route) (rest : List Byte) : List Byte :=
  (h.forBackend route.backendPort).encodeFrame ++ rest

/-- The **stage** that a connection has reached in an undisturbed history: its state, and what has
been done for it. -/
inductive Stage (routes : Route.Table) (signals : List Signal) : Connection → List Effect → Prop
  | opening {reader : FrameReader}
      (hfeed : FrameReader.start.feed (heard .client signals) = .more reader)
      (hspeaks : .ended .client ∉ signals) (hconnected : .connected ∉ signals)
      (hsilent : Silent signals) :
      Stage routes signals (.opening (.handshake reader)) []
  | dropped (hnowhere : LeadsNowhere routes (heard .client signals) ∨
        .ended .client ∈ signals ∧
          ∃ reader, FrameReader.start.feed (heard .client signals) = .more reader)
      (hconnected : .connected ∉ signals) :
      Stage routes signals .closed [.close]
  | dialing {h : Handshake} {route : Route} {rest : List Byte}
      (hleads : Leads routes (heard .client signals) h route rest)
      (hconnected : .connected ∉ signals) (hsilent : Silent signals) :
      Stage routes signals
        (.dialing {
          route, first := firstWords h route rest, apology := []
          speaks := decide (.ended .client ∉ signals) })
        [.dial route]
  | refused {h : Handshake} {route : Route} {rest : List Byte}
      (hleads : Leads routes (heard .client signals) h route rest)
      (hconnected : .connected ∉ signals) (hrefused : .refused ∈ signals) :
      Stage routes signals .closed [.dial route, .send .client [], .close]
  | piping {h : Handshake} {route : Route} {rest : List Byte} {effects : List Effect}
      (hleads : Leads routes (heard .client signals) h route rest)
      (hconnected : .connected ∈ signals) (hdialed : dialed effects = [route])
      (hup : sent .backend effects = firstWords h route rest)
      (hdown : sent .client effects = heard .backend signals) :
      Stage routes signals
        (.piping ⟨decide (.ended .client ∉ signals), decide (.ended .backend ∉ signals)⟩) effects

variable {c : Connection} {effects : List Effect} {signal : Signal}

theorem Leads.snoc {h : Handshake} {route : Route} {rest : List Byte}
    (hleads : Leads routes (heard .client signals) h route rest) (signal : Signal) :
    Leads routes (heard .client (signals ++ [signal])) h route
      (rest ++ signal.heardFrom .client) := by
  refine ⟨?_, hleads.2⟩
  rw [heard_append, heard_singleton, FrameReader.feed_append, hleads.1]

theorem LeadsNowhere.snoc (h : LeadsNowhere routes (heard .client signals)) (signal : Signal) :
    LeadsNowhere routes (heard .client (signals ++ [signal])) := by
  obtain ⟨result, rest, hfeed, hnone⟩ := h
  refine ⟨result, rest ++ signal.heardFrom .client, ?_, hnone⟩
  rw [heard_append, heard_singleton, FrameReader.feed_append, hfeed]

theorem firstWords_append (h : Handshake) (route : Route) (rest bytes : List Byte) :
    firstWords h route (rest ++ bytes) = firstWords h route rest ++ bytes := by
  simp [firstWords]

/-- A client that has not yet told where it wants to go says something. -/
theorem Stage.listen {reader : FrameReader} {bytes : List Byte}
    (hfeed : FrameReader.start.feed (heard .client signals) = .more reader)
    (hspeaks : .ended .client ∉ signals) (hconnected : .connected ∉ signals)
    (hsilent : Silent signals) :
    Stage routes (signals ++ [.received .client bytes])
      (Connection.listen routes peer bytes (.handshake reader)).1
      (Connection.listen routes peer bytes (.handshake reader)).2 := by
  have hsaid : FrameReader.start.feed (heard .client (signals ++ [.received .client bytes])) =
      reader.feed bytes := by
    rw [heard_append, heard_singleton, Signal.heardFrom, if_pos rfl, FrameReader.feed_append,
      hfeed]
  have hconnected' : .connected ∉ signals ++ [.received .client bytes] := by simp [hconnected]
  have hsilent' : Silent (signals ++ [.received .client bytes]) :=
    hsilent.received_client bytes
  rw [Connection.listen]
  cases hmore : reader.feed bytes with
  | more reader' => exact .opening (hsaid.trans hmore) (by simp [hspeaks]) hconnected' hsilent'
  | done result rest =>
    cases result with
    | error cause =>
      have hnone : ∀ h : Handshake, Except.error cause = Except.ok h →
          routes.lookup (Route.Key.normalize h.hostname) = none := by simp
      exact .dropped (.inl ⟨_, rest, hsaid.trans hmore, hnone⟩) hconnected'
    | ok h =>
      simp only [behindHandshake]
      cases hroute : routes.lookup (Route.Key.normalize h.hostname) with
      | none =>
        refine .dropped (.inl ⟨_, rest, hsaid.trans hmore, ?_⟩) hconnected'
        rintro _ ⟨⟩
        exact hroute
      | some route =>
        have hleads : Leads routes _ h route rest := ⟨hsaid.trans hmore, hroute⟩
        have hdial := Stage.dialing hleads hconnected' hsilent'
        simpa [call, firstWords, hspeaks] using hdial

/-- A call to a backend is a stage. -/
theorem Stage.of_called {h : Handshake} {route : Route} {rest : List Byte}
    (hleads : Leads routes (heard .client signals) h route rest)
    (hcalled : Called route [] (firstWords h route rest) signals c effects) :
    Stage routes signals c effects := by
  cases hcalled with
  | dialing hconnected hsilent => exact .dialing hleads hconnected hsilent
  | refused hconnected hrefused => exact .refused hleads hconnected hrefused
  | piping hconnected hdialed hup hdown => exact .piping hleads hconnected hdialed hup hdown

/-- A call stays a stage with every signal that may follow. -/
theorem Stage.step_called {h : Handshake} {route : Route} {rest : List Byte}
    (hleads : Leads routes (heard .client signals) h route rest)
    (hcalled : Called route [] (firstWords h route rest) signals c effects)
    (hnext : MayFollow signals (dialed effects) signal) :
    Stage routes (signals ++ [signal]) (c.step routes peer signal).1
      (effects ++ (c.step routes peer signal).2) := by
  refine .of_called (hleads.snoc signal) ?_
  rw [firstWords_append]
  exact hcalled.step hnext

/-- **A stage is left for a stage** by every signal that may follow. -/
theorem Stage.step (hstage : Stage routes signals c effects)
    (hnext : MayFollow signals (dialed effects) signal) :
    Stage routes (signals ++ [signal]) (c.step routes peer signal).1
      (effects ++ (c.step routes peer signal).2) := by
  cases hstage with
  | @opening reader hfeed hspeaks hconnected hsilent =>
    obtain ⟨bytes, rfl, -⟩ | ⟨rfl, -⟩ | ⟨hdialed, -⟩ := hnext.of_not_connected hconnected
    · exact Stage.listen hfeed hspeaks hconnected hsilent
    · refine .dropped (.inr ⟨by simp, reader, ?_⟩) (by simp [hconnected])
      simpa [Signal.heardFrom] using hfeed
    · exact absurd rfl hdialed
  | dropped hnowhere hconnected =>
    -- a client whose frame is not complete has ended, so it says no more
    obtain ⟨bytes, rfl, hspeaks⟩ | ⟨rfl, hspeaks⟩ | ⟨hdialed, -⟩ :=
      hnext.of_not_connected hconnected
    · have hnowhere' := hnowhere.resolve_right fun h => hspeaks h.1
      exact .dropped (.inl (hnowhere'.snoc _)) (by simp [hconnected])
    · have hnowhere' := hnowhere.resolve_right fun h => hspeaks h.1
      exact .dropped (.inl (hnowhere'.snoc _)) (by simp [hconnected])
    · exact absurd rfl hdialed
  | dialing hleads hconnected hsilent =>
    exact Stage.step_called hleads (.dialing hconnected hsilent) hnext
  | refused hleads hconnected hrefused =>
    exact Stage.step_called hleads (.refused hconnected hrefused) hnext
  | piping hleads hconnected hdialed hup hdown =>
    exact Stage.step_called hleads (.piping hconnected hdialed hup hdown) hnext

/-- Every undisturbed history of a client of the game's protocol leads to a stage. -/
theorem Undisturbed.stage (hs : Undisturbed .minecraft routes peer signals) :
    Stage routes signals (run .minecraft routes peer signals).1
      (run .minecraft routes peer signals).2 := by
  induction hs with
  | nil => exact .opening rfl nofun nofun ⟨rfl, nofun⟩
  | snoc _ next ih =>
    rw [run_snoc]
    exact ih.step next

/-! ### The streams -/

/-- A client is led to a route when the bytes it says begin with a frame for it. -/
theorem leads_iff {said rest : List Byte} {h : Handshake} {route : Route} :
    Leads routes said h route rest ↔
      (Handshake.decodeFrame said = .ok h ∧ Handshake.behindFrame said = rest) ∧
        routes.lookup (Route.Key.normalize h.hostname) = some route := by
  rw [Leads, FrameReader.feed_start_eq_done_ok_iff]

theorem Leads.unique {said rest rest' : List Byte} {h h' : Handshake} {route route' : Route}
    (hleads : Leads routes said h route rest) (hleads' : Leads routes said h' route' rest') :
    h' = h ∧ route' = route ∧ rest' = rest := by
  obtain ⟨⟨hframe, rfl⟩, hroute⟩ := leads_iff.1 hleads
  obtain ⟨⟨hframe', rfl⟩, hroute'⟩ := leads_iff.1 hleads'
  obtain rfl := Except.ok.inj (hframe'.symm.trans hframe)
  exact ⟨rfl, Option.some.inj (hroute'.symm.trans hroute), rfl⟩

/-- A client that is led to a route is a call to it. -/
theorem Stage.called {h : Handshake} {route : Route} {rest : List Byte}
    (hstage : Stage routes signals c effects)
    (hleads : Leads routes (heard .client signals) h route rest) :
    Called route [] (firstWords h route rest) signals c effects := by
  cases hstage with
  | opening hfeed => exact absurd (hfeed.symm.trans hleads.1) nofun
  | dropped hnowhere =>
    rcases hnowhere with ⟨result, rest', hfeed, hnone⟩ | ⟨-, reader, hfeed⟩
    · obtain ⟨rfl, -⟩ := FrameReader.Fed.done.inj (hfeed.symm.trans hleads.1)
      exact absurd (hleads.2.symm.trans (hnone h rfl)) nofun
    · exact absurd (hfeed.symm.trans hleads.1) nofun
  | dialing hleads' hconnected hsilent =>
    obtain ⟨rfl, rfl, rfl⟩ := hleads'.unique hleads
    exact .dialing hconnected hsilent
  | refused hleads' hconnected hrefused =>
    obtain ⟨rfl, rfl, rfl⟩ := hleads'.unique hleads
    exact .refused hconnected hrefused
  | piping hleads' hconnected hdialed hup hdown =>
    obtain ⟨rfl, rfl, rfl⟩ := hleads'.unique hleads
    exact .piping hconnected hdialed hup hdown

/-- What is done for a client that is led to a route. -/
theorem Stage.of_leads {h : Handshake} {route : Route} {rest : List Byte}
    (hstage : Stage routes signals c effects)
    (hleads : Leads routes (heard .client signals) h route rest) :
    dialed effects = [route] ∧
      (.connected ∈ signals → sent .backend effects = firstWords h route rest ∧
        sent .client effects = heard .backend signals) ∧
      (.connected ∉ signals → sent .backend effects = [] ∧ sent .client effects = []) := by
  obtain ⟨hdialed, htaken, hwaiting⟩ := (hstage.called hleads).streams
  refine ⟨hdialed, htaken, fun hconnected => ?_⟩
  simpa using hwaiting hconnected

/-- What is done for a client that is led to no route: nothing that anybody hears of. -/
theorem Stage.of_not_leads (hstage : Stage routes signals c effects)
    (hnot : ∀ h route rest, ¬Leads routes (heard .client signals) h route rest) :
    dialed effects = [] ∧ sent .backend effects = [] ∧ sent .client effects = [] := by
  cases hstage with
  | opening => exact ⟨rfl, rfl, rfl⟩
  | dropped => exact ⟨rfl, rfl, rfl⟩
  | dialing hleads | refused hleads | piping hleads => exact absurd hleads (hnot _ _ _)

/-- **Nothing is lost, doubled or displaced behind a handshake.** In an undisturbed history of a
connection, however the client's words are cut: if they begin with a frame, and its handshake asks
for a host that has a route, then no backend but that of the route is dialed; once it has taken
the connection, it has been sent the handshake for it, and all that the client has said behind its
frame, and the client what the backend has said; until then nobody has been sent anything. The
handshake for a backend asks for `localhost` on its port, with the same markers. Otherwise no
backend is dialed, and nobody is sent anything. -/
theorem forwarded_exactly (hs : Undisturbed .minecraft routes peer signals) :
    let stream := heard .client signals
    let effects := (run .minecraft routes peer signals).2
    (∀ h route, Handshake.decodeFrame stream = .ok h →
      routes.lookup (Route.Key.normalize h.hostname) = some route →
        dialed effects = [route] ∧
        (.connected ∈ signals →
          (∃ address : String,
            textBytes address =
              textBytes "localhost" ++ (textBytes h.serverAddress).dropWhile (· ≠ 0) ∧
            sent .backend effects =
              { h with serverAddress := address, serverPort := route.backendPort }.encodeFrame ++
                Handshake.behindFrame stream) ∧
          sent .client effects = heard .backend signals) ∧
        (.connected ∉ signals → sent .backend effects = [] ∧ sent .client effects = [])) ∧
    ((∀ h route, Handshake.decodeFrame stream = .ok h →
        routes.lookup (Route.Key.normalize h.hostname) ≠ some route) →
      dialed effects = [] ∧ sent .backend effects = [] ∧ sent .client effects = []) := by
  intro stream effects
  have hstage : Stage routes signals _ effects := hs.stage
  refine ⟨fun h route hframe hroute => ?_, fun hnone => ?_⟩
  · have hleads : Leads routes stream h route (Handshake.behindFrame stream) :=
      leads_iff.2 ⟨⟨hframe, rfl⟩, hroute⟩
    obtain ⟨hdialed, htaken, hwaiting⟩ := hstage.of_leads hleads
    refine ⟨hdialed, fun hconnected => ⟨?_, (htaken hconnected).2⟩, hwaiting⟩
    exact ⟨_, Handshake.textBytes_forBackend h route.backendPort, (htaken hconnected).1⟩
  · refine hstage.of_not_leads fun h route rest hleads => ?_
    obtain ⟨⟨hframe, -⟩, hroute⟩ := leads_iff.1 hleads
    exact hnone h route hframe hroute

/-- A modified client's frame comes in two pieces, the second with what it says next, and both sides
speak on until they end. -/
theorem forwarded_exactly_marked :
    let h : Handshake := ⟨767, "Lobby.Example\x00FML\x00", 25565, 2⟩
    let routes := (Route.Table.empty true).add "lobby" "lobby.example" "172.18.0.2" 25570
    let history : List Signal :=
      [.received .client (h.encodeFrame.take 5), .received .client (h.encodeFrame.drop 5 ++ [1, 2]),
        .connected, .received .backend [3], .received .client [4], .ended .client,
        .received .backend [5, 6], .ended .backend]
    let effects := (run .minecraft routes .loopback history).2
    Undisturbed .minecraft routes .loopback history ∧
      sent .backend effects =
        Handshake.encodeFrame ⟨767, "localhost\x00FML\x00", 25570, 2⟩ ++ [1, 2, 4] ∧
      sent .client effects = [3, 5, 6] := by
  intro h routes history effects
  let route : Route := ⟨"lobby", "lobby.example", "172.18.0.2", 25570, true⟩
  have hn : h.payloadLength ≤ Handshake.maxFrame := by decide
  have hframe (rest : List Byte) : Handshake.decodeFrame (h.encodeFrame ++ rest) = .ok h := by
    rw [Handshake.decodeFrame_encodeFrame_append (Nat.lt_of_le_of_lt hn (by decide)), if_pos hn]
  have hroute : routes.lookup (Route.Key.normalize h.hostname) = some route := by
    have hkey : routes.keyOf (Route.Key.normalize h.hostname) = "lobby.example" := by
      decide +kernel
    rw [Route.Table.lookup, hkey, Route.Table.get?_add, if_pos (by decide +kernel)]
    rfl
  have hcut (rest : List Byte) : h.encodeFrame.take 5 ++ (h.encodeFrame.drop 5 ++ rest) =
      h.encodeFrame ++ rest := by
    rw [← List.append_assoc, List.take_append_drop]
  have hasked : Undisturbed .minecraft routes .loopback (history.take 2) :=
    .snoc (.snoc .nil (by simp [MayFollow])) (by simp [MayFollow])
  have hdialed : dialed (run .minecraft routes .loopback (history.take 2)).2 = [route] := by
    refine ((forwarded_exactly hasked).1 h route ?_ hroute).1
    have hheard : heard .client (history.take 2) = h.encodeFrame ++ [1, 2] := by
      simp [history, heard, Signal.heardFrom, hcut]
    rw [hheard]
    exact hframe [1, 2]
  have hs : Undisturbed .minecraft routes .loopback history := by
    refine .snoc (.snoc (.snoc (.snoc (.snoc (.snoc hasked ?_) ?_) ?_) ?_) ?_) ?_
    · exact ⟨by simp [hdialed], by simp [history], by simp [history]⟩
    all_goals simp [MayFollow, history]
  have hheard : heard .client history = h.encodeFrame ++ [1, 2, 4] := by
    simp [history, heard, Signal.heardFrom, hcut]
  obtain ⟨-, hsent, -⟩ := (forwarded_exactly hs).1 h route (hheard ▸ hframe _) hroute
  obtain ⟨⟨address, haddress, hbackend⟩, hclient⟩ := hsent (by simp [history])
  have hlocal : textBytes address = textBytes "localhost\x00FML\x00" :=
    haddress.trans (by decide +kernel)
  obtain rfl : address = "localhost\x00FML\x00" := Handshake.textBytes_injective hlocal
  rw [hheard, Handshake.behindFrame_encodeFrame_append (Nat.lt_of_le_of_lt hn (by decide))]
    at hbackend
  exact ⟨hs, hbackend, hclient⟩

end Connection

end GameGateway.Relay
