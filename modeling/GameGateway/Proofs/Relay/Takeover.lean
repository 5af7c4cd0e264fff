import GameGateway.Http.Replay
import GameGateway.Proofs.Http.Treatment
import GameGateway.Proofs.Http.Turns
import GameGateway.Proofs.Relay.Calls

/-!
# Around the head of a first request

A connection of HTTP is read until the head of its first request is complete. How the client's words
are cut decides how many bytes behind the head have been read by then, but nothing else: the head is
the same, and the bytes that have been read go on with those still to come. For WebSocket the
backend gets all of them and the client all that the backend says; without a route the client gets
the fixed answer; and what stays with HTTP is served from a replay, in which nothing is lost or
repeated (`first_head_exactly`).

A prefix of a stream that begins with a head is incomplete, or has this head
(`scan_of_isPrefix`); the induction over the pieces rests on that.
-/

namespace GameGateway.Relay

open Http (Head Replay Serving asciiBytes)
open Wire (Byte)

/-! ### Pieces -/

/-- The piece that a side says in a signal. -/
def Signal.piece? (side : Side) : Signal → Option (List Byte)
  | .received s bytes => if s = side then some bytes else none
  | .ended _ | .failed _ | .connected | .refused | .overdue => none

/-- The pieces in which a side says what it says in a history. -/
def pieces (side : Side) (signals : List Signal) : List (List Byte) :=
  signals.filterMap (Signal.piece? side)

@[simp]
theorem pieces_append (side : Side) (xs ys : List Signal) :
    pieces side (xs ++ ys) = pieces side xs ++ pieces side ys := by
  simp [pieces]

theorem flatten_pieces (side : Side) (signals : List Signal) :
    (pieces side signals).flatten = heard side signals := by
  induction signals with
  | nil => rfl
  | cons signal signals ih =>
    rw [pieces] at ih ⊢
    rw [heard, List.flatMap_cons, ← heard, ← ih, List.filterMap_cons]
    cases signal with
    | received s bytes => by_cases hs : s = side <;> simp [Signal.piece?, Signal.heardFrom, hs]
    | ended _ | failed _ | connected | refused | overdue => rfl

/-- What a client has **spoken**, piece by piece. -/
def spoken (reads : List (List Byte)) : List Signal :=
  reads.map (.received .client)

@[simp]
theorem spoken_append (xs ys : List (List Byte)) : spoken (xs ++ ys) = spoken xs ++ spoken ys := by
  simp [spoken]

@[simp]
theorem pieces_spoken (reads : List (List Byte)) : pieces .client (spoken reads) = reads := by
  induction reads with
  | nil => rfl
  | cons piece reads ih => exact congrArg (piece :: ·) ih

@[simp]
theorem heard_spoken (reads : List (List Byte)) : heard .client (spoken reads) = reads.flatten := by
  rw [← flatten_pieces, pieces_spoken]

namespace Connection

variable {routes : Route.Table} {peer : IpAddress} {h : Head} {rest : List Byte}
  {reads told : List (List Byte)} {later : List Signal}

theorem silent_spoken (reads : List (List Byte)) : Silent (spoken reads) := by
  refine ⟨?_, by simp [spoken]⟩
  simp [heard, spoken, List.flatMap_map, Signal.heardFrom]

theorem runFrom_closed (signals : List Signal) :
    runFrom routes peer .closed signals = (.closed, []) := by
  induction signals with
  | nil => rfl
  | cons signal signals ih => simp [runFrom, step, ih]

/-! ### Reading a head -/

/-- If a stream begins with a head that is not too long, then what has come of it is incomplete and
not too long either, or has this head. -/
theorem scan_of_isPrefix {said stream : List Byte}
    (hhead : Head.scan (stream.take maxHead) = .complete h rest) (hsaid : said <+: stream) :
    (Head.scan said = .incomplete ∧ said.length ≤ maxHead) ∨
      ∃ rest', Head.scan said = .complete h rest' := by
  obtain hshort | hlong := Nat.le_total said.length maxHead
  · have hbegin : said <+: stream.take maxHead := List.prefix_take_iff.2 ⟨hsaid, hshort⟩
    exact (Head.stable_scan.complete_of_prefix hbegin hhead).imp_left fun hscan => ⟨hscan, hshort⟩
  · obtain ⟨more, rfl⟩ : stream.take maxHead <+: said :=
      List.prefix_of_prefix_length_le (List.take_prefix _ _) hsaid
        ((List.length_take_le _ _).trans hlong)
    refine .inr ⟨rest ++ more, ?_⟩
    rw [Head.stable_scan _ more (by simp [hhead]), hhead]
    rfl

/-- The pieces up to here are not all of a head: every one of them is read, and kept. -/
def ReadsOn (routes : Route.Table) (peer : IpAddress) (told : List (List Byte)) : Prop :=
  run .http routes peer (spoken told) = (.opening (.head told.flatten), [])

/-- A head is **told** in these pieces: with the last of them it is complete, and the connection
goes where it says, with all that has been read. -/
structure Told (routes : Route.Table) (peer : IpAddress) (h : Head) (told : List (List Byte)) :
    Prop where
  reads_on : ∀ part, part <+: told → part ≠ told → ReadsOn routes peer part
  leads_on : run .http routes peer (spoken told) = behindHead routes peer h told.flatten

/-- One more piece is read. -/
theorem ReadsOn.snoc (hreads : ReadsOn routes peer reads) (piece : List Byte) :
    run .http routes peer (spoken (reads ++ [piece])) =
      listen routes peer piece (.head reads.flatten) := by
  have hlast : spoken [piece] = [.received .client piece] := rfl
  rw [spoken_append, hlast, run_snoc, hreads]
  rfl

/-- Pieces from the front of a stream that begins with a head do not have all of it yet, or the
first of them tell it. -/
theorem readsOn_or_told {stream : List Byte}
    (hhead : Head.scan (stream.take maxHead) = .complete h rest)
    (hreads : reads.flatten <+: stream) :
    (Head.scan reads.flatten = .incomplete ∧ ∀ part, part <+: reads → ReadsOn routes peer part) ∨
      ∃ told untold, reads = told ++ untold ∧ Told routes peer h told := by
  induction reads using List.reverseRecOn with
  | nil =>
    refine .inl ⟨rfl, fun part hpart => ?_⟩
    rw [List.prefix_nil.1 hpart]
    rfl
  | append_singleton reads piece ih =>
    have hflat : (reads ++ [piece]).flatten = reads.flatten ++ piece := by simp
    have hbefore : reads.flatten <+: stream := (hflat ▸ List.prefix_append ..).trans hreads
    obtain ⟨-, hon⟩ | ⟨told, untold, rfl, htold⟩ := ih hbefore
    · have hnext := (hon reads (List.prefix_refl reads)).snoc piece
      obtain ⟨hscan, hshort⟩ | ⟨rest', hscan⟩ := scan_of_isPrefix hhead hreads
      · refine .inl ⟨hscan, fun part hpart => ?_⟩
        obtain rfl | hpart := List.prefix_concat_iff.1 hpart
        · rw [hflat] at hscan hshort
          rw [ReadsOn, hnext, hflat, listen, hscan]
          exact if_neg hshort.not_gt
        · exact hon part hpart
      · refine .inr ⟨reads ++ [piece], [], by simp, fun part hpart hne => ?_, ?_⟩
        · exact hon part ((List.prefix_concat_iff.1 hpart).resolve_left hne)
        · rw [hflat] at hscan
          rw [hnext, hflat, listen, hscan]
    · exact .inr ⟨told, untold ++ [piece], by simp, htold⟩

/-- **A head is told by the first pieces** of a stream that begins with it. -/
theorem exists_told (hhead : Head.scan (reads.flatten.take maxHead) = .complete h rest) :
    ∃ told untold, reads = told ++ untold ∧ Told routes peer h told := by
  refine (readsOn_or_told hhead (List.prefix_refl _)).resolve_left ?_
  rintro ⟨hscan, -⟩
  have hmore := Head.stable_scan (reads.flatten.take maxHead) (reads.flatten.drop maxHead)
    (by simp [hhead])
  rw [List.take_append_drop, hscan, hhead] at hmore
  simp [Http.Scanned.extend] at hmore

/-! ### Behind a head -/

/-- A head for WebSocket with a route makes a call, and all that has been read is its first
words. -/
theorem Told.called {route : Route} (htold : Told routes peer h told)
    (hroute : h.opening routes = .upgrade (some route)) :
    Called route badGateway told.flatten (spoken told) (run .http routes peer (spoken told)).1
      (run .http routes peer (spoken told)).2 := by
  have hcall : Called route badGateway told.flatten (spoken told) _ _ :=
    .dialing (by simp [spoken]) (silent_spoken told)
  rw [htold.leads_on, Head.behindHead_eq, hroute]
  simpa [call, spoken] using hcall

/-- A head for WebSocket without a route gets the fixed answer, whatever follows. -/
theorem Told.refused (htold : Told routes peer h told) (hroute : h.opening routes = .upgrade none)
    (later : List Signal) :
    (run .http routes peer (spoken told ++ later)).2 =
      [.send .client badGateway, .finish .client, .close] := by
  rw [run_append, htold.leads_on, Head.behindHead_eq, hroute, runFrom_closed]
  rfl

/-- A head that stays with HTTP is served with all that has been read ahead. -/
theorem Told.served (htold : Told routes peer h told) (hroute : h.opening routes = .plain)
    (later : List Signal) :
    let start := Serving.start routes peer told.flatten
    let served := runFrom routes peer (.serving start.1) later
    run .http routes peer (spoken told ++ later) = (served.1, start.2 ++ served.2) := by
  rw [run_append, htold.leads_on, Head.behindHead_eq, hroute]

theorem badGateway_eq : badGateway = asciiBytes
    "HTTP/1.1 502 Bad Gateway\r\ncontent-length: 11\r\nconnection: close\r\n\r\nBad Gateway" := by
  decide +kernel

/-- **Around the head of a first request no byte is lost or repeated.** Let a client speak in pieces
whose bytes begin with a head of no more than `maxHead` bytes, and then anything befall the
connection. However the bytes are cut, they are read until the head is complete, and it is this head
that decides:

* if it is for WebSocket and has a route, no backend but that of the route is dialed; in an
  undisturbed history a backend that has taken the connection has been sent all that the client has
  said, from the first byte on, and the client what the backend has said, and nothing has been sent
  to a backend before;
* if it is for WebSocket and has no route, the client gets the fixed answer, and nothing else is
  done;
* otherwise the connection is served with what has been read and then what still comes in: it starts
  as one on which nothing has been served yet does when it receives what has been read. A reader of
  this replay gets the client's bytes in order, however much it asks for at a time, and all of them
  when it reads on to the end. -/
theorem first_head_exactly (hhead : Head.scan (reads.flatten.take maxHead) = .complete h rest)
    (later : List Signal) :
    let signals := spoken reads ++ later
    let stream := heard .client signals
    let effects := (run .http routes peer signals).2
    ∃ told untold, reads = told ++ untold ∧ Told routes peer h told ∧
      (∀ route, h.opening routes = .upgrade (some route) →
        Undisturbed .http routes peer signals →
          dialed effects = [route] ∧
          (.connected ∈ signals →
            sent .backend effects = stream ∧ sent .client effects = heard .backend signals) ∧
          (.connected ∉ signals → sent .backend effects = [])) ∧
      (h.opening routes = .upgrade none → effects = [.send .client (asciiBytes
        "HTTP/1.1 502 Bad Gateway\r\ncontent-length: 11\r\nconnection: close\r\n\r\nBad Gateway"),
        .finish .client, .close]) ∧
      (h.opening routes = .plain →
        let replay : Replay := ⟨told.flatten, untold ++ pieces .client later⟩
        let start := Serving.start routes peer replay.ahead
        let served := runFrom routes peer (.serving start.1) (spoken untold ++ later)
        run .http routes peer signals = (served.1, start.2 ++ served.2) ∧
        start = Serving.step routes peer {} (.received .client replay.ahead) ∧
        replay.bytes = stream ∧
        ([] ∉ pieces .client signals → ∀ sizes, 0 ∉ sizes →
          (replay.readAll sizes).1.flatten <+: stream ∧
          ([] ∈ (replay.readAll sizes).1 ∨ stream.length ≤ sizes.length →
            (replay.readAll sizes).1.flatten = stream))) := by
  intro signals stream effects
  obtain ⟨told, untold, rfl, htold⟩ : ∃ told untold, reads = told ++ untold ∧
      Told routes peer h told := exists_told hhead
  have hsignals : signals = spoken told ++ (spoken untold ++ later) := by
    simp [signals]
  have hstream : stream = told.flatten ++ heard .client (spoken untold ++ later) := by
    simp [stream, signals]
  refine ⟨told, untold, rfl, htold, fun route hroute hs => ?_, fun hroute => ?_, fun hroute => ?_⟩
  · rw [hsignals] at hs
    have hcalled := (htold.called hroute).run_append hs
    rw [← hsignals, ← hstream] at hcalled
    obtain ⟨hdialed, htaken, hwaiting⟩ := hcalled.streams
    exact ⟨hdialed, htaken, fun hconnected => (hwaiting hconnected).1⟩
  · rw [← badGateway_eq, ← htold.refused hroute (spoken untold ++ later), ← hsignals]
  · intro replay start served
    have hbytes : replay.bytes = stream := by
      simp [replay, Replay.bytes, stream, signals, flatten_pieces]
    refine ⟨?_, Serving.start_eq_step .., hbytes, fun hfull sizes hsizes => ?_⟩
    · rw [hsignals]
      exact htold.served hroute (spoken untold ++ later)
    · have hlater : pieces .client signals = told ++ replay.pieces := by
        simp [signals, replay]
      have hpieces : [] ∉ replay.pieces := fun hmem => hfull (by simp [hlater, hmem])
      rw [← hbytes]
      exact Replay.readAll_exactly hsizes hpieces

/-- A request for WebSocket comes in two pieces, the second with the first frame, and both sides
speak on when the backend has taken the connection. -/
theorem first_head_exactly_cut :
    let request := asciiBytes "GET /ws HTTP/1.1\r\nHost: Map.Example:80\r\n" ++
      asciiBytes "Upgrade: foo, WebSocket\r\n\r\n"
    let routes := (Route.Table.empty true).add "map" "map.example" "172.18.0.2" 8080
    let reads := [request.take 30, request.drop 30 ++ [0x81, 0x01]]
    let later : List Signal :=
      [.connected, .received .backend [3], .received .client [0x21], .received .backend [4]]
    let effects := (run .http routes .loopback (spoken reads ++ later)).2
    Undisturbed .http routes .loopback (spoken reads ++ later) ∧
      sent .backend effects = request ++ [0x81, 0x01, 0x21] ∧
      sent .client effects = [3, 4] := by
  intro request routes reads later effects
  let h : Head := {
    method := asciiBytes "GET", target := asciiBytes "/ws", minorVersion := 1
    fields := [⟨"host", asciiBytes "Map.Example:80"⟩,
      ⟨"upgrade", asciiBytes "foo, WebSocket"⟩] }
  let route : Route := ⟨"map", "map.example", "172.18.0.2", 8080, true⟩
  have hhead : Head.scan (reads.flatten.take maxHead) = .complete h [0x81, 0x01] := by
    decide +kernel
  have hlookup : routes.lookup "Map.Example:80" = some route := by
    have hkey : routes.keyOf "Map.Example:80" = "map.example" := by decide +kernel
    rw [Route.Table.lookup, hkey, Route.Table.get?_add, if_pos (by decide +kernel)]
    rfl
  have hroute : h.opening routes = .upgrade (some route) := by
    have hupgrade : Http.Field.text? (asciiBytes "foo, WebSocket") = some "foo, WebSocket" := by
      decide
    have hhost : Http.Field.text? (asciiBytes "Map.Example:80") = some "Map.Example:80" := by
      decide
    have hwish : h.fields.wish = ⟨some "Map.Example:80", true⟩ := by
      have hlast : h.fields.lastValue? "upgrade" = some (asciiBytes "foo, WebSocket") := by
        decide
      have hname : h.fields.lastValue? "host" = some (asciiBytes "Map.Example:80") := by
        decide
      rw [Http.Fields.wish, hlast, hname, Option.bind_some, Option.any_some,
        Http.Field.utf8?_of_text? hhost, Http.namesWebsocket_of_text? hupgrade]
      decide
    rw [Head.opening, hwish, if_pos rfl, Option.bind_some, hlookup]
  have hasked : Undisturbed .http routes .loopback (spoken reads) :=
    .snoc (.snoc .nil (by simp [MayFollow])) (by simp [MayFollow])
  have hdialed : dialed (run .http routes .loopback (spoken reads)).2 = [route] := by
    obtain ⟨_, _, -, -, hcall, -⟩ := @first_head_exactly routes .loopback _ _ _ hhead []
    simpa using (hcall route hroute (by simpa using hasked)).1
  have hs : Undisturbed .http routes .loopback (spoken reads ++ later) := by
    refine .snoc (.snoc (.snoc (.snoc hasked ?_) ?_) ?_) ?_
    · exact ⟨by simp [hdialed], by simp [spoken], by simp [spoken]⟩
    all_goals simp [MayFollow, spoken]
  obtain ⟨_, _, -, -, hcall, -⟩ := @first_head_exactly routes .loopback _ _ _ hhead later
  obtain ⟨-, htaken, -⟩ := hcall route hroute hs
  have hsent := htaken (by simp [later])
  refine ⟨hs, hsent.1.trans ?_, hsent.2.trans ?_⟩
  · have hcut : request.take 30 ++ (request.drop 30 ++ [0x81, 0x01, 0x21]) =
        request ++ [0x81, 0x01, 0x21] := by
      rw [← List.append_assoc, List.take_append_drop]
    simpa [reads, later, heard, Signal.heardFrom, spoken] using hcut
  · simp [later, heard, Signal.heardFrom, spoken]

end Connection

end GameGateway.Relay
