import GameGateway.Proofs.Text.Splitting
import GameGateway.Proofs.Wire.Rewriting
import GameGateway.Relay.Connection
import Mathlib.Data.List.Induction

/-!
# How a request is treated

Whether a request asks for WebSocket, and where it is then led, is told in two ways: by the head
that opens a connection, which goes by the last line of a name, and by each later request, which
goes by the first line with a host and by every line with an upgrade. What is taken for a text also
differs: any UTF-8 the first time, printable ASCII later.

So a head may be treated in two ways, according to where on its connection it comes. It is treated
alike exactly when no line names WebSocket, or the last one with an upgrade does and the hosts of
the two ways have the same routing key (`treatedAlike_iff`); which is so whenever neither name is
repeated and the host is printable.
-/

namespace GameGateway

/-! ### Hosts and routes -/

namespace Route.Table

variable {host other : Option String} {x y : String}

/-- Spellings of one routing key find the same route. -/
theorem lookup_congr {routes : Table} (h : Key.normalize x = Key.normalize y) :
    routes.lookup x = routes.lookup y := by
  rw [lookup, lookup, keyOf, keyOf, h]

/-- The table with nothing but a route under the key of a spelling. -/
def onlyRoute (spelling : String) : Table :=
  (empty true).add "" spelling "" 0

theorem isSome_lookup_onlyRoute : (host.bind (onlyRoute x).lookup).isSome = true ↔
    host.map Key.normalize = some (Key.normalize x) := by
  cases host with
  | none => exact iff_of_false nofun nofun
  | some y =>
    have hkey : (onlyRoute x).keyOf y = Key.normalize y := rfl
    have hadded : (empty true).keyOf x = Key.normalize x := rfl
    rw [Option.bind_some, Option.map_some, Option.some_inj, lookup, hkey, onlyRoute, get?_add,
      hadded, eq_comm (a := Key.normalize y)]
    split
    · next h => simp [h]
    · next h => simp [h]

/-- Hosts lead to the same routes, whatever the table, just when they have the same routing key. -/
theorem forall_lookup_eq_iff :
    (∀ routes : Table, host.bind routes.lookup = other.bind routes.lookup) ↔
      host.map Key.normalize = other.map Key.normalize := by
  constructor
  · intro h
    have hkey : ∀ x, host.map Key.normalize = some (Key.normalize x) ↔
        other.map Key.normalize = some (Key.normalize x) := by
      intro x
      rw [← isSome_lookup_onlyRoute, ← isSome_lookup_onlyRoute, h]
    cases host with
    | none =>
      cases other with
      | none => rfl
      | some y => exact (hkey y).mpr rfl
    | some x => exact ((hkey x).mp rfl).symm
  · intro h routes
    cases host with
    | none =>
      cases other with
      | none => rfl
      | some y => cases h
    | some x =>
      cases other with
      | none => cases h
      | some y => exact lookup_congr (Option.some.inj h)

end Route.Table

namespace Http

open Wire (Byte)
open Wire.Handshake (textBytes)

/-! ### Texts -/

namespace Field

variable {value : List Byte} {text : String} {b : Byte}

theorem toNat_le_of_isTextByte (h : isTextByte b = true) : b.toNat ≤ 0x7f := by
  simp only [isTextByte, Bool.or_eq_true, Bool.and_eq_true, decide_eq_true_eq,
    UInt8.le_iff_toNat_le] at h
  rcases h with ⟨-, h⟩ | rfl
  · exact Nat.le_trans h (by decide)
  · decide

/-- A character of ASCII is written with its own byte. -/
theorem utf8EncodeChar_ofNat (h : b.toNat ≤ 0x7f) :
    String.utf8EncodeChar (Char.ofNat b.toNat) = [b] := by
  have hval : (Char.ofNat b.toNat).val.toNat = b.toNat := by
    have hvalid : b.toNat.isValidChar := .inl (by omega)
    rw [Char.ofNat, dif_pos hvalid]
    rfl
  simp only [String.utf8EncodeChar, hval, h, if_true, UInt8.ofNat_toNat]

theorem textBytes_asciiText (h : ∀ b ∈ value, b.toNat ≤ 0x7f) :
    textBytes (asciiText value) = value := by
  rw [asciiText, Wire.Handshake.textBytes_ofList, List.flatMap_map]
  induction value with
  | nil => rfl
  | cons b rest ih =>
    rw [List.flatMap_cons, utf8EncodeChar_ofNat (h b List.mem_cons_self),
      ih fun b hb => h b (List.mem_cons_of_mem _ hb)]
    rfl

theorem text?_eq_some_iff :
    text? value = some text ↔ value.all isTextByte = true ∧ asciiText value = text := by
  rw [text?, Option.ite_none_right_eq_some, Option.some_inj]

/-- **A printable text is the same text in UTF-8.** -/
theorem utf8?_of_text? (h : text? value = some text) : utf8? value = some text := by
  obtain ⟨hprintable, rfl⟩ := text?_eq_some_iff.mp h
  have hbytes : textBytes (asciiText value) = value := textBytes_asciiText fun b hb =>
    toNat_le_of_isTextByte (List.all_eq_true.mp hprintable b hb)
  have hutf8 := Wire.Handshake.text?_textBytes (asciiText value)
  rwa [hbytes] at hutf8

end Field

theorem listItems_eq (text : String) :
    listItems text = (text.toList.splitOn ',').map fun item => trimBlank (String.ofList item) := by
  have hcomma : "," = String.ofList [','] := rfl
  rw [listItems, hcomma, Text.splitOn_ofList, List.map_map]
  rfl

/-- What a printable value with an upgrade names. -/
theorem namesWebsocket_of_text? {value : List Byte} {text : String}
    (h : Field.text? value = some text) : namesWebsocket value =
      (text.toList.splitOn ',').any fun item =>
        lowerAscii (trimBlank (String.ofList item)) = "websocket" := by
  rw [namesWebsocket, Field.utf8?_of_text? h, Option.any_some, listItems_eq, List.any_map,
    Function.comp_def]

/-! ### The wish, line by line -/

/-- What a wish becomes by one more line: each replaces what the lines before it said. -/
def Wish.heed (w : Wish) (f : Field) : Wish :=
  if f.name = "host" then { w with host := Field.utf8? f.value }
  else if f.name = "upgrade" then { w with websocket := namesWebsocket f.value }
  else w

namespace Fields

variable {fs : Fields} {f : Field} {name : String}

theorem lastValue?_concat : Fields.lastValue? (fs ++ [f]) name =
    if f.name = name then some f.value else fs.lastValue? name := by
  by_cases hname : f.name = name
  · simp [lastValue?, values, hname]
  · simp [lastValue?, values, hname]

theorem wish_concat : Fields.wish (fs ++ [f]) = fs.wish.heed f := by
  rw [wish, lastValue?_concat, lastValue?_concat, Wish.heed]
  by_cases hhost : f.name = "host"
  · have hother : f.name ≠ "upgrade" := by rw [hhost]; decide
    rw [if_pos hhost, if_neg hother, if_pos hhost]
    rfl
  · rw [if_neg hhost, if_neg hhost]
    by_cases hupgrade : f.name = "upgrade"
    · rw [if_pos hupgrade, if_pos hupgrade]
      rfl
    · rw [if_neg hupgrade, if_neg hupgrade]
      rfl

/-- **The wish of a head is what reading it line by line leaves.** -/
theorem wish_eq_foldl : fs.wish = fs.foldl Wish.heed { host := none, websocket := false } := by
  induction fs using List.reverseRecOn with
  | nil => rfl
  | append_singleton fs f ih => rw [wish_concat, ih, List.foldl_concat]

end Fields

/-! ### The two treatments -/

/-- The **treatment** of a request. -/
inductive Treatment where
  /-- It stays with HTTP. -/
  | plain
  /-- It is for WebSocket at the backend of a route, if there is one. -/
  | upgrade (route : Option Route)
  deriving DecidableEq, Repr

namespace Head

variable {routes : Route.Table} {h : Head}

/-- The treatment of a head that opens a connection. -/
def opening (routes : Route.Table) (h : Head) : Treatment :=
  if h.fields.wish.websocket then .upgrade (h.fields.wish.host.bind routes.lookup) else .plain

/-- The treatment of a head that comes later. -/
def later (routes : Route.Table) (h : Head) : Treatment :=
  if h.fields.isUpgrade then
    .upgrade ((h.fields.host? (Target.ofBytes h.target).authority).bind routes.lookup)
  else .plain

/-- A head is **treated alike** when its treatment does not depend on whether it opens a connection,
whatever the routes are. -/
def TreatedAlike (h : Head) : Prop :=
  ∀ routes, h.opening routes = h.later routes

/-- A first head for WebSocket goes to its backend as it came, and any other is served. -/
theorem behindHead_eq (peer : IpAddress) (buffered : List Byte) :
    Relay.Connection.behindHead routes peer h buffered =
      match h.opening routes with
      | .plain =>
        (.serving (Serving.start routes peer buffered).1, (Serving.start routes peer buffered).2)
      | .upgrade none =>
        (.closed, [.send .client Relay.Connection.badGateway, .finish .client, .close])
      | .upgrade (some route) =>
        Relay.Connection.call
          { route, first := buffered, apology := Relay.Connection.badGateway } := by
  unfold Relay.Connection.behindHead opening
  by_cases hwish : h.fields.wish.websocket = true
  · rw [if_pos hwish, if_pos hwish]
    cases h.fields.wish.host.bind routes.lookup with
    | none => rfl
    | some route => rfl
  · rw [if_neg hwish, if_neg hwish]

/-- A later request has a plan that is for WebSocket just when its treatment is, and with the same
route. -/
theorem later_of_plan {peer : IpAddress} {framing : Framing} {plan : Plan}
    (hplan : Plan.of? routes peer h framing = some plan) :
    h.later routes = if plan.upgrade then .upgrade (some plan.route) else .plain := by
  obtain ⟨host, hhost, route, hroute, heq⟩ :
      ∃ host, h.fields.host? (Target.ofBytes h.target).authority = some host ∧
        ∃ route, routes.lookup host = some route ∧
          route = plan.route ∧ h.fields.isUpgrade = plan.upgrade := by
    simp only [Plan.of?, Option.bind_eq_bind, Option.bind_eq_some_iff] at hplan
    obtain ⟨host, hhost, route, hroute, heq⟩ := hplan
    obtain rfl := Option.some.inj heq
    exact ⟨host, hhost, route, hroute, rfl, rfl⟩
  rw [later, hhost, Option.bind_some, hroute, heq.1, heq.2]

/-! ### When a head is treated alike -/

theorem wish_websocket_eq :
    h.fields.wish.websocket = (h.fields.lastValue? "upgrade").any namesWebsocket :=
  rfl

/-- What the last line names, some line does. -/
theorem isUpgrade_of_wish (hwish : h.fields.wish.websocket = true) : h.fields.isUpgrade = true := by
  obtain ⟨value, hlast, hnames⟩ := Option.any_eq_true _ _ |>.mp hwish
  exact List.any_eq_true.mpr ⟨value, List.mem_of_getLast? hlast, hnames⟩

/-- A target that is a path names no host. -/
theorem authority_eq_none (horigin : h.target.head? = some (asciiByte '/')) :
    (Target.ofBytes h.target).authority = none := by
  rw [Target.ofBytes, horigin]
  rfl

theorem host?_of_origin (horigin : h.target.head? = some (asciiByte '/')) :
    h.fields.host? (Target.ofBytes h.target).authority =
      (h.fields.value? "host").bind Field.text? := by
  rw [Fields.host?, authority_eq_none horigin]
  cases (h.fields.value? "host").bind Field.text? with
  | none => rfl
  | some host => rfl

/-- Of a name that is not repeated the first value is the last. -/
theorem lastValue?_eq_value? {fs : Fields} {name : String} (hone : (fs.values name).length ≤ 1) :
    fs.lastValue? name = fs.value? name := by
  rw [Fields.lastValue?, Fields.value?]
  match fs.values name, hone with
  | [], _ => rfl
  | [_], _ => rfl

/-- The hosts of the two treatments have the same routing key. -/
def HostsAgree (fs : Fields) : Prop :=
  ((fs.lastValue? "host").bind Field.utf8?).map Route.Key.normalize =
    ((fs.value? "host").bind Field.text?).map Route.Key.normalize

theorem hostsAgree_of_length_le {fs : Fields} (hone : (fs.values "host").length ≤ 1)
    (hprintable : ∀ value ∈ fs.values "host", (Field.text? value).isSome) : HostsAgree fs := by
  rw [HostsAgree, lastValue?_eq_value? hone]
  cases hvalue : fs.value? "host" with
  | none => rfl
  | some value =>
    obtain ⟨text, htext⟩ := Option.isSome_iff_exists.mp
      (hprintable value (List.mem_of_head? hvalue))
    rw [Option.bind_some, Option.bind_some, htext, Field.utf8?_of_text? htext]

/-- The only line with an upgrade is the last one. -/
theorem wish_of_isUpgrade (hone : (h.fields.values "upgrade").length ≤ 1)
    (hlater : h.fields.isUpgrade = true) : h.fields.wish.websocket = true := by
  obtain ⟨value, hmem, hnames⟩ := List.any_eq_true.mp hlater
  rw [wish_websocket_eq, Fields.lastValue?]
  match hvalues : h.fields.values "upgrade", hone with
  | [], _ =>
    rw [hvalues] at hmem
    cases hmem
  | [only], _ =>
    rw [hvalues, List.mem_singleton] at hmem
    rwa [hmem] at hnames

/-- A head is treated alike if it is plain both times, or for WebSocket with hosts that agree. -/
theorem treatedAlike_iff_isUpgrade (horigin : h.target.head? = some (asciiByte '/')) :
    h.TreatedAlike ↔
      h.fields.isUpgrade = false ∨ h.fields.wish.websocket = true ∧ HostsAgree h.fields := by
  unfold TreatedAlike opening later
  rw [host?_of_origin horigin]
  cases hfirst : h.fields.wish.websocket with
  | true =>
    rw [isUpgrade_of_wish hfirst]
    simp only [if_true, Treatment.upgrade.injEq, Route.Table.forall_lookup_eq_iff,
      Bool.true_eq_false, false_or, true_and]
    rfl
  | false =>
    cases h.fields.isUpgrade with
    | false => exact iff_of_true (fun _ => rfl) (.inl rfl)
    | true =>
      refine iff_of_false (fun hall => ?_) (by simp)
      cases hall (.empty true)

/-- **When a head is treated alike** at the beginning of its connection and later: just when no line
names WebSocket, or the last line with an upgrade does and the hosts of the two treatments have the
same routing key. That is so if no more than one line has an upgrade and no more than one a host,
which is printable. -/
theorem treatedAlike_iff (h : Head) (horigin : h.target.head? = some (asciiByte '/')) :
    (h.TreatedAlike ↔
      (∀ value ∈ h.fields.values "upgrade", namesWebsocket value = false) ∨
      (h.fields.lastValue? "upgrade").any namesWebsocket = true ∧ HostsAgree h.fields) ∧
    ((h.fields.values "upgrade").length ≤ 1 → (h.fields.values "host").length ≤ 1 →
      (∀ value ∈ h.fields.values "host", (Field.text? value).isSome) → h.TreatedAlike) := by
  have hplain : h.fields.isUpgrade = false ↔
      ∀ value ∈ h.fields.values "upgrade", namesWebsocket value = false := by
    simp [Fields.isUpgrade, List.any_eq_false]
  refine ⟨(treatedAlike_iff_isUpgrade horigin).trans (or_congr_left hplain),
    fun hupgrade hhost hprintable => ?_⟩
  rw [treatedAlike_iff_isUpgrade horigin]
  cases hlater : h.fields.isUpgrade with
  | false => exact .inl rfl
  | true =>
    exact .inr ⟨wish_of_isUpgrade hupgrade hlater, hostsAgree_of_length_le hhost hprintable⟩

/-- A head that names its host twice, in two spellings, and WebSocket in the last line with an
upgrade. -/
theorem treatedAlike_of_spellings :
    let h : Head := {
      method := asciiBytes "GET", target := asciiBytes "/ws", minorVersion := 1
      fields := [⟨"host", asciiBytes "app.example.com"⟩, ⟨"upgrade", asciiBytes "h2c"⟩,
        ⟨"host", asciiBytes "APP.example.com:80"⟩, ⟨"upgrade", asciiBytes "foo, WebSocket"⟩] }
    h.target.head? = some (asciiByte '/') ∧ h.fields.wish.websocket = true ∧ h.TreatedAlike := by
  intro h
  have horigin : h.target.head? = some (asciiByte '/') := by decide
  have hwish : (h.fields.lastValue? "upgrade").any namesWebsocket = true := by
    have hlast : h.fields.lastValue? "upgrade" = some (asciiBytes "foo, WebSocket") := by decide
    have htext : Field.text? (asciiBytes "foo, WebSocket") = some "foo, WebSocket" := by decide
    rw [hlast, Option.any_some, namesWebsocket_of_text? htext]
    decide
  have hhosts : HostsAgree h.fields := by
    have hlast : h.fields.lastValue? "host" = some (asciiBytes "APP.example.com:80") := by decide
    have hfirst : h.fields.value? "host" = some (asciiBytes "app.example.com") := by decide
    have htext : Field.text? (asciiBytes "APP.example.com:80") = some "APP.example.com:80" := by
      decide
    have hother : Field.text? (asciiBytes "app.example.com") = some "app.example.com" := by decide
    rw [HostsAgree, hlast, hfirst, Option.bind_some, Option.bind_some,
      Field.utf8?_of_text? htext, hother]
    decide
  exact ⟨horigin, hwish, (treatedAlike_iff h horigin).1.mpr (.inr ⟨hwish, hhosts⟩)⟩

/-- A head that names WebSocket in a line with an upgrade, but not in the last one, is plain when it
opens a connection. Later it is for WebSocket. -/
theorem not_treatedAlike_of_second_upgrade :
    let h : Head := {
      method := asciiBytes "GET", target := asciiBytes "/ws", minorVersion := 1
      fields := [⟨"host", asciiBytes "app.example.com"⟩, ⟨"connection", asciiBytes "Upgrade"⟩,
        ⟨"upgrade", asciiBytes "websocket"⟩, ⟨"upgrade", asciiBytes "h2c"⟩] }
    Head.scan (asciiBytes "GET /ws HTTP/1.1\r\nHost: app.example.com\r\nConnection: Upgrade\r\n" ++
      asciiBytes "Upgrade: websocket\r\nUpgrade: h2c\r\n\r\n") = .complete h [] ∧
    h.target.head? = some (asciiByte '/') ∧
    h.fields.wish.websocket = false ∧ h.fields.isUpgrade = true ∧ ¬h.TreatedAlike := by
  intro h
  have horigin : h.target.head? = some (asciiByte '/') := by decide
  have hfirst : h.fields.wish.websocket = false := by
    have hlast : h.fields.lastValue? "upgrade" = some (asciiBytes "h2c") := by decide
    have htext : Field.text? (asciiBytes "h2c") = some "h2c" := by decide
    rw [wish_websocket_eq, hlast, Option.any_some, namesWebsocket_of_text? htext]
    decide
  have hlater : h.fields.isUpgrade = true := by
    have hmem : asciiBytes "websocket" ∈ h.fields.values "upgrade" := by decide
    have htext : Field.text? (asciiBytes "websocket") = some "websocket" := by decide
    refine List.any_eq_true.mpr ⟨_, hmem, ?_⟩
    rw [namesWebsocket_of_text? htext]
    decide
  refine ⟨by decide +kernel, horigin, hfirst, hlater, fun halike => ?_⟩
  obtain hplain | ⟨hwish, -⟩ := (treatedAlike_iff_isUpgrade horigin).mp halike
  · exact Bool.false_ne_true (hplain.symm.trans hlater)
  · exact Bool.false_ne_true (hfirst.symm.trans hwish)

end Head

end Http

end GameGateway
