import GameGateway.Event.Format
import GameGateway.Proofs.Record.RoundTrip
import GameGateway.Proofs.Time.Text

/-!
# Reading events back

Events and their envelopes are read back from their JSON form as the records are
(`Event.recovers`, `Envelope.read_toJson`). An event's fields are read by what its type says, and
an option that is left out is absent.

Main statement: **every text that is written of a record, a document, an event or an envelope is
read back**, without white space and on lines (`text_round_trips`). Of an envelope's time no more is
asked than that it is a moment.
-/

namespace GameGateway

open Json

theorem Resource.recovers : Recovers 0 Resource.toJson Resource.read :=
  recovers_variant fun r => by cases r <;> rfl

theorem EventId.recovers : Recovers 0 EventId.toJson EventId.read := by
  intro mode h e
  rw [EventId.read, EventId.toJson, recovers_int64 mode h e.value]
  rfl

/-- A timestamp is read back from its text. -/
theorem readTimestamp_ofText {t : Time.Timestamp} (ht : t.Valid) (mode : Mode) :
    readTimestamp mode (Value.ofText t).draft = .ok t := by
  have htext : (Value.ofText t).draft = .string (some t.toString) := by
    rw [Value.ofText, Value.draft]
    rfl
  rw [htext, readTimestamp, Time.Timestamp.parse_toString ht]
  rfl

/-! ### Events -/

namespace Event

theorem map_fst_presentMember_sublist {α : Type} (key : String) (write : α → Value)
    (a : Option α) : ((presentMember key write a).map Prod.fst).Sublist [key] := by
  cases a with
  | none => exact List.nil_sublist _
  | some a => exact .refl _

variable (server : ServerId) (hostname : Option String) (listener : Option ListenerId)

/-- Members that are not told are left out, and the others keep their order. -/
theorem map_fst_payload_serverUpdated_sublist :
    ((serverUpdated server hostname listener).payload.map Prod.fst).Sublist
      ["server_id", "previous_hostname", "previous_listener_id"] := by
  rw [payload, List.map_append]
  exact ((map_fst_presentMember_sublist ..).append (map_fst_presentMember_sublist ..)).cons_cons _

/-- What the server had is found in the payload under its name, if it is told. -/
theorem lookup_payload_serverUpdated :
    (serverUpdated server hostname listener).payload.lookup "previous_hostname" =
        hostname.map .string ∧
      (serverUpdated server hostname listener).payload.lookup "previous_listener_id" =
        listener.map Id.toJson := by
  cases hostname <;> cases listener <;> exact ⟨rfl, rfl⟩

/-- **The type of an event says how its fields are read.** -/
theorem exists_read_payload (e : Event) :
    ∃ read, variants.lookup e.typeName = some read ∧
      ∀ mode : Mode, mode.Allows 1 → read mode (Value.object e.payload).draft = .ok e := by
  cases e with
  | serverStatusChanged server status =>
    refine ⟨_, rfl, fun mode => Fields.Fills.readObject (fun mode h => ?_) _ (by decide) (.refl _)⟩
    exact (Fields.fills_of mode _ serverStatusChanged)
      |>.field rfl (recovers_id .server mode h server)
      |>.field rfl (Status.recovers mode h status)
  | serverUpdated server hostname listener =>
    refine ⟨_, rfl, fun mode => Fields.Fills.readObject (fun mode h => ?_) _ (by decide)
      (map_fst_payload_serverUpdated_sublist ..)⟩
    -- what the server had not changed is left out, so its members are fewer than the fields
    obtain ⟨hhostname, hlistener⟩ := lookup_payload_serverUpdated server hostname listener
    exact (Fields.fills_of mode _ serverUpdated)
      |>.field rfl (recovers_id .server mode h server)
      |>.option hhostname (recovers_optionString mode h hostname)
      |>.option hlistener (recovers_optionId .listener mode h listener)
  | serverDeleted server =>
    refine ⟨_, rfl, fun mode => Fields.Fills.readObject (fun mode h => ?_) _ (by decide) (.refl _)⟩
    exact (Fields.fills_of mode _ serverDeleted)
      |>.field rfl (recovers_id .server mode h server)
  | listenerCreated listener port | listenerDeleted listener port =>
    refine ⟨_, rfl, fun mode => Fields.Fills.readObject (fun mode h => ?_) _ (by decide) (.refl _)⟩
    exact (Fields.fills_of mode _ _)
      |>.field rfl (recovers_id .listener mode h listener)
      |>.field rfl (recovers_uint16 mode h port)
  | moduleUpdated id server | moduleDeleted id server =>
    refine ⟨_, rfl, fun mode => Fields.Fills.readObject (fun mode h => ?_) _ (by decide) (.refl _)⟩
    exact (Fields.fills_of mode _ _)
      |>.field rfl (recovers_id .module mode h id)
      |>.field rfl (recovers_id .server mode h server)

/-- **An event is read back from its JSON form.** -/
theorem recovers : Recovers 2 toJson read := by
  intro mode hmode e
  obtain ⟨read, hlookup, hread⟩ := e.exists_read_payload
  exact Tagged.read_object (t := tagged) (by decide) hlookup hread hmode

end Event

/-! ### Envelopes -/

namespace Envelope

/-- **An envelope is read back from its JSON form** if its time is a moment. -/
theorem read_toJson {e : Envelope} (he : e.occurredAt.Valid) {mode : Mode} (hmode : mode.Allows 3) :
    read mode e.toJson.draft = .ok e := by
  rw [read, toJson, Fields.read_object]
  refine Fields.Fills.readObject (fun mode h => ?_) _ (by decide) (.refl _) hmode
  have h0 : mode.Allows 0 := h.mono (Nat.zero_le 2)
  exact (Fields.fills_of mode _ Envelope.mk)
    |>.field rfl (EventId.recovers mode h0 e.id)
    |>.field rfl (readTimestamp_ofText he mode)
    |>.field rfl (Resource.recovers mode h0 e.resource)
    |>.field rfl (recovers_string mode h0 e.resourceId)
    |>.field rfl (recovers_int32 mode h0 e.version)
    |>.field rfl (Event.recovers mode h e.event)

end Envelope

/-! ### Texts -/

/-- **Every event is read back in its envelope**, if that tells a valid time. -/
theorem Envelope.readsBack {e : Envelope} (he : e.occurredAt.Valid) :
    ReadsBack Envelope.toJson Envelope.read e := by
  have hread : Envelope.read { depth := maxDepth } e.toJson.draft = .ok e :=
    Envelope.read_toJson he (.inr (by decide))
  constructor
  · rw [ofText_compact, hread]
  · rw [ofText_pretty, hread]

/-- **Every text that is written is read back**: records, ports of modules, documents, events, and
the envelopes whose times are moments. -/
theorem text_round_trips :
    (∀ l : Listener, ReadsBack Listener.toJson Listener.read l) ∧
    (∀ s : Server, ReadsBack Server.toJson Server.read s) ∧
    (∀ m : Module, ReadsBack Module.toJson Module.read m) ∧
    (∀ p : ModulePort, ReadsBack ModulePort.toJson ModulePort.read p) ∧
    (∀ p : Panel, ReadsBack Panel.toJson Panel.read p) ∧
    (∀ e : Event, ReadsBack Event.toJson Event.read e) ∧
    ∀ e : Envelope, e.occurredAt.Valid → ReadsBack Envelope.toJson Envelope.read e :=
  ⟨Listener.recovers.readsBack (by decide), Server.recovers.readsBack (by decide),
    Module.recovers.readsBack (by decide), ModulePort.recovers.readsBack (by decide),
    Panel.recovers.readsBack (by decide), Event.recovers.readsBack (by decide),
    fun _ => Envelope.readsBack⟩

/-- The update of a server at the last nanosecond of a leap day: its former host holds a quotation
mark, a backslash, a control character and a character beyond the first plane. -/
def leapDayUpdate : Envelope :=
  .of ⟨7⟩ ⟨⟨2024, 2, 29⟩, 23, 59, 59, 999999999⟩
    (.serverUpdated (Id.ofNat .server 1) (some "a\"b\\c\n\u0001😀") none)

theorem readsBack_leapDayUpdate :
    leapDayUpdate.occurredAt.Valid ∧ ReadsBack Envelope.toJson Envelope.read leapDayUpdate :=
  ⟨by decide, text_round_trips.2.2.2.2.2.2 leapDayUpdate (by decide)⟩

end GameGateway
