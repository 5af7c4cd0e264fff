import GameGateway.Proofs.Json.Reading
import GameGateway.Record.Format

/-!
# Reading records back

Every record is read back from its JSON form, and so is the whole document (`Panel.recovers`). An
option is told from its value since no value is written as `null`.
-/

namespace GameGateway

open Json

/-- Each status is read back from its name. -/
theorem Status.recovers : Recovers 0 Status.toJson Status.read :=
  recovers_variant fun s => by cases s <;> rfl

theorem recovers_optionString : Recovers 0 (Value.ofOption .string) (readOption readString) :=
  recovers_string.option fun s => by rw [Value.draft]; nofun

/-- What is left out of a record is read back as missing. -/
theorem recovers_optionId (r : Resource) :
    Recovers 0 (Value.ofOption Id.toJson) (readOption (readId r)) :=
  (recovers_id r).option fun id => by rw [Value.draft]; nofun

theorem recovers_optionPort : Recovers 0 (Value.ofOption portToJson) (readOption readUInt16) :=
  recovers_uint16.option fun port => by rw [Value.draft]; nofun

/-- A listener is read back. -/
theorem Listener.recovers : Recovers 1 Listener.toJson Listener.read := by
  refine Fields.recovers Listener.fields "ListenerRecord" (by decide) (fun _ => .refl _) ?_
  intro mode h l
  exact (Fields.fills_of mode _ Listener.mk)
    |>.field rfl (recovers_id .listener mode h l.id)
    |>.field rfl (recovers_uint16 mode h l.port)
    |>.field rfl (recovers_string mode h l.name)
    |>.field rfl (recovers_string mode h l.description)
    |>.field rfl (recovers_bool mode h l.enabled)
    |>.field rfl (recovers_bool mode h l.isDefault)

/-- A server is read back, its fields found by their names. -/
theorem Server.recovers : Recovers 1 Server.toJson Server.read := by
  refine Fields.recovers Server.fields "ServerRecord" (by decide) (fun _ => .refl _) ?_
  intro mode h s
  exact (Fields.fills_of mode _ Server.mk)
    |>.field rfl (recovers_id .server mode h s.id)
    |>.field rfl (recovers_string mode h s.name)
    |>.field rfl (recovers_optionString mode h s.container)
    |>.field rfl (Status.recovers mode h s.status)
    |>.field rfl (recovers_optionString mode h s.hostname)
    |>.field rfl (recovers_optionId .listener mode h s.listener)
    |>.field rfl (recovers_uint16 mode h s.gamePort)
    |>.field rfl (recovers_optionPort mode h s.proxyPort)

/-- A port of a module is read back. -/
theorem ModulePort.recovers : Recovers 1 ModulePort.toJson ModulePort.read := by
  refine Fields.recovers ModulePort.fields "ModulePort" (by decide) (fun _ => .refl _) ?_
  intro mode h p
  exact (Fields.fills_of mode _ ModulePort.mk)
    |>.field rfl (recovers_uint16 mode h p.listenPort)
    |>.field rfl (recovers_uint16 mode h p.backendPort)
    |>.field rfl (recovers_string mode h p.tag)
    |>.field rfl (recovers_optionString mode h p.hostname)

/-- A module is read back, with its ports two containers deeper. -/
theorem Module.recovers : Recovers 3 Module.toJson Module.read := by
  refine Fields.recovers Module.fields "ModuleRecord" (by decide) (fun _ => .refl _) ?_
  intro mode h m
  have h0 : mode.Allows 0 := h.mono (Nat.zero_le 2)
  exact (Fields.fills_of mode _ Module.mk)
    |>.field rfl (recovers_id .module mode h0 m.id)
    |>.field rfl (recovers_id .server mode h0 m.server)
    |>.field rfl (recovers_string mode h0 m.name)
    |>.field rfl (recovers_optionString mode h0 m.container)
    |>.field rfl (ModulePort.recovers.list mode h m.ports)

/-- **A document is read back from its JSON form.** -/
theorem Panel.recovers : Recovers 5 Panel.toJson Panel.read := by
  refine Fields.recovers Panel.fields "PanelData" (by decide) (fun _ => .refl _) ?_
  intro mode h p
  have h2 : mode.Allows 2 := h.mono (by decide)
  exact (Fields.fills_of mode _ Panel.mk)
    |>.field rfl (recovers_uint32 mode (h.mono (Nat.zero_le 4)) p.version)
    |>.field rfl (Listener.recovers.list mode h2 p.listeners)
    |>.field rfl (Server.recovers.list mode h2 p.servers)
    |>.field rfl (Module.recovers.list mode h p.modules)

end GameGateway
