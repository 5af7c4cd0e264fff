import GameGateway.Record.Update

/-!
# What a change of the document does

For each of the six changes of the panel's document: when it succeeds, and the document it makes
then (`Panel.saveListener_eq_ok_iff` and so on). All that is proved of changes rests on these.
-/

namespace GameGateway.Panel

variable {p p' : Panel}

/-! ### Looking records up -/

theorem isSome_listener?_iff {id : ListenerId} :
    (p.listener? id).isSome ↔ ∃ l ∈ p.listeners, l.id = id := by
  simp [listener?]

theorem isSome_server?_iff {id : ServerId} :
    (p.server? id).isSome ↔ ∃ s ∈ p.servers, s.id = id := by
  simp [server?]

theorem usersOf_eq_nil_iff {id : ListenerId} :
    p.usersOf id = [] ↔ ∀ s ∈ p.servers, s.listener ≠ some id := by
  simp [usersOf]

/-! ### The changes -/

/-- A listener is saved if no other has its port, and is the only default one if it is to be it. -/
theorem saveListener_eq_ok_iff {l : Listener} :
    p.saveListener l = .ok p' ↔
      (∀ a ∈ p.listeners, a.id ≠ l.id → a.port ≠ l.port) ∧
        p' = { p with
          listeners := upsert (·.id) l
            (if l.isDefault then p.listeners.map fun a => { a with isDefault := false }
              else p.listeners) } := by
  have hfree : p.listeners.find? (fun a => a.port = l.port && a.id ≠ l.id) = none ↔
      ∀ a ∈ p.listeners, a.id ≠ l.id → a.port ≠ l.port := by
    simp only [List.find?_eq_none, Bool.and_eq_true, decide_eq_true_eq, not_and, ne_eq]
    exact forall₂_congr fun a _ => ⟨fun h hid hport => h hport hid, fun h hport hid => h hid hport⟩
  unfold saveListener
  cases hfind : p.listeners.find? (fun a => a.port = l.port && a.id ≠ l.id) with
  | some other =>
    refine iff_of_false nofun fun h => ?_
    exact absurd (hfind.symm.trans (hfree.2 h.1)) nofun
  | none =>
    rw [and_iff_right (hfree.1 hfind)]
    exact ⟨fun h => (Except.ok.inj h).symm, fun h => congrArg Except.ok h.symm⟩

/-- A listener is deleted if no server is reached through it. -/
theorem deleteListener_eq_ok_iff {id : ListenerId} {l : Listener} :
    p.deleteListener id = .ok (l, p') ↔
      (∀ s ∈ p.servers, s.listener ≠ some id) ∧ p.listener? id = some l ∧
        p' = { p with listeners := p.listeners.eraseP (·.id = id) } := by
  rw [← usersOf_eq_nil_iff]
  unfold deleteListener
  cases p.usersOf id <;> cases p.listener? id <;> simp [eq_comm (a := p')]

/-- A server is saved if its listener is there. -/
theorem saveServer_eq_ok_iff {s : Server} :
    p.saveServer s = .ok p' ↔
      (∀ id ∈ s.listener, ∃ l ∈ p.listeners, l.id = id) ∧
        p' = { p with servers := upsert (·.id) s p.servers } := by
  simp only [← isSome_listener?_iff]
  unfold saveServer
  cases s.listener with
  | none => simp [eq_comm (a := p')]
  | some id => cases h : p.listener? id <;> simp [h, Option.filter, eq_comm (a := p')]

/-- A server is deleted with its modules. -/
theorem deleteServer_eq_ok_iff {id : ServerId} {s : Server} :
    p.deleteServer id = .ok (s, p') ↔
      p.server? id = some s ∧
        p' = { p with
          servers := p.servers.eraseP (·.id = id)
          modules := p.modules.filter (·.server ≠ id) } := by
  unfold deleteServer
  cases p.server? id <;> simp [eq_comm (a := p')]

/-- A module is saved if its server is there. -/
theorem saveModule_eq_ok_iff {m : Module} :
    p.saveModule m = .ok p' ↔
      (∃ s ∈ p.servers, s.id = m.server) ∧
        p' = { p with modules := upsert (·.id) m p.modules } := by
  rw [← isSome_server?_iff]
  unfold saveModule
  cases p.server? m.server <;> simp [eq_comm (a := p')]

theorem deleteModule_eq_ok_iff {id : ModuleId} {m : Module} :
    p.deleteModule id = .ok (m, p') ↔
      p.module? id = some m ∧ p' = { p with modules := p.modules.eraseP (·.id = id) } := by
  unfold deleteModule
  cases p.module? id <;> simp [eq_comm (a := p')]

end GameGateway.Panel
