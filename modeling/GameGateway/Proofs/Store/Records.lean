import GameGateway.Proofs.Record.Integrity

/-!
# What a change leaves alone

A change that succeeds puts one record into its list or takes one out of it, and leaves all others
as they are and in order, but for two effects that are meant: a default listener takes the mark from
the others, and the modules of a server go with it (`changes_leave_others`).

What becomes of a list is told by `Puts` and `Takes`, in terms of what is found under the key, of
the items with other keys and of the places of the keys.
-/

namespace GameGateway

/-! ### Items of a list -/

section Lists

variable {α κ : Type} [DecidableEq κ] {key : α → κ} {k : κ} {item : α} {l l' : List α}

/-- An item is **put** into a list when it is what is found under its key, while all items with
other keys are what they were, in the same order. A key that was there keeps its place, and a new
one comes last. -/
structure Puts (key : α → κ) (item : α) (l l' : List α) : Prop where
  found : l'.find? (fun a => key a = key item) = some item
  others : l'.filter (fun a => key a ≠ key item) = l.filter (fun a => key a ≠ key item)
  keys : l'.map key = if key item ∈ l.map key then l.map key else l.map key ++ [key item]

/-- An item is **taken** out of a list when it is what was found under its key, and what is left are
all items with other keys, in the same order. -/
structure Takes (key : α → κ) (item : α) (l l' : List α) : Prop where
  found : l.find? (fun a => key a = key item) = some item
  left : l' = l.filter (fun a => key a ≠ key item)

/-- What has been put in is found. -/
theorem find?_upsert : (upsert key item l).find? (fun a => key a = key item) = some item := by
  induction l with
  | nil => simp [upsert]
  | cons a rest ih =>
    rw [upsert]
    split
    · simp
    · next ha => simpa [ha] using ih

/-- Items with other keys stay what they were, in their order. -/
theorem filter_upsert : (upsert key item l).filter (fun a => key a ≠ key item) =
    l.filter (fun a => key a ≠ key item) := by
  induction l with
  | nil => simp [upsert]
  | cons a rest ih =>
    rw [upsert]
    split
    · next ha => simp [ha]
    · next ha => simpa [ha] using ih

/-- A key that is there keeps its place, and a new one comes last. -/
theorem map_upsert : (upsert key item l).map key =
    if key item ∈ l.map key then l.map key else l.map key ++ [key item] := by
  induction l with
  | nil => rfl
  | cons a rest ih =>
    rw [upsert]
    split
    · next ha => simp [ha]
    · next ha =>
      simp only [List.map_cons, ih, List.mem_cons, or_iff_right (Ne.symm ha)]
      split <;> rfl

/-- **Inserting or updating puts an item into a list**, in the sense above. -/
theorem puts_upsert : Puts key item l (upsert key item l) :=
  ⟨find?_upsert, filter_upsert, map_upsert⟩

/-- Where keys are distinct, taking away the first item with a key takes away all of them. -/
theorem Distinct.eraseP_eq_filter (h : Distinct key l) :
    l.eraseP (fun a => key a = k) = l.filter (fun a => key a ≠ k) := by
  induction l with
  | nil => rfl
  | cons a rest ih =>
    obtain ⟨ha, hrest⟩ := List.pairwise_cons.mp h
    by_cases hk : key a = k
    · have hother : ∀ b ∈ rest, decide (key b ≠ k) = true := by
        intro b hb
        exact decide_eq_true fun hb' => ha b hb (hk.trans hb'.symm)
      rw [List.eraseP_cons_of_pos (by simpa using hk), List.filter_cons_of_neg (by simpa using hk),
        List.filter_eq_self.mpr hother]
    · rw [List.eraseP_cons_of_neg (by simpa using hk), List.filter_cons_of_pos (by simpa using hk),
        ih hrest]

/-- Where keys are distinct, erasing what is found under a key takes it out of the list. -/
theorem Distinct.takes_eraseP (h : Distinct key l)
    (hfound : l.find? (fun a => key a = k) = some item) :
    key item = k ∧ Takes key item l (l.eraseP fun a => key a = k) := by
  obtain rfl : key item = k := by simpa using List.find?_some hfound
  exact ⟨rfl, hfound, h.eraseP_eq_filter⟩

end Lists

/-! ### Records of a document -/

/-- What becomes of **another** listener when one is saved: it is not the default one any more if
the saved one is. -/
def Listener.beside (saved other : Listener) : Listener :=
  { other with isDefault := other.isDefault && !saved.isDefault }

theorem Listener.beside_of_isDefault {saved : Listener} (h : saved.isDefault = true) :
    saved.beside = fun other => { other with isDefault := false } := by
  funext other
  rw [beside, h, Bool.not_true, Bool.and_false]

theorem Listener.beside_of_not_isDefault {saved : Listener} (h : saved.isDefault = false) :
    saved.beside = fun other => other := by
  funext other
  rw [beside, h, Bool.not_false, Bool.and_true]

namespace Panel

variable {p p' : Panel}

/-- The records of each sort have **distinct identifiers**. -/
structure DistinctIds (p : Panel) : Prop where
  listeners : Distinct (·.id) p.listeners
  servers : Distinct (·.id) p.servers
  modules : Distinct (·.id) p.modules

instance : Decidable p.DistinctIds :=
  decidable_of_iff
    (Distinct (·.id) p.listeners ∧ Distinct (·.id) p.servers ∧ Distinct (·.id) p.modules)
    ⟨fun ⟨hl, hs, hm⟩ => ⟨hl, hs, hm⟩, fun ⟨hl, hs, hm⟩ => ⟨hl, hs, hm⟩⟩

/-- Saving a listener puts it among the others, of which none stays default if it is to be. -/
theorem puts_saveListener {l : Listener} (hok : p.saveListener l = .ok p') :
    ∃ listeners, Puts (·.id) l (p.listeners.map l.beside) listeners ∧
      p' = { p with listeners } := by
  obtain ⟨-, rfl⟩ := saveListener_eq_ok_iff.mp hok
  have hothers : (if l.isDefault then p.listeners.map fun a => { a with isDefault := false }
      else p.listeners) = p.listeners.map l.beside := by
    split
    · next hdefault => rw [Listener.beside_of_isDefault hdefault]
    · next hdefault =>
      rw [Listener.beside_of_not_isDefault (Bool.eq_false_iff.mpr hdefault), List.map_id']
  rw [hothers]
  exact ⟨_, puts_upsert, rfl⟩

/-- Deleting a listener takes it out, and leaves servers and modules. -/
theorem takes_deleteListener (h : p.DistinctIds) {id : ListenerId} {l : Listener}
    (hok : p.deleteListener id = .ok (l, p')) :
    l.id = id ∧ ∃ listeners, Takes (·.id) l p.listeners listeners ∧ p' = { p with listeners } := by
  obtain ⟨-, hfound, rfl⟩ := deleteListener_eq_ok_iff.mp hok
  obtain ⟨hid, htakes⟩ := h.listeners.takes_eraseP hfound
  exact ⟨hid, _, htakes, rfl⟩

theorem puts_saveServer {server : Server} (hok : p.saveServer server = .ok p') :
    ∃ servers, Puts (·.id) server p.servers servers ∧ p' = { p with servers } := by
  obtain ⟨-, rfl⟩ := saveServer_eq_ok_iff.mp hok
  exact ⟨_, puts_upsert, rfl⟩

/-- Deleting a server takes it out together with its modules. -/
theorem takes_deleteServer (h : p.DistinctIds) {id : ServerId} {server : Server}
    (hok : p.deleteServer id = .ok (server, p')) :
    server.id = id ∧ ∃ servers, Takes (·.id) server p.servers servers ∧
      p' = { p with servers, modules := p.modules.filter (·.server ≠ id) } := by
  obtain ⟨hfound, rfl⟩ := deleteServer_eq_ok_iff.mp hok
  obtain ⟨hid, htakes⟩ := h.servers.takes_eraseP hfound
  exact ⟨hid, _, htakes, rfl⟩

theorem puts_saveModule {m : Module} (hok : p.saveModule m = .ok p') :
    ∃ modules, Puts (·.id) m p.modules modules ∧ p' = { p with modules } := by
  obtain ⟨-, rfl⟩ := saveModule_eq_ok_iff.mp hok
  exact ⟨_, puts_upsert, rfl⟩

theorem takes_deleteModule (h : p.DistinctIds) {id : ModuleId} {m : Module}
    (hok : p.deleteModule id = .ok (m, p')) :
    m.id = id ∧ ∃ modules, Takes (·.id) m p.modules modules ∧ p' = { p with modules } := by
  obtain ⟨hfound, rfl⟩ := deleteModule_eq_ok_iff.mp hok
  obtain ⟨hid, htakes⟩ := h.modules.takes_eraseP hfound
  exact ⟨hid, _, htakes, rfl⟩

/-- A listener is in use when a server is reached through it, whether it is there or not. -/
theorem deleteListener_eq_listenerInUse_iff {id listener : ListenerId} {users : List ServerId} :
    p.deleteListener id = .error (.listenerInUse listener users) ↔
      (∃ server ∈ p.servers, server.listener = some id) ∧
        listener = id ∧ users = p.usersOf id := by
  have hused : (∃ server ∈ p.servers, server.listener = some id) ↔ p.usersOf id ≠ [] := by
    simp [usersOf_eq_nil_iff]
  rw [hused]
  unfold deleteListener
  cases p.usersOf id with
  | nil => cases p.listener? id <;> simp
  | cons server servers => simp [eq_comm (a := listener), eq_comm (a := users)]

end Panel

/-! ### Changes of a store -/

namespace Store

variable {s s' : Store}

/-- Writing a document fails only where a call to the disk does. -/
theorem io_of_write_eq_error {disk : Disk} {path : Path} {panel : Panel}
    (h : (write disk path panel).1 = .error cause) : ∃ path io, cause = .io path io := by
  have hcall : ∀ path result (next : Disk → Except StoreError Unit × Disk),
      (∀ disk, (next disk).1 = .error cause → ∃ path io, cause = .io path io) →
        (call path result next).1 = .error cause → ∃ path io, cause = .io path io := by
    rintro path ⟨_ | _, disk⟩ next hnext h
    · exact ⟨path, _, (Except.error.inj h).symm⟩
    · exact hnext disk h
  refine hcall _ _ _ (fun _ => hcall _ _ _ fun _ => hcall _ _ _ fun _ hok => ?_) h
  cases hok

/-- When a change that was accepted fails, it is the disk that failed. -/
theorem io_of_commit_eq_error {α : Type} {result : α} {panel : Panel}
    (h : (s.commit result panel).1 = .error cause) : ∃ path io, cause = .io path io := by
  unfold commit at h
  split at h
  · cases h
  · split at h
    · cases h
    · next hwrite =>
      obtain rfl := Except.error.inj h
      exact io_of_write_eq_error (congrArg Prod.fst hwrite)

/-- A change that takes a record away is refused just when the document refuses it. -/
theorem takeAway_eq_refused_iff {α : Type} {result : Except RecordError (α × Panel)}
    {cause : RecordError} :
    (s.takeAway result).1 = .error (.refused cause) ↔ result = .error cause := by
  unfold takeAway
  split
  · simp
  · refine iff_of_false (fun h => ?_) nofun
    obtain ⟨path, io, hio⟩ := io_of_commit_eq_error h
    cases hio

/-- **A change leaves all other records alone**, in every store whose records have distinct
identifiers and on every disk. A save that succeeds puts the record into its list and changes
nothing else, except that a default listener takes the mark from all others. A deletion that
succeeds takes the record with the identifier out of its list, tells it and changes nothing else,
except that the modules of a server go with it. The deletion of a listener is refused as one in use
just when a server is reached through it, with all such servers in order, whether the listener is
there or not. -/
theorem changes_leave_others (s s' : Store) (h : s.panel.DistinctIds) :
    (∀ l, s.saveListener l = (.ok (), s') →
      ∃ listeners, Puts (·.id) l (s.panel.listeners.map l.beside) listeners ∧
        s'.panel = { s.panel with listeners }) ∧
    (∀ id l, s.deleteListener id = (.ok l, s') → l.id = id ∧
      ∃ listeners, Takes (·.id) l s.panel.listeners listeners ∧
        s'.panel = { s.panel with listeners }) ∧
    (∀ server, s.saveServer server = (.ok (), s') →
      ∃ servers, Puts (·.id) server s.panel.servers servers ∧
        s'.panel = { s.panel with servers }) ∧
    (∀ id server, s.deleteServer id = (.ok server, s') → server.id = id ∧
      ∃ servers, Takes (·.id) server s.panel.servers servers ∧
        s'.panel = { s.panel with
          servers, modules := s.panel.modules.filter (·.server ≠ id) }) ∧
    (∀ m, s.saveModule m = (.ok (), s') →
      ∃ modules, Puts (·.id) m s.panel.modules modules ∧
        s'.panel = { s.panel with modules }) ∧
    (∀ id m, s.deleteModule id = (.ok m, s') → m.id = id ∧
      ∃ modules, Takes (·.id) m s.panel.modules modules ∧
        s'.panel = { s.panel with modules }) ∧
    ∀ id listener users,
      (s.deleteListener id).1 = .error (.refused (.listenerInUse listener users)) ↔
        (∃ server ∈ s.panel.servers, server.listener = some id) ∧ listener = id ∧
          users = (s.panel.servers.filter (·.listener = some id)).map (·.id) := by
  refine ⟨fun l hok => ?_, fun id l hok => ?_, fun server hok => ?_, fun id server hok => ?_,
    fun m hok => ?_, fun id m hok => ?_, fun id listener users => ?_⟩
  · exact Panel.puts_saveListener (of_change_eq_ok hok)
  · exact Panel.takes_deleteListener h (of_takeAway_eq_ok hok)
  · exact Panel.puts_saveServer (of_change_eq_ok hok)
  · exact Panel.takes_deleteServer h (of_takeAway_eq_ok hok)
  · exact Panel.puts_saveModule (of_change_eq_ok hok)
  · exact Panel.takes_deleteModule h (of_takeAway_eq_ok hok)
  · exact takeAway_eq_refused_iff.trans Panel.deleteListener_eq_listenerInUse_iff

/-- The second of two listeners is saved as the default one, in its place, and the first loses the
mark. Of the servers, the first goes with its two modules, between which there is one of the
other. The listener that is not there is in use. -/
theorem changes_leave_others_of_lobby :
    let main : Listener := { id := ⟨.ofNat 1⟩, port := 25565, name := "main", isDefault := true }
    let games : Listener := { id := ⟨.ofNat 2⟩, port := 25566, name := "games" }
    let lobby : Server := { id := ⟨.ofNat 3⟩, name := "lobby", listener := some ⟨.ofNat 9⟩ }
    let arena : Server := { id := ⟨.ofNat 4⟩, name := "arena", listener := some ⟨.ofNat 9⟩ }
    let map : Module := { id := ⟨.ofNat 5⟩, server := lobby.id, name := "map" }
    let voice : Module := { id := ⟨.ofNat 6⟩, server := arena.id, name := "voice" }
    let stats : Module := { id := ⟨.ofNat 7⟩, server := lobby.id, name := "stats" }
    let s : Store := .ofPanel { Panel.empty with
      listeners := [main, games], servers := [lobby, arena], modules := [map, voice, stats] }
    let saved : Listener := { games with name := "all games", isDefault := true }
    s.panel.DistinctIds ∧
      (∃ listeners, Puts (·.id) saved [{ main with isDefault := false }, games] listeners ∧
        (s.saveListener saved).2.panel = { s.panel with listeners }) ∧
      (∃ servers, Takes (·.id) lobby [lobby, arena] servers ∧
        (s.deleteServer lobby.id).2.panel = { s.panel with servers, modules := [voice] }) ∧
      (s.deleteListener ⟨.ofNat 9⟩).1 =
        .error (.refused (.listenerInUse ⟨.ofNat 9⟩ [lobby.id, arena.id])) := by
  intro main games lobby arena map voice stats s saved
  have h : s.panel.DistinctIds := by decide
  have hothers := fun s' => changes_leave_others s s' h
  refine ⟨h, (hothers _).1 saved rfl, ((hothers _).2.2.2.1 lobby.id lobby rfl).2, ?_⟩
  exact ((hothers s).2.2.2.2.2.2 _ _ _).mpr ⟨⟨lobby, by decide, rfl⟩, rfl, rfl⟩

end Store

end GameGateway
