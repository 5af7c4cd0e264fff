import GameGateway.Proofs.Disk.Files
import GameGateway.Proofs.Record.Integrity
import GameGateway.Proofs.Record.RoundTrip

/-!
# The document on the disk and in memory

A store with a file never lets its document in memory and the one on the disk drift apart, whichever
calls to the disk fail: a change that fails leaves both as they were, one that succeeds leaves a
document on the disk, and whenever there is one, opening it anew yields the store
(`document_durable`).

The invariant is `Durable`. It rests on three facts: the temporary file has another place than the
document, a rename is all or nothing, and the text of a document is read as the document. A document
that is hidden from its path is the exception: it comes to light when the directory on the way is
made (`hidden_document_appears`).
-/

namespace GameGateway

/-! ### Versions -/

namespace Panel

variable {p p' : Panel}

/-- Saving a listener changes listeners only, and so the version of the document stays. -/
theorem version_of_saveListener {l : Listener} (h : p.saveListener l = .ok p') :
    p'.version = p.version := by
  rw [(saveListener_eq_ok_iff.1 h).2]

theorem version_of_deleteListener {id : ListenerId} {l : Listener}
    (h : p.deleteListener id = .ok (l, p')) : p'.version = p.version := by
  rw [(deleteListener_eq_ok_iff.1 h).2.2]

theorem version_of_saveServer {s : Server} (h : p.saveServer s = .ok p') :
    p'.version = p.version := by
  rw [(saveServer_eq_ok_iff.1 h).2]

/-- The modules go with their server, and the version stays. -/
theorem version_of_deleteServer {id : ServerId} {s : Server}
    (h : p.deleteServer id = .ok (s, p')) : p'.version = p.version := by
  rw [(deleteServer_eq_ok_iff.1 h).2]

theorem version_of_saveModule {m : Module} (h : p.saveModule m = .ok p') :
    p'.version = p.version := by
  rw [(saveModule_eq_ok_iff.1 h).2]

theorem version_of_deleteModule {id : ModuleId} {m : Module}
    (h : p.deleteModule id = .ok (m, p')) : p'.version = p.version := by
  rw [(deleteModule_eq_ok_iff.1 h).2]

end Panel

namespace Store

/-! ### Texts -/

/-- **A document is read back from its text.** -/
theorem parse_text {panel : Panel} (h : panel.version = Panel.currentVersion) :
    parse (text panel) = .ok panel := by
  rw [parse, text, Panel.recovers.ofText_pretty (by decide)]
  simp [h]

/-- **Only documents of the current version are opened.** -/
theorem version_of_parse_eq_ok {text : String} {panel : Panel} (h : parse text = .ok panel) :
    panel.version = Panel.currentVersion := by
  unfold parse at h
  split at h
  · cases h
  · split at h
    · next hversion => rwa [← Except.ok.inj h]
    · cases h

theorem fromUTF8?_toUTF8 (s : String) : String.fromUTF8? s.toUTF8 = some s := by
  rw [String.fromUTF8?, dif_pos (show s.toUTF8.IsValidUTF8 from s.isValidUTF8)]
  rfl

/-- The bytes of a file **hold** a document. -/
def Holds (content : ByteArray) (panel : Panel) : Prop :=
  ∃ text, String.fromUTF8? content = some text ∧ parse text = .ok panel

/-- The file that is written for a document holds it. -/
theorem holds_text {panel : Panel} (h : panel.version = Panel.currentVersion) :
    Holds (text panel).toUTF8 panel :=
  ⟨text panel, fromUTF8?_toUTF8 _, parse_text h⟩

/-! ### Writing -/

section Write

variable {disk : Disk} {path : Path} {panel : Panel}

/-- Calls succeed together when each of them does. -/
theorem of_call_eq_ok {result : Except IoError Unit × Disk}
    {next : Disk → Except StoreError Unit × Disk} (h : (call path result next).1 = .ok ()) :
    result.1 = .ok () ∧ call path result next = next result.2 := by
  rcases result with ⟨cause | _, disk'⟩
  · exact absurd h nofun
  · exact ⟨rfl, rfl⟩

/-- Calls that fail together spare a place if the one that fails does, and those before it. -/
theorem spares_call {result : Except IoError Unit × Disk}
    {next : Disk → Except StoreError Unit × Disk} {cause : StoreError} {place : Disk.Place}
    (h : (call path result next).1 = .error cause)
    (hresult : ∀ cause, result.1 = .error cause → disk.Spares result.2 place)
    (hnext : (next result.2).1 = .error cause → disk.Spares (next result.2).2 place) :
    disk.Spares (call path result next).2 place := by
  rcases result with ⟨cause | _, disk'⟩
  · exact hresult cause rfl
  · exact hnext h

/-- Preparing the directory of a document touches no file. -/
theorem spares_prepare (disk : Disk) (directory : Path) (place : Disk.Place) :
    disk.Spares (prepare disk directory).2 place := by
  rw [prepare]
  split
  · exact .refl disk place
  · exact Disk.spares_createDirectories disk directory place

/-- **A document that is written is on the disk**: the rename puts the whole temporary file in its
place. -/
theorem read_of_write_eq_ok (h : (write disk path panel).1 = .ok ()) :
    (write disk path panel).2.read path = .ok (text panel).toUTF8 := by
  rw [write] at h ⊢
  obtain ⟨-, hnext⟩ := of_call_eq_ok h
  rw [hnext] at h ⊢
  obtain ⟨hwrite, hnext⟩ := of_call_eq_ok h
  rw [hnext] at h ⊢
  obtain ⟨hrename, hnext⟩ := of_call_eq_ok h
  rw [hnext]
  exact Disk.read_rename hrename (Disk.read_write hwrite)

/-- **A document that cannot be written is as it was**, whichever call fails. -/
theorem spares_of_write_eq_error {cause : StoreError} (h : (write disk path panel).1 = .error cause)
    (hplace : Disk.placeOf path ≠ Disk.placeOf (temporary path)) :
    disk.Spares (write disk path panel).2 (Disk.placeOf path) := by
  have hprepare := spares_prepare disk path.parent (Disk.placeOf path)
  have hwrite := hprepare.trans
    (Disk.spares_write _ (temporary path) (text panel).toUTF8 hplace)
  refine spares_call h (fun _ _ => hprepare) fun h => ?_
  refine spares_call h (fun _ _ => hwrite) fun h => ?_
  exact spares_call h (fun _ hrename => hwrite.trans (Disk.spares_rename hrename _)) nofun

end Write

/-! ### The invariant -/

/-- The **document** at the path of a store, if there is one there. -/
def document (s : Store) (path : Path) : Option ByteArray :=
  (s.disk.read path).toOption

/-- The document is what can be read at the path. -/
theorem document_eq_some {s : Store} {path : Path} {content : ByteArray} :
    s.document path = some content ↔ s.disk.read path = .ok content := by
  rw [document]
  cases s.disk.read path <;> simp [Except.toOption]

/-- A store is **durable** at a path if the document there, whenever there is one, is the one in
memory, and is not hidden. -/
structure Durable (s : Store) (path : Path) : Prop where
  path_eq : s.path = some path
  version : s.panel.version = Panel.currentVersion
  shows : s.disk.Shows path
  holds : ∀ content, s.disk.read path = .ok content → Holds content s.panel

/-- What a change **leaves** behind: the store that it was, if it fails, and otherwise a document
on the disk. -/
structure Leaves (s : Store) (path : Path) (outcome : Except StoreError Unit) (s' : Store) :
    Prop where
  durable : s'.Durable path
  of_error : ∀ cause, outcome = .error cause →
    s'.panel = s.panel ∧ s'.document path = s.document path
  of_ok : outcome = .ok () → (s'.document path).isSome

variable {s : Store} {path : Path} {panel : Panel}

/-- A change that is refused touches nothing. -/
theorem Durable.leaves_self (h : s.Durable path) (cause : StoreError) :
    s.Leaves path (.error cause) s :=
  ⟨h, fun _ _ => ⟨rfl, rfl⟩, nofun⟩

/-- What is left by a change that cannot be written. -/
theorem Durable.leaves_of_write_eq_error (h : s.Durable path) (htemporary : temporary path ≠ path)
    {cause : StoreError} (hwrite : (write s.disk path panel).1 = .error cause) :
    s.Leaves path (.error cause) { s with disk := (write s.disk path panel).2 } := by
  have hreads : (write s.disk path panel).2.Shows path ∧
      ∀ content, (write s.disk path panel).2.read path = .ok content ↔
        s.disk.read path = .ok content := by
    by_cases htrailing : path.trailing = []
    · have hplace := Disk.placeOf_withExtension_ne (by decide) htemporary htrailing
      have hspares := spares_of_write_eq_error hwrite hplace.symm
      exact ⟨hspares.shows h.shows, fun content => hspares.read_eq_ok_iff h.shows⟩
    · -- a path that goes on behind its last step has no document
      have hnone (d : Disk) (content : ByteArray) : d.read path ≠ .ok content :=
        fun hread => htrailing (Disk.read_eq_ok_iff.1 hread).2.2
      exact ⟨fun h => absurd h htrailing, fun content => iff_of_false (hnone _ _) (hnone _ _)⟩
  refine ⟨⟨h.path_eq, h.version, hreads.1, ?_⟩, fun _ _ => ⟨rfl, ?_⟩, nofun⟩
  · exact fun content hread => h.holds content ((hreads.2 content).1 hread)
  · refine Option.ext fun content => ?_
    rw [document_eq_some, document_eq_some]
    exact hreads.2 content

/-- What is left by a change that is written. -/
theorem Durable.leaves_of_write_eq_ok (h : s.Durable path)
    (hpanel : panel.version = Panel.currentVersion)
    (hwrite : (write s.disk path panel).1 = .ok ()) :
    s.Leaves path (.ok ()) { s with panel, disk := (write s.disk path panel).2 } := by
  have hread := read_of_write_eq_ok hwrite
  refine ⟨⟨h.path_eq, hpanel, Disk.shows_of_read_eq_ok hread, ?_⟩, fun _ h => ?_, fun _ => ?_⟩
  · intro content hread'
    rw [← Except.ok.inj (hread.symm.trans hread')]
    exact holds_text hpanel
  · cases h
  · rw [Option.isSome_iff_exists]
    exact ⟨_, document_eq_some.2 hread⟩

/-- A commit leaves both documents the new ones, or both as they were. -/
theorem Durable.leaves_commit {α : Type} (h : s.Durable path) (htemporary : temporary path ≠ path)
    (hpanel : panel.version = Panel.currentVersion) (result : α) :
    s.Leaves path ((s.commit result panel).1.map fun _ => ()) (s.commit result panel).2 := by
  obtain ⟨panel₀, path₀, disk₀⟩ := s
  obtain rfl : path₀ = some path := h.path_eq
  rw [commit]
  dsimp only
  rcases hwrite : write disk₀ path panel with ⟨cause | _, disk⟩
  · have hleaves := h.leaves_of_write_eq_error htemporary (congrArg Prod.fst hwrite)
    rwa [hwrite] at hleaves
  · have hleaves := h.leaves_of_write_eq_ok hpanel (congrArg Prod.fst hwrite)
    rwa [hwrite] at hleaves

/-! ### Changes -/

/-- What comes of a change. -/
def outcome (s : Store) : Change → Except StoreError Unit
  | .saveListener l => (s.saveListener l).1
  | .deleteListener id => (s.deleteListener id).1.map fun _ => ()
  | .saveServer server => (s.saveServer server).1
  | .deleteServer id => (s.deleteServer id).1.map fun _ => ()
  | .saveModule m => (s.saveModule m).1
  | .deleteModule id => (s.deleteModule id).1.map fun _ => ()

/-- A record that is saved goes through one commit, or is refused before. -/
theorem Durable.leaves_change (h : s.Durable path) (htemporary : temporary path ≠ path)
    {result : Except RecordError Panel}
    (hversion : ∀ panel, result = .ok panel → panel.version = s.panel.version) :
    s.Leaves path (s.change result).1 (s.change result).2 := by
  unfold change
  split
  · exact h.leaves_self _
  · next panel =>
    have hcommit := h.leaves_commit htemporary ((hversion panel rfl).trans h.version) ()
    rcases hpair : s.commit () panel with ⟨cause | _, s'⟩ <;> rwa [hpair] at hcommit

/-- So does one that is deleted. -/
theorem Durable.leaves_takeAway {α : Type} (h : s.Durable path) (htemporary : temporary path ≠ path)
    {result : Except RecordError (α × Panel)}
    (hversion : ∀ a panel, result = .ok (a, panel) → panel.version = s.panel.version) :
    s.Leaves path ((s.takeAway result).1.map fun _ => ()) (s.takeAway result).2 := by
  unfold takeAway
  split
  · exact h.leaves_self _
  · next a panel => exact h.leaves_commit htemporary ((hversion a panel rfl).trans h.version) a

/-- **Every change leaves a durable store**, even if it fails. -/
theorem Durable.leaves_make (h : s.Durable path) (htemporary : temporary path ≠ path) (c : Change) :
    s.Leaves path (s.outcome c) (s.make c) := by
  cases c with
  | saveListener l => exact h.leaves_change htemporary fun _ => Panel.version_of_saveListener
  | deleteListener id =>
    exact h.leaves_takeAway htemporary fun _ _ => Panel.version_of_deleteListener
  | saveServer server => exact h.leaves_change htemporary fun _ => Panel.version_of_saveServer
  | deleteServer id => exact h.leaves_takeAway htemporary fun _ _ => Panel.version_of_deleteServer
  | saveModule m => exact h.leaves_change htemporary fun _ => Panel.version_of_saveModule
  | deleteModule id => exact h.leaves_takeAway htemporary fun _ _ => Panel.version_of_deleteModule

/-- **A durable store stays so**, change after change. -/
theorem Durable.foldl_make (h : s.Durable path) (htemporary : temporary path ≠ path)
    (changes : List Change) : (changes.foldl make s).Durable path := by
  induction changes generalizing s with
  | nil => exact h
  | cons c changes ih => exact ih (h.leaves_make htemporary c).durable

/-! ### Opening -/

/-- A store is durable when it is opened, unless a file is hidden from its path. -/
theorem durable_of_openAt_eq_ok {disk : Disk} (h : openAt disk path = .ok s)
    (hhidden : ¬disk.Hidden path) : s.Durable path := by
  obtain ⟨panel, hload, hs⟩ := Except.bind_eq_ok.1 h
  obtain rfl := Except.ok.inj hs
  cases hread : disk.read path with
  | ok content =>
    rw [Disk.readText, hread, Except.ok_bind] at hload
    cases htext : String.fromUTF8? content with
    | none =>
      rw [htext] at hload
      cases hload
    | some text =>
      rw [htext] at hload
      refine ⟨rfl, version_of_parse_eq_ok hload, Disk.shows_of_read_eq_ok hread,
        fun content' hread' => ?_⟩
      rw [← Except.ok.inj (hread.symm.trans hread')]
      exact ⟨text, htext, hload⟩
  | error cause =>
    rw [Disk.readText, hread, Except.error_bind] at hload
    unfold load at hload
    split at hload
    · next hcause =>
      obtain rfl := Except.ok.inj hload
      rw [Except.error.inj hcause] at hread
      exact ⟨rfl, rfl, Disk.shows_of_not_hidden hread hhidden, fun content hread' =>
        absurd (hread.symm.trans hread') nofun⟩
    · cases hload
    · next hok => cases hok

/-- Opening the document of a durable store anew yields the store. -/
theorem Durable.openAt_eq_ok (h : s.Durable path) {content : ByteArray}
    (hdocument : s.document path = some content) : openAt s.disk path = .ok s := by
  obtain ⟨text, htext, hparse⟩ := h.holds content (document_eq_some.1 hdocument)
  have hread : s.disk.readText path = .ok text := by
    simp [Disk.readText, document_eq_some.1 hdocument, htext]
  rw [openAt, hread, load, hparse]
  cases s
  obtain rfl := h.path_eq
  rfl

/-- **A store is atomic and durable.** Let a store be opened at a path that is not that of its own
temporary file, and at which no document is hidden, on a disk on which any calls may fail, and let
any changes be made. Then a change that fails leaves the document in memory and the one on the disk
as they were, one that succeeds leaves a document on the disk, and whenever there is one there,
opening it anew succeeds and yields the store as it is. -/
theorem document_durable (disk : Disk) (path : Path) (s : Store) (hopen : openAt disk path = .ok s)
    (htemporary : temporary path ≠ path) (hhidden : ¬disk.Hidden path) (changes : List Change) :
    let t := changes.foldl make s
    (∀ c cause, t.outcome c = .error cause →
      (t.make c).panel = t.panel ∧ (t.make c).document path = t.document path) ∧
    (∀ c, t.outcome c = .ok () → ((t.make c).document path).isSome) ∧
    ∀ content, t.document path = some content → openAt t.disk path = .ok t := by
  intro t
  have ht : t.Durable path :=
    (durable_of_openAt_eq_ok hopen hhidden).foldl_make htemporary changes
  refine ⟨fun c => (ht.leaves_make htemporary c).of_error, fun c => ?_, fun content => ?_⟩
  · exact (ht.leaves_make htemporary c).of_ok
  · exact ht.openAt_eq_ok

/-- The second save finds no space for its temporary file, and leaves a part of it there. -/
theorem document_durable_noSpace :
    let listener : Listener := { id := ⟨.ofNat 1⟩, port := 25565, name := "main" }
    let path : Path := ⟨true, ["data", "panel.json"]⟩
    let s : Store := {
      panel := .empty
      path := some path
      disk := { faults := [none, none, none, none, some ⟨.noSpace, some "\x7b".toUTF8⟩] } }
    let t := [Change.saveListener listener, .saveListener { listener with port := 25566 }].foldl
      make s
    openAt s.disk path = .ok s ∧ temporary path ≠ path ∧ ¬s.disk.Hidden path ∧
      t.panel.listeners = [listener] ∧ (t.document path).isSome ∧ openAt t.disk path = .ok t := by
  intro listener path s t
  have hopen : openAt s.disk path = .ok s := by
    dsimp only [s, path]
    rfl
  have hhidden : ¬s.disk.Hidden path := by
    rintro ⟨-, content, hnode⟩
    have hnone : s.disk.node? (Disk.placeOf path) = none := rfl
    exact absurd (hnone.symm.trans hnode) nofun
  have hdocument : (t.document path).isSome := by decide +kernel
  obtain ⟨content, hcontent⟩ := Option.isSome_iff_exists.1 hdocument
  have hdurable := document_durable s.disk path s hopen (by decide) hhidden
    [.saveListener listener, .saveListener { listener with port := 25566 }]
  exact ⟨hopen, by decide, hhidden, by decide, hdocument, hdurable.2.2 content hcontent⟩

/-- An empty file is hidden from its path, which leads through a directory that is missing. A save
makes the directory and fails then, for a directory is in the way of its temporary file. So a change
that has failed leaves a document where there was none. -/
theorem hidden_document_appears :
    let path : Path := ⟨false, ["a", "..", "panel.json"]⟩
    let nodes : Std.ExtTreeMap Disk.Place Disk.Node :=
      ((∅ : Std.ExtTreeMap Disk.Place Disk.Node).insert ["panel.tmp"] .directory).insert
        ["panel.json"] (.file .empty)
    let s : Store := { panel := .empty, path := some path, disk := { nodes } }
    let change := Change.saveListener { id := ⟨.ofNat 1⟩, port := 25565, name := "main" }
    openAt s.disk path = .ok s ∧ temporary path ≠ path ∧ s.document path = none ∧
      s.outcome change = .error (.io (temporary path) .isADirectory) ∧
      (s.make change).document path = some .empty :=
  ⟨rfl, by decide, rfl, rfl, rfl⟩

end Store

end GameGateway
