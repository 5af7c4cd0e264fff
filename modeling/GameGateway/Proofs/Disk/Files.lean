import GameGateway.Disk.Basic
import GameGateway.Proofs.Except

/-!
# What calls leave of a file

A path that leads anywhere leads to its **place**, which its steps tell without the disk: each `..`
takes the step before it back. A call **spares** a place if it leaves the file there as it was and
all directories where they were; then the paths that led anywhere before lead there still. Making
directories spares every place, and writing a file all places but its own.

A file may be **hidden** from its path: where a directory on the way is missing nothing can be read,
even if a file is at the path's place.
-/

namespace GameGateway

namespace Disk

/-- The place that one step leads to, whatever is there. -/
def advance (place : Place) (step : String) : Place :=
  if step = ".." then place.dropLast else place ++ [step]

/-- The **place of a path**, whether the path leads there or not. -/
def placeOf (p : Path) : Place :=
  p.steps.foldl advance []

/-- A disk **spares** a place of another if it has the same file there and the other's
directories. -/
structure Spares (d d' : Disk) (place : Place) : Prop where
  directory : ∀ q, d.node? q = some .directory → d'.node? q = some .directory
  file : ∀ content, d'.node? place = some (.file content) ↔ d.node? place = some (.file content)

theorem Spares.refl (d : Disk) (place : Place) : Spares d d place :=
  ⟨fun _ => id, fun _ => .rfl⟩

/-- What spares a place does so call after call. -/
theorem Spares.trans {d d' d'' : Disk} {place : Place} (h : Spares d d' place)
    (h' : Spares d' d'' place) : Spares d d'' place :=
  ⟨fun q hq => h'.directory q (h.directory q hq), fun c => (h'.file c).trans (h.file c)⟩

/-- A call that changes no node spares every place. -/
theorem Spares.of_nodes_eq {d d' : Disk} (h : d'.nodes = d.nodes) (place : Place) :
    Spares d d' place := by
  have hnode (q : Place) : d'.node? q = d.node? q := by rw [node?, node?, h]
  exact ⟨fun q hq => (hnode q).trans hq, fun c => by rw [hnode]⟩

variable {d d' : Disk} {p q : Path} {place target : Place} {content : ByteArray}

/-! ### Names -/

/-- The last step of a path is a step, whatever stands behind it. -/
theorem isStep_of_backward_eq_cons {step : String} {outer : List String}
    (h : p.backward = step :: outer) : Path.isStep step := by
  have hhead := List.head?_dropWhile_not (fun piece => !Path.isStep piece) p.pieces.reverse
  rw [← Path.backward, h] at hhead
  simpa using hhead

/-- Another last step leads to another place in the same directory. -/
theorem placeOf_withLast {step last : String} {outer : List String}
    (h : p.backward = last :: outer) (hstep : Path.isStep step) :
    placeOf (p.withLast step) =
      advance ((outer.reverse.filter Path.isStep).foldl advance []) step := by
  simp [placeOf, Path.steps, Path.withLast, h, hstep]

/-- Another extension is another last step: nothing else of the path changes. -/
theorem exists_withExtension_eq {name extension : String} (h : p.name? = some name)
    (hextension : extension ≠ "") :
    ∃ step, p.withExtension extension = p.withLast step ∧ Path.isStep step := by
  have hstep (stem : String) : Path.isStep (stem ++ "." ++ extension) := by
    have hlength : 0 < extension.length := Nat.pos_of_ne_zero fun h =>
      hextension (String.length_eq_zero_iff.1 h)
    have hdot : ".".length = 1 := rfl
    simp only [Path.isStep, Bool.and_eq_true, decide_eq_true_eq]
    constructor <;> intro heq <;> have := congrArg String.length heq <;>
      simp only [String.length_append, hdot, String.length_empty] at this <;> omega
  rw [Path.withExtension, h]
  dsimp only
  split
  · exact ⟨"..", rfl, rfl⟩
  · exact ⟨_, rfl, hstep _⟩

/-- A path that ends in a name has this name as its last step. -/
theorem exists_backward_eq_cons {name : String} (h : p.name? = some name) :
    ∃ outer, p.backward = name :: outer ∧ name ≠ ".." := by
  rw [Path.name?] at h
  split at h
  · cases h
  · next last outer hp =>
    split at h
    · cases h
    · next hdots =>
      obtain rfl := Option.some.inj h
      exact ⟨outer, hp, hdots⟩

/-- A path with nothing behind its last step is itself with that step as its last. -/
theorem withLast_self {last : String} {outer : List String} (h : p.backward = last :: outer)
    (htrailing : p.trailing = []) : p.withLast last = p := by
  have hpieces := p.backward_reverse_append_trailing
  rw [h, htrailing, List.append_nil] at hpieces
  rw [Path.withLast, h]
  dsimp only
  rw [hpieces]

/-- A path and the one with another extension have different places, if they are different. -/
theorem placeOf_withExtension_ne {extension : String} (hextension : extension ≠ "")
    (hne : p.withExtension extension ≠ p) (htrailing : p.trailing = []) :
    placeOf (p.withExtension extension) ≠ placeOf p := by
  cases hname : p.name? with
  | none => exact absurd (by rw [Path.withExtension, hname]) hne
  | some name =>
    obtain ⟨step, hext, hstep⟩ := exists_withExtension_eq hname hextension
    obtain ⟨outer, hp, hdots⟩ := exists_backward_eq_cons hname
    have hself := withLast_self hp htrailing
    rw [hext] at hne ⊢
    have hother : step ≠ name := by
      rintro rfl
      exact hne hself
    have hplace := placeOf_withLast hp (isStep_of_backward_eq_cons hp)
    rw [hself] at hplace
    rw [placeOf_withLast hp hstep, hplace, advance, advance, if_neg hdots]
    intro heq
    split at heq
    · -- the place of the directory above has fewer steps
      have := congrArg List.length heq
      simp at this
    · exact hother (by simpa using heq)

/-! ### Following paths -/

/-- Steps that can be followed lead where they do without a look at the disk. -/
theorem eq_of_follow_eq_ok {steps : List String} (h : d.follow place steps = .ok target) :
    target = steps.foldl advance place := by
  induction steps generalizing place with
  | nil => exact (Except.ok.inj h).symm
  | cons step steps ih =>
    rw [follow] at h
    split at h
    · cases h
    · cases h
    · rw [List.foldl_cons, advance]
      split at h
      · next hstep => rw [if_pos hstep, ih h]
      · next hstep =>
        split at h
        · cases h
        · rw [if_neg hstep, ih h]

/-- Where there are more directories, steps lead on to where they led. -/
theorem follow_mono (hd : ∀ q, d.node? q = some .directory → d'.node? q = some .directory)
    {steps : List String} (h : d.follow place steps = .ok target) :
    d'.follow place steps = .ok target := by
  induction steps generalizing place with
  | nil => exact h
  | cons step steps ih =>
    rw [follow] at h ⊢
    split at h
    · cases h
    · cases h
    · next hplace =>
      rw [hd place hplace]
      dsimp only
      split
      · next hstep => exact ih (by rwa [if_pos hstep] at h)
      · next hstep =>
        rw [if_neg hstep] at h
        split at h
        · cases h
        · next hlimit => rw [if_neg hlimit]; exact ih h

/-- **A path that leads anywhere leads to its place.** -/
theorem eq_of_locate_eq_ok (h : d.locate p = .ok place) : place = placeOf p := by
  unfold locate at h
  simp only at h
  split at h
  · cases h
  split at h
  · cases h
  split at h
  · cases h
  exact eq_of_follow_eq_ok h

/-- With more directories a path still leads where it did. -/
theorem locate_mono (hd : ∀ q, d.node? q = some .directory → d'.node? q = some .directory)
    (h : d.locate p = .ok target) : d'.locate p = .ok target := by
  unfold locate at h ⊢
  simp only at h ⊢
  split at h
  · cases h
  split at h
  · cases h
  split at h
  · cases h
  next h₁ h₂ h₃ =>
  rw [if_neg h₁, if_neg h₂, if_neg h₃]
  exact follow_mono hd h

/-- A file is read where its path leads to its place and does not go on behind its last step. -/
theorem read_eq_ok_iff : d.read p = .ok content ↔
    d.locate p = .ok (placeOf p) ∧ d.node? (placeOf p) = some (.file content) ∧
      p.trailing = [] := by
  constructor
  · intro h
    obtain ⟨node, hreach, hnode⟩ := Except.bind_eq_ok.1 h
    obtain ⟨place, hplace, hfound⟩ := Except.bind_eq_ok.1 hreach
    obtain rfl := eq_of_locate_eq_ok hplace
    obtain rfl : node = some (.file content) := by
      split at hnode
      · rw [Except.ok.inj hnode]
      · cases hnode
      · cases hnode
    split at hfound
    · next content' hat =>
      split at hfound
      · next htrailing =>
        exact ⟨hplace, hat.trans (Except.ok.inj hfound), List.isEmpty_iff.1 htrailing⟩
      · cases hfound
    · next hother => exact absurd (Except.ok.inj hfound) (hother content)
  · rintro ⟨hplace, hnode, htrailing⟩
    simp [read, reach, hplace, hnode, htrailing]

/-- A file that is read is read on where its place is spared. -/
theorem Spares.read_eq_ok (hs : Spares d d' (placeOf p)) (h : d.read p = .ok content) :
    d'.read p = .ok content := by
  obtain ⟨hlocate, hnode, htrailing⟩ := read_eq_ok_iff.1 h
  exact read_eq_ok_iff.2 ⟨locate_mono hs.directory hlocate, (hs.file content).2 hnode, htrailing⟩

/-! ### Hidden files -/

/-- A file is **hidden** from its path: nothing is found there, but a file is at the path's
place. -/
def Hidden (d : Disk) (p : Path) : Prop :=
  d.read p = .error .notFound ∧ ∃ content, d.node? (placeOf p) = some (.file content)

/-- A path **shows** the file at its place, if there is one and the path can be that of a file. -/
def Shows (d : Disk) (p : Path) : Prop :=
  p.trailing = [] → ∀ content, d.node? (placeOf p) = some (.file content) → d.read p = .ok content

/-- A file that can be read is shown. -/
theorem shows_of_read_eq_ok (h : d.read p = .ok content) : Shows d p := by
  intro htrailing content' hnode
  obtain ⟨hlocate, -, -⟩ := read_eq_ok_iff.1 h
  exact read_eq_ok_iff.2 ⟨hlocate, hnode, htrailing⟩

/-- Where nothing is found and nothing is hidden, there is nothing to show. -/
theorem shows_of_not_hidden (h : d.read p = .error .notFound) (hp : ¬Hidden d p) : Shows d p :=
  fun _ content hnode => absurd ⟨h, content, hnode⟩ hp

/-- A call that spares the place of a path hides no file from it. -/
theorem Spares.shows (hs : Spares d d' (placeOf p)) (h : Shows d p) : Shows d' p :=
  fun htrailing content hnode => hs.read_eq_ok (h htrailing content ((hs.file content).1 hnode))

/-- Where its place is spared, a path that shows its file shows the same one, and none if there was
none. -/
theorem Spares.read_eq_ok_iff (hs : Spares d d' (placeOf p)) (h : Shows d p) :
    d'.read p = .ok content ↔ d.read p = .ok content := by
  refine ⟨fun hread => ?_, hs.read_eq_ok⟩
  obtain ⟨-, hnode, htrailing⟩ := Disk.read_eq_ok_iff.1 hread
  exact h htrailing content ((hs.file content).1 hnode)

/-! ### Calls -/

/-- A node that is put somewhere is there; the others are as before. -/
theorem node?_insert {node : Node} (hplace : place ≠ []) (q : Place) :
    ({ d with nodes := d.nodes.insert place node } : Disk).node? q =
      if place = q then some node else d.node? q := by
  rw [node?, node?, Std.ExtTreeMap.getElem?_insert]
  by_cases hq : q = []
  · rw [if_pos hq, if_pos hq, if_neg fun h => hplace (h.trans hq)]
  · simp only [if_neg hq, Std.LawfulEqCmp.compare_eq_iff_eq]

theorem node?_erase (hplace : place ≠ []) (q : Place) :
    ({ d with nodes := d.nodes.erase place } : Disk).node? q =
      if place = q then none else d.node? q := by
  rw [node?, node?, Std.ExtTreeMap.getElem?_erase]
  by_cases hq : q = []
  · rw [if_pos hq, if_pos hq, if_neg fun h => hplace (h.trans hq)]
  · simp only [if_neg hq, Std.LawfulEqCmp.compare_eq_iff_eq]

theorem ne_nil_of_node? (h : d.node? place ≠ some .directory) : place ≠ [] := by
  rintro rfl
  exact h rfl

/-- A file can be put wherever there is no directory. -/
theorem node?_put (content : ByteArray) (h : d.node? place ≠ some .directory) (q : Place) :
    (d.put place content).node? q = if place = q then some (.file content) else d.node? q :=
  node?_insert (ne_nil_of_node? h) q

/-- Putting a file takes no directory away. -/
theorem directory_put (content : ByteArray) (h : d.node? place ≠ some .directory) (q : Place)
    (hq : d.node? q = some .directory) : (d.put place content).node? q = some .directory := by
  have hne : place ≠ q := by
    rintro rfl
    exact h hq
  rw [node?_put content h, if_neg hne, hq]

/-- Putting a file where no directory is spares all other places. -/
theorem spares_put (content : ByteArray) (h : d.node? place ≠ some .directory)
    (hne : target ≠ place) : Spares d (d.put place content) target :=
  ⟨directory_put content h, fun content' => by rw [node?_put content h, if_neg hne.symm]⟩

/-- A file is read from where it has been put. -/
theorem read_put (content : ByteArray) (hlocate : d.locate p = .ok place)
    (h : d.node? place ≠ some .directory) (htrailing : p.trailing = []) :
    (d.put place content).read p = .ok content := by
  obtain rfl := eq_of_locate_eq_ok hlocate
  refine read_eq_ok_iff.2 ⟨locate_mono (directory_put content h) hlocate, ?_, htrailing⟩
  rw [node?_put content h, if_pos rfl]

/-- **Making a directory spares every place**: where it is made, there was nothing. -/
theorem spares_makeDirectory (h : d.makeDirectory p = .ok d') (place : Place) :
    Spares d d' place := by
  obtain ⟨made, -, hmade⟩ := Except.bind_eq_ok.1 h
  split at hmade
  · cases hmade
  · next hnone =>
    dsimp only at hmade
    split at hmade
    · cases hmade
    obtain rfl := Except.ok.inj hmade
    have hmade : made ≠ [] := ne_nil_of_node? (d := d) (by simp [hnone])
    have hinsert (q : Place) : _ = if made = q then some Node.directory else d.node? q :=
      node?_insert hmade q
    constructor
    · intro q hq
      rw [hinsert]
      split
      · rfl
      · exact hq
    · intro content
      rw [hinsert]
      split
      · next heq => simp [← heq, hnone]
      · rfl

/-- So does making sure of one, whether it was there or not. -/
theorem spares_ensureDirectory (d : Disk) (p : Path) (place : Place) :
    Spares d (d.ensureDirectory p).2 place := by
  rw [ensureDirectory]
  split
  · next h => exact spares_makeDirectory h place
  · exact .refl d place

theorem spares_ensureAll (d : Disk) (ps : List Path) (place : Place) :
    Spares d (d.ensureAll ps).2 place := by
  induction ps generalizing d with
  | nil => exact .refl d place
  | cons p outer ih =>
    have hfirst := spares_ensureDirectory d p place
    rw [ensureAll]
    split
    · next d₁ h =>
      rw [h] at hfirst
      have houter := hfirst.trans (ih d₁)
      split
      · next d₂ h₂ =>
        rw [h₂] at houter
        exact houter.trans (spares_ensureDirectory d₂ p place)
      · exact houter
    · exact hfirst

theorem spares_nextFault {fault : Option Fault} (h : d.nextFault = (fault, d')) (place : Place) :
    Spares d d' place := by
  refine .of_nodes_eq ?_ place
  rw [nextFault] at h
  split at h <;> rw [← (Prod.mk.inj h).2]

/-- All directories on the way to a file are made without touching a file. -/
theorem spares_createDirectories (d : Disk) (p : Path) (place : Place) :
    Spares d (d.createDirectories p).2 place := by
  rw [createDirectories]
  rcases hnext : d.nextFault with ⟨fault, d₁⟩
  have hfault := spares_nextFault hnext place
  cases fault with
  | some fault => exact hfault
  | none => exact hfault.trans (spares_ensureAll d₁ p.lineage place)

/-- A place where a file can be written is that of the path, and no directory is there. -/
theorem of_writable_eq_ok (h : d.writable p = .ok place) :
    d.locate p = .ok place ∧ d.node? place ≠ some .directory ∧ p.trailing = [] := by
  obtain ⟨found, hfound, hok⟩ := Except.bind_eq_ok.1 h
  split at hok
  · cases hok
  · cases hok
  · next htrailing hdirectory =>
    obtain rfl := Except.ok.inj hok
    exact ⟨hfound, hdirectory, htrailing⟩

/-- A file that is written spares all places but its own, even if it is not written. -/
theorem spares_write (d : Disk) (p : Path) (content : ByteArray) (hne : target ≠ placeOf p) :
    Spares d (d.write p content).2 target := by
  rw [write]
  rcases hnext : d.nextFault with ⟨fault, d₁⟩
  have hfault := spares_nextFault hnext target
  -- whatever is put there, it is put where the file is to be written
  have hput {place : Place} (content : ByteArray) (h : d₁.writable p = .ok place) :
      Spares d (d₁.put place content) target := by
    obtain ⟨hlocate, hdirectory, -⟩ := of_writable_eq_ok h
    exact hfault.trans (spares_put content hdirectory (eq_of_locate_eq_ok hlocate ▸ hne))
  dsimp only
  split
  · exact hfault
  · next h => exact hput content h
  · next debris h => exact hput debris h
  · exact hfault

/-- **What is written can be read.** -/
theorem read_write (h : (d.write p content).1 = .ok ()) :
    (d.write p content).2.read p = .ok content := by
  rw [write] at h ⊢
  rcases hnext : d.nextFault with ⟨fault, d₁⟩
  rw [hnext] at h
  dsimp only at h ⊢
  split at h
  · cases h
  · next place hplace =>
    obtain ⟨hlocate, hdirectory, htrailing⟩ := of_writable_eq_ok hplace
    exact read_put content hlocate hdirectory htrailing
  · cases h
  · cases h

/-- A file that cannot be moved is where it was, and so is the one in whose place it was to be. -/
theorem spares_rename {cause : IoError} (h : (d.rename p q).1 = .error cause) (place : Place) :
    Spares d (d.rename p q).2 place := by
  rw [rename] at h ⊢
  rcases hnext : d.nextFault with ⟨fault, d₁⟩
  rw [hnext] at h
  have hfault := spares_nextFault hnext place
  dsimp only at h ⊢
  split at h
  all_goals first | exact hfault | skip
  cases h

/-- A place that a file can be moved to is that of the path, and no directory is there. -/
theorem of_movable_eq_ok (h : d.movable p = .ok place) :
    d.locate p = .ok place ∧ d.node? place ≠ some .directory ∧ p.trailing = [] := by
  obtain ⟨found, hfound, hok⟩ := Except.bind_eq_ok.1 h
  split at hok
  · split at hok <;> cases hok
  split at hok
  · cases hok
  next htrailing =>
  split at hok
  · cases hok
  · next hdirectory =>
    obtain rfl := Except.ok.inj hok
    exact ⟨hfound, hdirectory, by simpa using htrailing⟩

/-- A file is read at its new path. -/
theorem read_rename (h : (d.rename p q).1 = .ok ()) (hread : d.read p = .ok content) :
    (d.rename p q).2.read q = .ok content := by
  rw [rename] at h ⊢
  rcases hnext : d.nextFault with ⟨fault, d₁⟩
  rw [hnext] at h
  have hread₁ := (spares_nextFault hnext (placeOf p)).read_eq_ok hread
  dsimp only at h ⊢
  split at h
  · cases h
  · cases h
  · cases h
  · cases h
  next source content' target hsource hcontent hmovable =>
  obtain rfl := Except.ok.inj (hread₁.symm.trans hcontent)
  obtain ⟨hlocate, hdirectory, htrailing⟩ := of_movable_eq_ok hmovable
  obtain ⟨hsource', hfile, -⟩ := read_eq_ok_iff.1 hcontent
  obtain rfl := Except.ok.inj (hsource'.symm.trans hsource)
  have hplace : placeOf p ≠ [] := ne_nil_of_node? (d := d₁) (by simp [hfile])
  have herase (q : Place) : _ = if placeOf p = q then none else d₁.node? q := node?_erase hplace q
  refine read_put content (locate_mono (fun r hr => ?_) hlocate) ?_ htrailing
  · have hne : placeOf p ≠ r := by
      rintro rfl
      exact absurd (hfile.symm.trans hr) nofun
    rw [herase, if_neg hne, hr]
  · rw [herase]
    split
    · nofun
    · exact hdirectory

end Disk

end GameGateway
