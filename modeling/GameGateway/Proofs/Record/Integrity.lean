import GameGateway.Proofs.Record.Changes
import GameGateway.Store.Basic

/-!
# The integrity of the document

The records of a **sound** document do not contradict each other: identifiers and the ports of
listeners are distinct, at most one listener is the default one, and what a record refers to is
there. Each of the six changes of the document keeps it sound (`Panel.Sound.saveListener` and so
on), so it is sound after every run of changes to a store, whatever befalls the disk meanwhile.
-/

namespace GameGateway

/-! ### Items with distinct keys -/

section Upsert

variable {α κ : Type} {key : α → κ} {item x : α} {l : List α} {R : α → α → Prop}

/-- The items of a list have **distinct** keys. -/
def Distinct (key : α → κ) (l : List α) : Prop :=
  l.Pairwise fun a b => key a ≠ key b

instance [DecidableEq κ] : Decidable (Distinct key l) :=
  inferInstanceAs (Decidable (l.Pairwise _))

/-- Fewer items are distinct if more are. -/
theorem Distinct.eraseP (h : Distinct key l) {p : α → Bool} : Distinct key (l.eraseP p) :=
  List.Pairwise.sublist List.eraseP_sublist h

/-- Items of the list with the same key are the same. -/
theorem Distinct.eq_of_mem (h : Distinct key l) {a b : α} (ha : a ∈ l) (hb : b ∈ l)
    (hkey : key a = key b) : a = b := by
  induction l with
  | nil => cases ha
  | cons c rest ih =>
    obtain ⟨hc, hrest⟩ := List.pairwise_cons.mp h
    rcases List.mem_cons.mp ha with hac | ha
    · rcases List.mem_cons.mp hb with hbc | hb
      · rw [hac, hbc]
      · exact absurd (hac ▸ hkey) (hc b hb)
    · rcases List.mem_cons.mp hb with hbc | hb
      · exact absurd (hbc ▸ hkey.symm) (hc a ha)
      · exact ih hrest ha hb

variable [DecidableEq κ]

/-- What is put into a list is in it. -/
theorem mem_upsert_self : item ∈ upsert key item l := by
  induction l with
  | nil => exact List.mem_singleton_self item
  | cons a rest ih =>
    rw [upsert]
    split
    · exact List.mem_cons_self
    · exact List.mem_cons_of_mem a ih

/-- Items with other keys stay. -/
theorem mem_upsert_of_ne (hx : x ∈ l) (hne : key x ≠ key item) : x ∈ upsert key item l := by
  induction l with
  | nil => cases hx
  | cons a rest ih =>
    rw [upsert]
    split
    · next ha =>
      rcases List.mem_cons.mp hx with rfl | hx
      · exact absurd ha hne
      · exact List.mem_cons_of_mem item hx
    · rcases List.mem_cons.mp hx with rfl | hx
      · exact List.mem_cons_self
      · exact List.mem_cons_of_mem a (ih hx)

/-- Nothing but the new item comes into the list. -/
theorem mem_of_mem_upsert (hx : x ∈ upsert key item l) : x = item ∨ x ∈ l := by
  induction l with
  | nil => exact .inl (List.mem_singleton.mp hx)
  | cons a rest ih =>
    rw [upsert] at hx
    split at hx
    · exact (List.mem_cons.mp hx).imp_right (List.mem_cons_of_mem a)
    · rcases List.mem_cons.mp hx with rfl | hx
      · exact .inr List.mem_cons_self
      · exact (ih hx).imp_right (List.mem_cons_of_mem a)

/-- Every key of the list is still one. -/
theorem exists_mem_upsert (hx : x ∈ l) : ∃ y ∈ upsert key item l, key y = key x := by
  by_cases hne : key x = key item
  · exact ⟨item, mem_upsert_self, hne.symm⟩
  · exact ⟨x, mem_upsert_of_ne hx hne, rfl⟩

/-- What holds between any two items still does if it holds between the new one and those that have
other keys. -/
theorem pairwise_upsert (hkey : Distinct key l) (hl : l.Pairwise R)
    (hleft : ∀ a ∈ l, key a ≠ key item → R a item)
    (hright : ∀ a ∈ l, key a ≠ key item → R item a) : (upsert key item l).Pairwise R := by
  induction l with
  | nil => exact List.pairwise_singleton R item
  | cons a rest ih =>
    obtain ⟨hka, hkrest⟩ := List.pairwise_cons.mp hkey
    obtain ⟨hRa, hRrest⟩ := List.pairwise_cons.mp hl
    rw [upsert]
    split
    · next ha =>
      -- no other item has the key
      refine List.pairwise_cons.mpr ⟨fun b hb => ?_, hRrest⟩
      exact hright b (List.mem_cons_of_mem a hb) fun hb' => hka b hb (ha.trans hb'.symm)
    · next ha =>
      refine List.pairwise_cons.mpr ⟨fun b hb => ?_, ?_⟩
      · rcases mem_of_mem_upsert hb with rfl | hb
        · exact hleft a List.mem_cons_self ha
        · exact hRa b hb
      · exact ih hkrest hRrest (fun b hb => hleft b (List.mem_cons_of_mem a hb))
          fun b hb => hright b (List.mem_cons_of_mem a hb)

/-- **Putting an item in keeps keys distinct**, since it takes the place of the one with its key. -/
theorem Distinct.upsert (h : Distinct key l) : Distinct key (upsert key item l) :=
  pairwise_upsert h h (fun _ _ => id) fun _ _ => Ne.symm

/-- Only the item with its key makes room for a new one. -/
theorem Distinct.mem_upsert (h : Distinct key l) :
    x ∈ GameGateway.upsert key item l ↔ x = item ∨ x ∈ l ∧ key x ≠ key item := by
  constructor
  · intro hx
    by_cases hne : key x = key item
    · exact .inl (h.upsert.eq_of_mem hx mem_upsert_self hne)
    · exact (mem_of_mem_upsert hx).imp_right fun hx => ⟨hx, hne⟩
  · rintro (rfl | ⟨hx, hne⟩)
    · exact mem_upsert_self
    · exact mem_upsert_of_ne hx hne

/-- Items that are put into a list one after the other are all in it, beside the former ones that
have other keys. -/
theorem mem_foldl_upsert {items : List α} (hitems : Distinct key items) (h : Distinct key l) :
    x ∈ items.foldl (fun l item => GameGateway.upsert key item l) l ↔
      x ∈ items ∨ x ∈ l ∧ ∀ item ∈ items, key item ≠ key x := by
  induction items generalizing l with
  | nil => simp
  | cons item rest ih =>
    obtain ⟨hitem, hrest⟩ := List.pairwise_cons.mp hitems
    rw [List.foldl_cons, ih hrest h.upsert, h.mem_upsert, List.mem_cons, List.forall_mem_cons]
    constructor
    · rintro (hx | ⟨rfl | ⟨hx, hne⟩, hother⟩)
      · exact .inl (.inr hx)
      · exact .inl (.inl rfl)
      · exact .inr ⟨hx, hne.symm, hother⟩
    · rintro ((rfl | hx) | ⟨hx, hne, hother⟩)
      · exact .inr ⟨.inl rfl, fun a ha => (hitem a ha).symm⟩
      · exact .inl hx
      · exact .inr ⟨.inr ⟨hx, hne.symm⟩, hother⟩

theorem Distinct.foldl_upsert {items : List α} (h : Distinct key l) :
    Distinct key (items.foldl (fun l item => GameGateway.upsert key item l) l) := by
  induction items generalizing l with
  | nil => exact h
  | cons item rest ih => exact ih h.upsert

/-- An item is found by its key. -/
theorem Distinct.find?_eq_some (h : Distinct key l) (hx : x ∈ l) :
    l.find? (fun a => key a = key x) = some x := by
  cases hfind : l.find? fun a => decide (key a = key x) with
  | none => simpa using List.find?_eq_none.mp hfind x hx
  | some a =>
    have hkey : key a = key x := by simpa using List.find?_some hfind
    rw [h.eq_of_mem (List.mem_of_find?_eq_some hfind) hx hkey]

end Upsert

/-! ### Sound documents -/

namespace Panel

/-- A document is **sound** when its records do not contradict each other. -/
structure Sound (p : Panel) : Prop where
  listeners : Distinct (·.id) p.listeners
  servers : Distinct (·.id) p.servers
  modules : Distinct (·.id) p.modules
  ports : Distinct (·.port) p.listeners
  /-- At most one listener is the default one. -/
  isDefault : p.listeners.Pairwise fun a b => ¬(a.isDefault = true ∧ b.isDefault = true)
  listener : ∀ s ∈ p.servers, ∀ id ∈ s.listener, ∃ l ∈ p.listeners, l.id = id
  server : ∀ m ∈ p.modules, ∃ s ∈ p.servers, s.id = m.server

variable {p p' : Panel}

instance : Decidable p.Sound :=
  decidable_of_iff
    (Distinct (·.id) p.listeners ∧ Distinct (·.id) p.servers ∧ Distinct (·.id) p.modules ∧
      Distinct (·.port) p.listeners ∧
      p.listeners.Pairwise (fun a b => ¬(a.isDefault = true ∧ b.isDefault = true)) ∧
      (∀ s ∈ p.servers, ∀ id ∈ s.listener, ∃ l ∈ p.listeners, l.id = id) ∧
      ∀ m ∈ p.modules, ∃ s ∈ p.servers, s.id = m.server)
    ⟨fun ⟨hl, hs, hm, hp, hd, hsl, hms⟩ => ⟨hl, hs, hm, hp, hd, hsl, hms⟩,
      fun ⟨hl, hs, hm, hp, hd, hsl, hms⟩ => ⟨hl, hs, hm, hp, hd, hsl, hms⟩⟩

theorem sound_empty : empty.Sound where
  listeners := .nil
  servers := .nil
  modules := .nil
  ports := .nil
  isDefault := .nil
  listener := by
    intro s hs
    cases hs
  server := by
    intro m hm
    cases hm

/-! #### Changing listeners -/

/-- Taking the mark of the default listener away from all of them does no harm. -/
theorem Sound.clearDefault (h : p.Sound) :
    Sound { p with listeners := p.listeners.map fun l => { l with isDefault := false } } where
  listeners := List.pairwise_map.mpr h.listeners
  servers := h.servers
  modules := h.modules
  ports := List.pairwise_map.mpr h.ports
  isDefault := by
    refine List.pairwise_map.mpr (h.isDefault.imp ?_)
    rintro a b - ⟨ha, -⟩
    cases ha
  listener := by
    intro s hs id hid
    obtain ⟨l, hl, rfl⟩ := h.listener s hs id hid
    exact ⟨{ l with isDefault := false }, List.mem_map_of_mem hl, rfl⟩
  server := h.server

/-- A listener may be put in when its port is its own and it is not a second default. -/
theorem Sound.upsertListener (h : p.Sound) {l : Listener}
    (hport : ∀ a ∈ p.listeners, a.id ≠ l.id → a.port ≠ l.port)
    (hdefault : l.isDefault = true → ∀ a ∈ p.listeners, a.isDefault = false) :
    { p with listeners := upsert (·.id) l p.listeners }.Sound where
  listeners := h.listeners.upsert
  servers := h.servers
  modules := h.modules
  ports := pairwise_upsert h.listeners h.ports hport fun a ha hne => (hport a ha hne).symm
  isDefault := by
    have hboth : ∀ a ∈ p.listeners, ¬(a.isDefault = true ∧ l.isDefault = true) := by
      rintro a ha ⟨hda, hdl⟩
      rw [hdefault hdl a ha] at hda
      cases hda
    exact pairwise_upsert h.listeners h.isDefault (fun a ha _ => hboth a ha)
      fun a ha _ => hboth a ha ∘ And.symm
  listener := by
    intro s hs id hid
    obtain ⟨a, ha, rfl⟩ := h.listener s hs id hid
    exact exists_mem_upsert ha
  server := h.server

/-- The port of a listener is checked, and the default mark taken from the others, before it is
saved. -/
theorem Sound.saveListener (h : p.Sound) {l : Listener} (hok : p.saveListener l = .ok p') :
    p'.Sound := by
  obtain ⟨hport, rfl⟩ := saveListener_eq_ok_iff.mp hok
  split
  · -- the listener becomes the default one: first no other is any more
    refine h.clearDefault.upsertListener (fun a ha => ?_) fun _ a ha => ?_
    all_goals obtain ⟨a₀, ha₀, rfl⟩ := List.mem_map.mp ha
    · exact hport a₀ ha₀
    · rfl
  · next hd => exact h.upsertListener hport fun hd' => absurd hd' hd

/-- A listener that a server refers to is not deleted. -/
theorem Sound.deleteListener (h : p.Sound) {id : ListenerId} {l : Listener}
    (hok : p.deleteListener id = .ok (l, p')) : p'.Sound := by
  obtain ⟨hunused, -, rfl⟩ := deleteListener_eq_ok_iff.mp hok
  constructor
  case listeners => exact h.listeners.eraseP
  case servers => exact h.servers
  case modules => exact h.modules
  case ports => exact h.ports.eraseP
  case isDefault => exact List.Pairwise.sublist List.eraseP_sublist h.isDefault
  case server => exact h.server
  case listener =>
    intro s hs other hother
    obtain ⟨a, ha, rfl⟩ := h.listener s hs other hother
    -- a listener that a server is reached through is not the one deleted
    have hne : a.id ≠ id := by
      rintro rfl
      exact hunused s hs (Option.mem_def.mp hother)
    exact ⟨a, (List.mem_eraseP_of_neg (by simpa using hne)).mpr ha, rfl⟩

/-! #### Changing servers -/

/-- A server is saved only with a listener that is there, or with none. -/
theorem Sound.saveServer (h : p.Sound) {s : Server} (hok : p.saveServer s = .ok p') :
    p'.Sound := by
  obtain ⟨hthere, rfl⟩ := saveServer_eq_ok_iff.mp hok
  constructor
  case listeners => exact h.listeners
  case servers => exact h.servers.upsert
  case modules => exact h.modules
  case ports => exact h.ports
  case isDefault => exact h.isDefault
  case listener =>
    intro a ha id hid
    rcases mem_of_mem_upsert ha with rfl | ha
    · exact hthere id hid
    · exact h.listener a ha id hid
  case server =>
    intro m hm
    obtain ⟨a, ha, hid⟩ := h.server m hm
    obtain ⟨b, hb, hba⟩ : ∃ b ∈ upsert (·.id) s p.servers, b.id = a.id := exists_mem_upsert ha
    exact ⟨b, hb, hba.trans hid⟩

/-- The modules of a server go with it, so none of them is left without one. -/
theorem Sound.deleteServer (h : p.Sound) {id : ServerId} {s : Server}
    (hok : p.deleteServer id = .ok (s, p')) : p'.Sound := by
  obtain ⟨-, rfl⟩ := deleteServer_eq_ok_iff.mp hok
  constructor
  case listeners => exact h.listeners
  case servers => exact h.servers.eraseP
  case modules => exact List.Pairwise.sublist List.filter_sublist h.modules
  case ports => exact h.ports
  case isDefault => exact h.isDefault
  case listener => exact fun a ha => h.listener a (List.mem_of_mem_eraseP ha)
  case server =>
    intro m hm
    obtain ⟨hm, hne⟩ := List.mem_filter.mp hm
    obtain ⟨a, ha, hid⟩ := h.server m hm
    refine ⟨a, (List.mem_eraseP_of_neg ?_).mpr ha, hid⟩
    simpa [hid] using hne

/-! #### Changing modules -/

/-- A module is saved only with a server that is there. -/
theorem Sound.saveModule (h : p.Sound) {m : Module} (hok : p.saveModule m = .ok p') :
    p'.Sound := by
  obtain ⟨hthere, rfl⟩ := saveModule_eq_ok_iff.mp hok
  refine { h with modules := h.modules.upsert, server := fun a ha => ?_ }
  rcases mem_of_mem_upsert ha with rfl | ha
  · exact hthere
  · exact h.server a ha

theorem Sound.deleteModule (h : p.Sound) {id : ModuleId} {m : Module}
    (hok : p.deleteModule id = .ok (m, p')) : p'.Sound := by
  obtain ⟨-, rfl⟩ := deleteModule_eq_ok_iff.mp hok
  exact { h with
    modules := h.modules.eraseP
    server := fun a ha => h.server a (List.mem_of_mem_eraseP ha) }

end Panel

/-! ### Runs of changes to a store -/

namespace Store

variable {s : Store}

/-- A document that is committed is either the one in memory then, or has changed nothing. -/
theorem panel_commit {α : Type} (s : Store) (result : α) (panel : Panel) :
    (s.commit result panel).2.panel = panel ∨ (s.commit result panel).2.panel = s.panel := by
  unfold commit
  split
  · exact .inl rfl
  · split
    · exact .inl rfl
    · exact .inr rfl

/-- When a commit succeeds, the new document is the one in memory. -/
theorem panel_of_commit_eq_ok {α : Type} {result a : α} {panel : Panel} {s' : Store}
    (h : s.commit result panel = (.ok a, s')) : s'.panel = panel := by
  unfold commit at h
  split at h
  · rw [← (Prod.mk.inj h).2]
  · split at h
    · rw [← (Prod.mk.inj h).2]
    · cases (Prod.mk.inj h).1

/-- When it fails, the former one is. -/
theorem panel_of_commit_eq_error {α : Type} {result : α} {cause : StoreError} {panel : Panel}
    {s' : Store} (h : s.commit result panel = (.error cause, s')) : s'.panel = s.panel := by
  unfold commit at h
  split at h
  · cases (Prod.mk.inj h).1
  · split at h
    · cases (Prod.mk.inj h).1
    · rw [← (Prod.mk.inj h).2]

theorem eq_of_commit_eq_ok {α : Type} {result a : α} {panel : Panel} {s' : Store}
    (h : s.commit result panel = (.ok a, s')) : result = a := by
  unfold commit at h
  split at h
  · exact Except.ok.inj (Prod.mk.inj h).1
  · split at h
    · exact Except.ok.inj (Prod.mk.inj h).1
    · cases (Prod.mk.inj h).1

/-- A change that succeeds leaves the document that it makes in memory. -/
theorem of_change_eq_ok {result : Except RecordError Panel} {s' : Store}
    (h : s.change result = (.ok (), s')) : result = .ok s'.panel := by
  unfold change at h
  split at h
  · cases (Prod.mk.inj h).1
  · rw [panel_of_commit_eq_ok h]

/-- A record that is taken away was there, and the document without it is the one in memory. -/
theorem of_takeAway_eq_ok {α : Type} {result : Except RecordError (α × Panel)} {a : α} {s' : Store}
    (h : s.takeAway result = (.ok a, s')) : result = .ok (a, s'.panel) := by
  unfold takeAway at h
  split at h
  · cases (Prod.mk.inj h).1
  · rw [panel_of_commit_eq_ok h, eq_of_commit_eq_ok h]

/-- A **change** of a store's document. -/
inductive Change where
  | saveListener (l : Listener)
  | deleteListener (id : ListenerId)
  | saveServer (server : Server)
  | deleteServer (id : ServerId)
  | saveModule (m : Module)
  | deleteModule (id : ModuleId)

/-- The store behind a change, whether it has failed or not. -/
def make (s : Store) : Change → Store
  | .saveListener l => (s.saveListener l).2
  | .deleteListener id => (s.deleteListener id).2
  | .saveServer server => (s.saveServer server).2
  | .deleteServer id => (s.deleteServer id).2
  | .saveModule m => (s.saveModule m).2
  | .deleteModule id => (s.deleteModule id).2

section Invariant

variable {P : Panel → Prop} (h : P s.panel)

include h

/-- What holds of a document, and of the one that a change makes of it, holds in either case. -/
theorem invariant_change {result : Except RecordError Panel}
    (hok : ∀ panel, result = .ok panel → P panel) : P (s.change result).2.panel := by
  unfold change
  split
  · exact h
  · next panel =>
    rcases panel_commit s () panel with heq | heq
    · rw [heq]
      exact hok panel rfl
    · rw [heq]
      exact h

theorem invariant_takeAway {α : Type} {result : Except RecordError (α × Panel)}
    (hok : ∀ a panel, result = .ok (a, panel) → P panel) : P (s.takeAway result).2.panel := by
  unfold takeAway
  split
  · exact h
  · next a panel =>
    rcases panel_commit s a panel with heq | heq
    · rw [heq]
      exact hok a panel rfl
    · rw [heq]
      exact h

end Invariant

/-- **Every change keeps the document sound**, even if it fails. -/
theorem sound_make (h : s.panel.Sound) (c : Change) : (s.make c).panel.Sound := by
  cases c with
  | saveListener l => exact invariant_change h fun _ => h.saveListener
  | deleteListener id => exact invariant_takeAway h fun _ _ => h.deleteListener
  | saveServer server => exact invariant_change h fun _ => h.saveServer
  | deleteServer id => exact invariant_takeAway h fun _ _ => h.deleteServer
  | saveModule m => exact invariant_change h fun _ => h.saveModule
  | deleteModule id => exact invariant_takeAway h fun _ _ => h.deleteModule

/-- A **turn** of a run: a change of the document, or anything that befalls the disk. -/
inductive Turn where
  | change (c : Change)
  | disk (disk : Disk)

/-- The store behind a turn. -/
def take (s : Store) : Turn → Store
  | .change c => s.make c
  | .disk disk => { s with disk }

/-- The store **after** a run. -/
def after (s : Store) (turns : List Turn) : Store :=
  turns.foldl take s

/-- **The document is sound after every run** of changes that begins with a sound one, such as the
empty one, whichever of them fail. -/
theorem sound_after (s : Store) (h : s.panel = .empty ∨ s.panel.Sound) (turns : List Turn) :
    (s.after turns).panel.Sound := by
  have hsound : s.panel.Sound := h.elim (fun heq => heq ▸ Panel.sound_empty) id
  clear h
  unfold after
  induction turns generalizing s with
  | nil => exact hsound
  | cons turn rest ih =>
    refine ih (s.take turn) ?_
    cases turn with
    | change c => exact sound_make hsound c
    | disk disk => exact hsound

/-- A run in which the first save of a server cannot be written, and in which the listener of the
server cannot be deleted. -/
theorem sound_after_noSpace :
    let listener : Listener := { id := ⟨.ofNat 1⟩, port := 25565, name := "main" }
    let server : Server := { id := ⟨.ofNat 2⟩, name := "lobby", listener := some listener.id }
    let s : Store := {
      panel := .empty
      path := some ⟨true, ["panel.json"]⟩
      disk := { faults := [none, none, none, none, some { error := .noSpace }] } }
    let turns := [.change (.saveListener listener), .change (.saveServer server),
      .change (.saveServer server), .change (.deleteListener listener.id)]
    s.panel = .empty ∧ (s.after turns).panel.servers = [server] ∧
      (s.after (turns.take 2)).panel.servers = [] ∧
      (s.after turns).panel.Sound :=
  ⟨rfl, by decide, by decide, sound_after _ (.inl rfl) _⟩

end Store

end GameGateway
