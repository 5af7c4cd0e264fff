import GameGateway.Json.Reader
import GameGateway.Proofs.Except
import GameGateway.Proofs.Json.Assembly
import GameGateway.Proofs.Ident.Text

/-!
# Reading what has been written

A reader **recovers** what a writer writes if it yields the value from the draft of its JSON form,
wherever enough containers may still be entered (`Recovers`). There is one law for each reader; a
record is recovered if its members fill its fields (`Fields.recovers`).
-/

namespace GameGateway.Json

variable {α β : Type}

/-! ### Depth -/

/-- Whether at least `n` containers within each other may still be entered. -/
def Mode.Allows (mode : Mode) (n : Nat) : Prop :=
  mode.buffered ∨ n ≤ mode.depth

theorem Mode.Allows.mono {mode : Mode} {m n : Nat} (h : mode.Allows n) (hmn : m ≤ n) :
    mode.Allows m :=
  h.imp_right (Nat.le_trans hmn)

/-- Entering a container takes one of those that are allowed, unless what is read is buffered. -/
theorem Mode.Allows.enter {mode : Mode} {n : Nat} (h : mode.Allows (n + 1)) :
    ∃ inner, mode.enter = .ok inner ∧ inner.Allows n := by
  rw [Mode.enter]
  cases hb : mode.buffered with
  | true => exact ⟨mode, rfl, .inl hb⟩
  | false =>
    have hdepth : n + 1 ≤ mode.depth := h.resolve_left (by simp [hb])
    rw [if_neg (by simp), if_neg (by omega)]
    exact ⟨_, rfl, .inr (by simp only; omega)⟩

/-- A reader **recovers** what a writer writes, whose values nest at most `n` deep. -/
def Recovers (n : Nat) (write : α → Value) (read : Reader α) : Prop :=
  ∀ mode : Mode, mode.Allows n → ∀ a, read mode (write a).draft = .ok a

/-- A reader that recovers flat values recovers them within more containers. -/
theorem Recovers.mono {m n : Nat} {write : α → Value} {read : Reader α}
    (h : Recovers m write read) (hmn : m ≤ n) : Recovers n write read :=
  fun mode hmode => h mode (hmode.mono hmn)

/-- What is written on lines is read back from them. -/
theorem Recovers.ofText_pretty {n : Nat} {write : α → Value} {read : Reader α}
    (h : Recovers n write read) (hn : n ≤ maxDepth) (a : α) :
    ofText read (write a).pretty = .ok a := by
  rw [Json.ofText_pretty]
  exact h _ (.inr hn) a

/-- What is written without white space is read back. -/
theorem Recovers.ofText_compact {n : Nat} {write : α → Value} {read : Reader α}
    (h : Recovers n write read) (hn : n ≤ maxDepth) (a : α) :
    ofText read (write a).compact = .ok a := by
  rw [Json.ofText_compact]
  exact h _ (.inr hn) a

/-- A value is **read back** from its texts, the one without white space and the one on lines. -/
def ReadsBack (write : α → Value) (read : Reader α) (a : α) : Prop :=
  ofText read (write a).compact = .ok a ∧ ofText read (write a).pretty = .ok a

/-- **What is recovered is read back from its texts**, if it does not nest too deep for a text. -/
theorem Recovers.readsBack {n : Nat} {write : α → Value} {read : Reader α}
    (h : Recovers n write read) (hn : n ≤ maxDepth) (a : α) : ReadsBack write read a :=
  ⟨h.ofText_compact hn a, h.ofText_pretty hn a⟩

/-! ### Scalars -/

/-- A string is read from any mode, since no container is entered. -/
theorem recovers_string : Recovers 0 .string readString := by
  intro mode _ s
  rw [Value.draft]
  rfl

theorem recovers_bool : Recovers 0 .bool readBool := by
  intro mode _ b
  rw [Value.draft]
  rfl

/-- The numeral of an integer is that integer, as long as it fits into 64 bits. -/
theorem value?_ofInt {n : Int} (hlow : Int64.minValue.toInt ≤ n) (hhigh : n < UInt64.size) :
    (Numeral.ofInt n).value? = some (.integer n) := by
  have hn : (Numeral.ofInt n).integer? = some n := by
    simp only [Numeral.integer?, Numeral.ofInt, Decimal.natOfDigits_toDigits, Option.isSome_none,
      Bool.or_self, Bool.false_eq_true, if_false, decide_eq_true_eq]
    split
    · rw [if_pos (by omega)]
      congr 1
      omega
    · rw [if_pos (by omega)]
      congr 1
      omega
  rw [Numeral.value?, hn]

/-- An integer within the bounds of its type is read; the bounds themselves are. -/
theorem readInteger_integer {expected : String} {low high n : Int} (mode : Mode)
    (hmin : Int64.minValue.toInt ≤ low) (hmax : high < UInt64.size) (hlow : low ≤ n)
    (hhigh : n ≤ high) : readInteger expected low high mode (Value.integer n).draft = .ok n := by
  have hfound : (Value.integer n).draft.found = .ok (.integer n) := by
    rw [Value.draft, Draft.found,
      value?_ofInt (Int.le_trans hmin hlow) (Int.lt_of_le_of_lt hhigh hmax)]
  simp [readInteger, hfound, hlow, hhigh]

/-- Types without a sign have a lowest number of zero. -/
theorem readInteger_natCast {expected : String} {size n : Nat} (mode : Mode)
    (hsize : size ≤ UInt64.size) (hn : n < size) :
    readInteger expected 0 (size - 1) mode (Value.integer n).draft = .ok n :=
  readInteger_integer mode (by decide) (by omega) (by omega) (by omega)

theorem recovers_uint16 : Recovers 0 (fun n => .integer n.toNat) readUInt16 := by
  intro mode _ n
  rw [readUInt16, readInteger_natCast mode (by decide) n.toNat_lt]
  simp

theorem recovers_uint32 : Recovers 0 (fun n => .integer n.toNat) readUInt32 := by
  intro mode _ n
  rw [readUInt32, readInteger_natCast mode (by decide) n.toNat_lt]
  simp

theorem recovers_int32 : Recovers 0 (fun n => .integer n.toInt) readInt32 := by
  intro mode _ n
  rw [readInt32, readInteger_integer mode (by decide) (by decide) n.minValue_le_toInt n.toInt_le]
  simp

theorem recovers_int64 : Recovers 0 (fun n => .integer n.toInt) readInt64 := by
  intro mode _ n
  rw [readInt64, readInteger_integer mode (by decide) (by decide) n.minValue_le_toInt n.toInt_le]
  simp

/-- An identifier is read from its own text. -/
theorem recovers_id (r : Resource) : Recovers 0 (fun id => .string id.toString) (readId r) := by
  intro mode hmode id
  rw [readId, recovers_string mode hmode]
  simp [Id.parse_toString]

/-- A choice is recovered from its name if the names tell the choices apart. -/
theorem recovers_variant {variants : Variants α} {name : α → String}
    (h : ∀ a, variants.lookup (name a) = some a) :
    Recovers 0 (fun a => .string (name a)) (readVariant variants) := by
  intro mode _ a
  rw [Value.draft, readVariant, Variants.value, h a]

/-! ### Options and lists -/

/-- A value that may be missing is written as `null`, which no value is written as. -/
theorem Recovers.option {n : Nat} {write : α → Value} {read : Reader α} (h : Recovers n write read)
    (hnull : ∀ a, (write a).draft ≠ .null) :
    Recovers n (Value.ofOption write) (readOption read) := by
  intro mode hmode a
  cases a with
  | none =>
    rw [Value.ofOption, Value.draft]
    rfl
  | some a =>
    rw [Value.ofOption, readOption]
    · rw [h mode hmode a]
      rfl
    · exact hnull a

/-- A list is one more container around its items. -/
theorem Recovers.list {n : Nat} {write : α → Value} {read : Reader α} (h : Recovers n write read) :
    Recovers (n + 1) (fun as => .array (as.map write)) (readList read) := by
  intro mode hmode as
  obtain ⟨inner, henter, hinner⟩ := hmode.enter
  have hitems : ((as.map write).map Value.draft).mapM (read inner) = .ok as := by
    induction as with
    | nil => rfl
    | cons a as ih =>
      rw [List.map_cons, List.map_cons, List.mapM_cons, h inner hinner a, Except.ok_bind, ih]
      rfl
  rw [Value.draft, Value.itemDrafts_eq, readList]
  rw [henter, Except.ok_bind, hitems]
  rfl

/-! ### Records -/

section Lookup

variable {κ : Type} [DecidableEq κ] {l : List (κ × β)} {k : κ} {b : β}

theorem isSome_lookup_iff : (l.lookup k).isSome ↔ k ∈ l.map Prod.fst := by
  induction l with
  | nil => simp
  | cons p l ih =>
    rw [List.lookup_cons, List.map_cons, List.mem_cons, ← ih]
    by_cases hk : k = p.1
    · simp [hk]
    · rw [beq_eq_false_iff_ne.2 hk]
      simp only [hk, false_or]

theorem mem_of_lookup_eq_some (h : l.lookup k = some b) : (k, b) ∈ l := by
  obtain ⟨front, rest, rfl, -⟩ := List.lookup_eq_some_iff.1 h
  exact List.mem_append_right front List.mem_cons_self

/-- Where names are distinct, each of them leads to its own member. -/
theorem lookup_eq_some_of_mem {p : κ × β} (hnodup : (l.map Prod.fst).Nodup) (h : p ∈ l) :
    l.lookup p.1 = some p.2 := by
  induction l with
  | nil => cases h
  | cons q l ih =>
    rw [List.map_cons, List.nodup_cons] at hnodup
    rw [List.lookup_cons]
    rcases List.mem_cons.1 h with rfl | h
    · simp
    · have hne : p.1 ≠ q.1 := fun heq => hnodup.1 (heq ▸ List.mem_map_of_mem h)
      rw [beq_eq_false_iff_ne.2 hne]
      exact ih hnodup.2 h

end Lookup

/-- The members `ms` of an object **fill** the fields of a record with those of `a`. -/
structure Fields.Fills (f : Fields α) (mode : Mode) (ms : List (String × Value)) (a : α) :
    Prop where
  ofMembers : f.ofMembers mode (ms.map fun m => (m.1, m.2.draft)) = .ok a
  check : ∀ name read v, (name, read) ∈ f.checks → ms.lookup name = some v →
    read mode v.draft = .ok ()

namespace Fields

variable {f : Fields α} {mode : Mode} {ms : List (String × Value)} {a : α}

/-- A record without fields is filled by any members. -/
theorem fills_of (mode : Mode) (ms : List (String × Value)) (a : α) :
    (Fields.of a).Fills mode ms a :=
  ⟨rfl, nofun⟩

/-- Members keep their names when they are read. -/
theorem lookup_map_draft (name : String) :
    (ms.map fun m => (m.1, m.2.draft)).lookup name = (ms.lookup name).map Value.draft := by
  induction ms with
  | nil => rfl
  | cons m ms ih =>
    rw [List.map_cons, List.lookup_cons, List.lookup_cons]
    split <;> simp [ih]

/-- The checks of a field and of those before it pass. -/
theorem Fills.check_field {f : Fields (α → β)} {make : α → β} {name : String} {read : Reader α}
    {absent : Option α} (h : f.Fills mode ms make)
    (hread : ∀ v, ms.lookup name = some v → ∃ a, read mode v.draft = .ok a) :
    ∀ name' read' v, (name', read') ∈ (f.field name read absent).checks →
      ms.lookup name' = some v → read' mode v.draft = .ok () := by
  intro name' read' v hmem hv
  rw [Fields.field, List.mem_append, List.mem_singleton] at hmem
  rcases hmem with hmem | heq
  · exact h.check name' read' v hmem hv
  · obtain ⟨rfl, rfl⟩ := Prod.mk.inj heq
    obtain ⟨a, ha⟩ := hread v hv
    change (read mode v.draft).map (fun _ => ()) = .ok ()
    rw [ha]
    rfl

/-- A member fills a field. -/
theorem Fills.field {f : Fields (α → β)} {make : α → β} {name : String} {read : Reader α}
    {absent : Option α} {v : Value} (h : f.Fills mode ms make) (hv : ms.lookup name = some v)
    (ha : read mode v.draft = .ok a) : (f.field name read absent).Fills mode ms (make a) := by
  refine ⟨?_, h.check_field fun v' hv' => ?_⟩
  · simp [Fields.field, h.ofMembers, lookup_map_draft, hv, ha]
  · obtain rfl := Option.some.inj (hv.symm.trans hv')
    exact ⟨a, ha⟩

/-- A field that has a default value may be left out. -/
theorem Fills.absent {f : Fields (α → β)} {make : α → β} {name : String} {read : Reader α}
    (h : f.Fills mode ms make) (hv : ms.lookup name = none) :
    (f.field name read (some a)).Fills mode ms (make a) := by
  refine ⟨?_, h.check_field fun v' hv' => ?_⟩
  · simp [Fields.field, h.ofMembers, lookup_map_draft, hv]
  · rw [hv] at hv'
    cases hv'

/-- An option fills a field if its member is left out when there is no value. -/
theorem Fills.option {f : Fields (Option α → β)} {make : Option α → β} {name : String}
    {read : Reader α} {write : α → Value} {a : Option α} (h : f.Fills mode ms make)
    (hv : ms.lookup name = a.map write)
    (ha : readOption read mode (Value.ofOption write a).draft = .ok a) :
    (f.field name (readOption read) (some none)).Fills mode ms (make a) := by
  cases a with
  | none => exact h.absent hv
  | some a => exact h.field hv ha

/-- **Members pass in any order**, if each has a field, is readable and comes once. -/
theorem checkMembers_eq_ok {checks : List (String × Reader Unit)} {seen : List String}
    (hnodup : (ms.map Prod.fst).Nodup) (hseen : ∀ m ∈ ms, m.1 ∉ seen)
    (hcheck : ∀ m ∈ ms, ∃ read, checks.lookup m.1 = some read ∧ read mode m.2.draft = .ok ()) :
    checkMembers checks mode true seen (ms.map fun m => (some m.1, m.2.draft)) =
      .ok (ms.map fun m => (m.1, m.2.draft)) := by
  induction ms generalizing seen with
  | nil => rfl
  | cons m ms ih =>
    obtain ⟨read, hlookup, hread⟩ := hcheck m List.mem_cons_self
    rw [List.map_cons, List.nodup_cons] at hnodup
    have hseen' : ∀ m' ∈ ms, m'.1 ∉ m.1 :: seen := by
      intro m' hm' hmem
      rcases List.mem_cons.1 hmem with heq | hmem
      · exact hnodup.1 (heq ▸ List.mem_map_of_mem hm')
      · exact hseen m' (List.mem_cons_of_mem m hm') hmem
    have hrest := ih hnodup.2 hseen' fun m' hm' => hcheck m' (List.mem_cons_of_mem m hm')
    rw [List.map_cons, checkMembers, hlookup]
    simp [hseen m List.mem_cons_self, hread, hrest]

/-- **A record is read from the members that fill its fields**, in their order. -/
theorem Fills.readMembers {inner : Mode} (h : f.Fills inner ms a) (henter : mode.enter = .ok inner)
    (hnodup : (f.checks.map Prod.fst).Nodup)
    (hms : (ms.map Prod.fst).Sublist (f.checks.map Prod.fst)) :
    f.readMembers mode (Value.memberDrafts ms) true = .ok a := by
  have hcheck : ∀ m ∈ ms,
      ∃ read, f.checks.lookup m.1 = some read ∧ read inner m.2.draft = .ok () := by
    intro m hm
    have hname : m.1 ∈ f.checks.map Prod.fst := hms.subset (List.mem_map_of_mem hm)
    obtain ⟨read, hread⟩ := Option.isSome_iff_exists.1 (isSome_lookup_iff.2 hname)
    refine ⟨read, hread, h.check m.1 read m.2 (mem_of_lookup_eq_some hread) ?_⟩
    exact lookup_eq_some_of_mem (hms.nodup hnodup) hm
  rw [Fields.readMembers, henter, Except.ok_bind, Value.memberDrafts_eq,
    checkMembers_eq_ok (hms.nodup hnodup) (fun _ _ => List.not_mem_nil) hcheck, Except.ok_bind,
    h.ofMembers]

/-- A record is read from an object whose members fill its fields. -/
theorem Fills.readObject {n : Nat} (hfills : ∀ mode : Mode, mode.Allows n → f.Fills mode ms a)
    (expected : String) (hnodup : (f.checks.map Prod.fst).Nodup)
    (hms : (ms.map Prod.fst).Sublist (f.checks.map Prod.fst)) (hmode : mode.Allows (n + 1)) :
    f.readObject expected mode (Value.object ms).draft = .ok a := by
  obtain ⟨inner, henter, hinner⟩ := hmode.enter
  rw [Value.draft]
  exact (hfills inner hinner).readMembers henter hnodup hms

/-- A record that is written as an object is read as one. -/
theorem read_object (f : Fields α) (name : String) (mode : Mode) (ms : List (String × Value)) :
    f.read name mode (Value.object ms).draft =
      f.readObject ("struct " ++ name) mode (Value.object ms).draft := by
  rw [Value.draft]
  rfl

/-- A record is recovered if its members fill its fields. -/
theorem recovers {n : Nat} {members : α → List (String × Value)} (f : Fields α) (name : String)
    (hnodup : (f.checks.map Prod.fst).Nodup)
    (hmembers : ∀ a, ((members a).map Prod.fst).Sublist (f.checks.map Prod.fst))
    (hfills : ∀ mode : Mode, mode.Allows n → ∀ a, f.Fills mode (members a) a) :
    Recovers (n + 1) (fun a => .object (members a)) (f.read name) := by
  intro mode hmode a
  rw [read_object]
  exact Fills.readObject (fun mode h => hfills mode h a) _ hnodup (hmembers a) hmode

end Fields

/-! ### Tagged values -/

/-- A tagged value is read from its tag and, behind it, its content. -/
theorem Tagged.read_object {t : Tagged α} {n : Nat} {mode : Mode} {tag : String} {read : Reader α}
    {v : Value} {a : α} (hne : t.content ≠ t.tag) (htag : t.variants.lookup tag = some read)
    (hread : ∀ mode : Mode, mode.Allows n → read mode v.draft = .ok a)
    (hmode : mode.Allows (n + 1)) :
    t.read mode (Value.object [(t.tag, .string tag), (t.content, v)]).draft = .ok a := by
  obtain ⟨inner, henter, hinner⟩ := hmode.enter
  have hvariant : readVariant t.variants inner (.string (some tag)) = .ok read := by
    rw [readVariant, Variants.value, htag]
  rw [Value.draft, Tagged.read, henter, Except.ok_bind, Tagged.readMembers]
  simp [Value.memberDrafts, Value.draft, Tagged.nextMember, Tagged.finish, hne, hvariant,
    hread inner hinner]

end GameGateway.Json
