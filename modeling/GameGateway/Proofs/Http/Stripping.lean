import GameGateway.Proofs.Http.Upgrade

/-!
# Stripping is exact

A request's fields are those of lines whose names are in any case (`Fields.ofLines`,
`Head.exists_ofLines_of_scan`). Stripping takes away the lines that are about the hop, and no other
(`strip_ofLines`): those under a name that always is, and those under one that stands in a printable
list of `connection`, with whatever blanks around it and whichever of the lines has the list.
-/

namespace GameGateway.Http

open Wire (Byte)

/-! ### The fields of lines -/

namespace Fields

variable {lines : List (String × List Byte)} {name : String} {value : List Byte}

/-- The fields of lines, whose names are in any case. -/
def ofLines (lines : List (String × List Byte)) : Fields :=
  lines.map fun line => ⟨lowerAscii line.1, line.2⟩

/-- The values of a name are those of its lines. -/
theorem mem_values_ofLines : value ∈ (ofLines lines).values name ↔
    ∃ line ∈ lines, lowerAscii line.1 = name ∧ line.2 = value := by
  simp only [ofLines, values, List.mem_map, List.mem_filter, decide_eq_true_eq]
  constructor
  · rintro ⟨f, ⟨⟨line, hline, rfl⟩, hname⟩, hvalue⟩
    exact ⟨line, hline, hname, hvalue⟩
  · rintro ⟨line, hline, hname, hvalue⟩
    exact ⟨_, ⟨⟨line, hline, rfl⟩, hname⟩, hvalue⟩

end Fields

namespace Scanner

variable {α β : Type} {bytes rest : List Byte} {b : β}

/-- What is read in steps is read by each of them. -/
theorem bind_eq_complete {scan : Scanner α} {next : α → Scanner β}
    (h : (scan >>= next) bytes = .complete b rest) :
    ∃ a rest', scan bytes = .complete a rest' ∧ next a rest' = .complete b rest := by
  change Scanner.bind scan next bytes = _ at h
  unfold Scanner.bind at h
  split at h
  · next a rest' ha => exact ⟨a, rest', ha, h⟩
  · cases h
  · cases h

end Scanner

namespace Head

variable {bytes rest : List Byte} {f : Field} {fs : Fields} {next : Scanner Fields} {most : Nat}
  {head : Head}

/-- A field that is read is that of a line, with its name in lower case. -/
theorem exists_line_of_field (h : field bytes = .complete f rest) :
    ∃ line : String × List Byte, f = ⟨lowerAscii line.1, line.2⟩ := by
  obtain ⟨name, _, -, h⟩ := Scanner.bind_eq_complete h
  obtain ⟨_, _, -, h⟩ := Scanner.bind_eq_complete h
  obtain ⟨_, _, -, h⟩ := Scanner.bind_eq_complete h
  obtain ⟨value, _, -, h⟩ := Scanner.bind_eq_complete h
  obtain ⟨_, _, -, h⟩ := Scanner.bind_eq_complete h
  cases h
  exact ⟨(asciiText name, trimValue value), rfl⟩

theorem endOr_eq_complete (h : endOr next bytes = .complete fs rest) :
    fs = [] ∨ ∃ rest', next rest' = .complete fs rest := by
  obtain ⟨b, bytes', -, h⟩ := Scanner.bind_eq_complete h
  split at h
  · obtain ⟨_, _, -, h⟩ := Scanner.bind_eq_complete h
    cases h
    exact .inl rfl
  · split at h
    · exact .inr ⟨bytes', h⟩
    · cases h

/-- So all fields of a head are those of lines. -/
theorem exists_ofLines_of_fieldLines (h : fieldLines most bytes = .complete fs rest) :
    ∃ lines, fs = Fields.ofLines lines := by
  induction most generalizing bytes fs with
  | zero =>
    obtain rfl | ⟨_, h⟩ := endOr_eq_complete h
    · exact ⟨[], rfl⟩
    · cases h
  | succ most ih =>
    obtain rfl | ⟨_, h⟩ := endOr_eq_complete h
    · exact ⟨[], rfl⟩
    · obtain ⟨f, _, hf, h⟩ := Scanner.bind_eq_complete h
      obtain ⟨fs, _, hfs, h⟩ := Scanner.bind_eq_complete h
      cases h
      obtain ⟨line, rfl⟩ := exists_line_of_field hf
      obtain ⟨lines, rfl⟩ := ih hfs
      exact ⟨line :: lines, rfl⟩

/-- The fields of a request are those of lines. -/
theorem exists_ofLines_of_scan (h : scan bytes = .complete head rest) :
    ∃ lines, head.fields = Fields.ofLines lines := by
  obtain ⟨_, _, -, h⟩ := Scanner.bind_eq_complete h
  obtain ⟨_, _, -, h⟩ := Scanner.bind_eq_complete h
  obtain ⟨_, _, -, h⟩ := Scanner.bind_eq_complete h
  obtain ⟨_, _, -, h⟩ := Scanner.bind_eq_complete h
  obtain ⟨_, _, -, h⟩ := Scanner.bind_eq_complete h
  obtain ⟨fs, _, hfs, h⟩ := Scanner.bind_eq_complete h
  cases h
  exact exists_ofLines_of_fieldLines hfs

end Head

/-! ### Lists -/

section Lists

variable {fs : Fields} {text item name : String}

/-- An item **stands in a list** when the list is written by joining pieces without a comma by
commas, and the item is one of the pieces without the blanks around it. -/
def StandsIn (item text : String) : Prop :=
  ∃ pieces : List (List Char), text.toList = [','].intercalate pieces ∧
    (∀ piece ∈ pieces, ',' ∉ piece) ∧ ∃ piece ∈ pieces, trimBlank (String.ofList piece) = item

/-- Splitting a list at its commas gives what stands in it. -/
theorem mem_listItems_iff : item ∈ listItems text ↔ StandsIn item text := by
  rw [listItems_eq, List.mem_map]
  constructor
  · rintro ⟨piece, hmem, hitem⟩
    obtain ⟨pieces, htext, hpieces, hmem⟩ := Text.mem_splitOn_iff.mp hmem
    exact ⟨pieces, htext, hpieces, piece, hmem, hitem⟩
  · rintro ⟨pieces, htext, hpieces, piece, hmem, hitem⟩
    exact ⟨piece, Text.mem_splitOn_iff.mpr ⟨pieces, htext, hpieces, hmem⟩, hitem⟩

/-- The items of a name stand in the printable ones of its values. -/
theorem Fields.mem_items_iff : item ∈ fs.items name ↔
    ∃ value ∈ fs.values name, ∃ text ∈ Field.text? value, StandsIn item text := by
  simp only [items, List.mem_flatMap, List.mem_filterMap, mem_listItems_iff]
  constructor
  · rintro ⟨text, ⟨value, hvalue, htext⟩, hitem⟩
    exact ⟨value, hvalue, text, htext, hitem⟩
  · rintro ⟨value, hvalue, text, htext, hitem⟩
    exact ⟨text, ⟨value, hvalue, htext⟩, hitem⟩

end Lists

/-! ### Stripping -/

namespace Fields

variable {lines : List (String × List Byte)} {name : String}

/-- Lines are **about the hop** under a name, in whatever case, when it is one of those that always
are or stands in a printable list of `connection`. -/
def AboutHop (lines : List (String × List Byte)) (name : String) : Prop :=
  lowerAscii name ∈ hopByHop ∨
    ∃ line ∈ lines, lowerAscii line.1 = "connection" ∧
      ∃ text ∈ Field.text? line.2, ∃ item, StandsIn item text ∧ lowerAscii item = lowerAscii name

/-- **What is taken for a field about the hop is about the hop.** -/
theorem isHop_ofLines_iff : (ofLines lines).isHop (lowerAscii name) = true ↔
    AboutHop lines name := by
  rw [isHop, Bool.or_eq_true, decide_eq_true_iff, decide_eq_true_iff]
  refine or_congr_right ?_
  simp only [listed, List.mem_map, mem_items_iff, mem_values_ofLines]
  constructor
  · rintro ⟨item, ⟨value, ⟨line, hline, hname, rfl⟩, text, htext, hitem⟩, heq⟩
    exact ⟨line, hline, hname, text, htext, item, hitem, heq⟩
  · rintro ⟨line, hline, hname, text, htext, item, hitem, heq⟩
    exact ⟨item, ⟨line.2, ⟨line, hline, hname, rfl⟩, text, htext, hitem⟩, heq⟩

instance : Decidable (AboutHop lines name) :=
  decidable_of_iff _ isHop_ofLines_iff

/-- **Stripping is exact.** Of lines it leaves those that are not about the hop, each as it is and
in the same order: under a name that is about the hop nothing, under any other all the values.
Stripping once more changes nothing. -/
theorem strip_ofLines (lines : List (String × List Byte)) :
    (ofLines lines).strip = ofLines (lines.filter fun line => ¬AboutHop lines line.1) ∧
    (∀ name, (ofLines lines).strip.values (lowerAscii name) =
      if AboutHop lines name then [] else (ofLines lines).values (lowerAscii name)) ∧
    (ofLines lines).strip.strip = (ofLines lines).strip := by
  refine ⟨?_, fun name => ?_, strip_strip⟩
  · rw [strip, removeWhere, ofLines, List.filter_map, ofLines]
    congr 1
    refine List.filter_congr fun line _ => ?_
    rw [Function.comp_apply, ← ofLines, decide_not]
    congr 1
    rw [Bool.eq_iff_iff, decide_eq_true_iff]
    exact isHop_ofLines_iff
  · rw [strip, values_removeWhere]
    simp only [isHop_ofLines_iff]

end Fields

end GameGateway.Http
