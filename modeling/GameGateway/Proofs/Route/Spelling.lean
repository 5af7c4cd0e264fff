import GameGateway.Proofs.Text.Trimming
import GameGateway.Route.Key

/-!
# Spellings of a host

What the spellings of a host have in common is its routing key. A host that is not an address, and
so has no colon and no bracket in front, may be written with a port or with dots behind it; every
spelling may be written in other case and between blanks. All of these have one key. Of an address
nothing is taken for a port but what is behind the bracket that closes it
(`normalize_spellings`).
-/

namespace GameGateway

open Text

namespace Route.Key

variable {s t u p : List Char} {c : Char}

/-! ### Hosts of trimmed texts -/

/-- A text goes up to the first mark behind it. -/
theorem takeWhile_ne_append (hs : c ∉ s) : (s ++ c :: t).takeWhile (· ≠ c) = s := by
  have hfront : ∀ d ∈ s, decide (d ≠ c) = true := by
    intro d hd
    rw [decide_eq_true_iff]
    rintro rfl
    exact hs hd
  rw [List.takeWhile_append_of_pos hfront, List.takeWhile_cons_of_neg (by simp), List.append_nil]

theorem dropPort_eq :
    dropPort s = if s.count ':' = 1 then s.takeWhile (· ≠ ':') else s := by
  have hfront : (s.takeWhile (· ≠ ':')).count ':' = 0 := by
    refine List.count_eq_zero.mpr fun hmem => ?_
    simpa using List.mem_takeWhile_imp hmem
  have hcount : s.count ':' = (s.dropWhile (· ≠ ':')).count ':' := by
    conv_lhs => rw [← List.takeWhile_append_dropWhile (p := (· ≠ ':')) (l := s)]
    rw [List.count_append, hfront, Nat.zero_add]
  unfold dropPort
  split
  · next hnil =>
    rw [hcount, hnil, if_neg (by simp)]
  · next colon port hport =>
    have hcolon : colon = ':' := by
      simpa using head?_dropWhile_not (p := (· ≠ ':')) (s := s) colon (by rw [hport]; rfl)
    rw [hcount, hport, hcolon, List.count_cons_self]
    by_cases hmem : ':' ∈ port
    · have hpos : 0 < port.count ':' := List.count_pos_iff.mpr hmem
      rw [if_pos hmem, if_neg (by omega)]
    · rw [if_neg hmem, if_pos (by rw [List.count_eq_zero.mpr hmem])]

theorem dropBehindBracket_eq :
    dropBehindBracket s = if ']' ∈ s then s.takeWhile (· ≠ ']') ++ [']'] else s := by
  unfold dropBehindBracket
  split
  · next hnil =>
    have hmem : ']' ∉ s := by
      intro hmem
      simpa using List.dropWhile_eq_nil_iff.mp hnil _ hmem
    rw [if_neg hmem]
  · next bracket rest hrest =>
    have hbracket : bracket = ']' := by
      simpa using head?_dropWhile_not (p := (· ≠ ']')) (s := s) bracket (by rw [hrest]; rfl)
    subst hbracket
    have hmem : ']' ∈ s := List.dropWhile_subset _ (hrest ▸ List.mem_cons_self)
    rw [if_pos hmem]

/-- What is behind the only colon is a port. -/
theorem dropPort_append (hs : ':' ∉ s) (hp : ':' ∉ p) : dropPort (s ++ ':' :: p) = s := by
  have hcount : (s ++ ':' :: p).count ':' = 1 := by
    rw [List.count_append, List.count_cons_self, List.count_eq_zero.mpr hs,
      List.count_eq_zero.mpr hp]
  rw [dropPort_eq, if_pos hcount, takeWhile_ne_append hs]

/-- What is behind the first bracket that closes is dropped. -/
theorem dropBehindBracket_append (hs : ']' ∉ s) :
    dropBehindBracket (s ++ ']' :: p) = s ++ [']'] := by
  rw [dropBehindBracket_eq, if_pos (List.mem_append_right s List.mem_cons_self),
    takeWhile_ne_append hs]

theorem host_eq :
    host s = if s.head? = some '[' then dropBehindBracket s else dropPort s := by
  unfold host
  split
  · rw [List.head?_cons, if_pos rfl]
  · next hne =>
    rw [if_neg]
    intro hhead
    obtain ⟨rest, rfl⟩ := List.head?_eq_some_iff.mp hhead
    exact hne rest rfl

/-- A text without a bracket in front is a host, unless it has just one colon. -/
theorem host_eq_self (hbracket : s.head? ≠ some '[') (hcolon : s.count ':' ≠ 1) : host s = s := by
  rw [host_eq, if_neg hbracket, dropPort_eq, if_neg hcolon]

/-! ### Case and blanks -/

theorem dropPort_map_toLower : dropPort (s.map Char.toLower) = (dropPort s).map Char.toLower := by
  rw [dropPort_eq, dropPort_eq, count_map_toLower rfl, takeWhile_map_toLower rfl]
  split
  · rfl
  · rfl

theorem dropBehindBracket_map_toLower :
    dropBehindBracket (s.map Char.toLower) = (dropBehindBracket s).map Char.toLower := by
  rw [dropBehindBracket_eq, dropBehindBracket_eq, takeWhile_map_toLower rfl]
  by_cases hmem : ']' ∈ s
  · rw [if_pos ((mem_map_toLower rfl).mpr hmem), if_pos hmem, List.map_append]
    rfl
  · rw [if_neg (mt (mem_map_toLower rfl).mp hmem), if_neg hmem]

theorem host_map_toLower : host (s.map Char.toLower) = (host s).map Char.toLower := by
  rw [host_eq, host_eq, dropPort_map_toLower, dropBehindBracket_map_toLower]
  by_cases hhead : s.head? = some '['
  · rw [if_pos ((head?_map_toLower rfl).mpr hhead), if_pos hhead]
  · rw [if_neg (mt (head?_map_toLower rfl).mp hhead), if_neg hhead]

/-- Case does not matter to the routing key. -/
theorem chars_map_toLower : chars (s.map Char.toLower) = chars s := by
  rw [chars, chars, trim_map_toLower, host_map_toLower, dropEndWhile_map_toLower rfl, List.map_map,
    toLower_comp_toLower]

/-- Blanks around a spelling do not matter to the routing key. -/
theorem chars_between {before after : List Char} (hbefore : ∀ c ∈ before, isBlank c = true)
    (hafter : ∀ c ∈ after, isBlank c = true) : chars (before ++ s ++ after) = chars s := by
  rw [chars, chars, trim_between hbefore hafter]

/-! ### Ports and dots behind a name -/

/-- A text is a **name** of a host when it is trimmed, has no colon and no bracket in front. -/
structure IsName (s : List Char) : Prop where
  trimmed : trim s = s
  colon : ':' ∉ s
  bracket : s.head? ≠ some '['

namespace IsName

variable (h : IsName s)
include h

theorem host_eq : host s = s :=
  host_eq_self h.bracket (by rw [List.count_eq_zero.mpr h.colon]; exact Nat.zero_ne_one)

/-- What follows a name does not put a bracket in front. -/
theorem head?_append_ne (ht : t.head? ≠ some '[') : (s ++ t).head? ≠ some '[' := by
  rw [List.head?_append]
  intro hhead
  rcases Option.or_eq_some_iff.mp hhead with hs | ⟨-, ht'⟩
  · exact h.bracket hs
  · exact ht ht'

/-- A **port** behind a name does not matter to the routing key. -/
theorem chars_port (hp : ':' ∉ p) : chars (s ++ ':' :: p) = chars s := by
  obtain ⟨blanks, hblanks, hall⟩ := exists_eq_dropEndWhile_append isBlank p
  have hport : ':' ∉ trimEnd p := fun hmem => hp (hblanks ▸ List.mem_append_left _ hmem)
  have htrim : trim (s ++ ':' :: p) = s ++ ':' :: trimEnd p := by
    have hsplit : s ++ ':' :: p = [] ++ (s ++ ':' :: trimEnd p) ++ blanks := by
      rw [List.nil_append, List.append_assoc, List.cons_append, trimEnd, ← hblanks]
    rw [hsplit, trim_between (by simp) hall]
    refine trim_append_eq_self h.trimmed (by simp; decide) fun c hc => ?_
    rw [List.getLast?_cons, Option.mem_some_iff] at hc
    cases hlast : (trimEnd p).getLast? with
    | none =>
      rw [hlast] at hc
      exact hc ▸ rfl
    | some d =>
      rw [hlast] at hc
      exact hc ▸ getLast?_dropEndWhile_not d hlast
  have hhost : host (s ++ ':' :: trimEnd p) = s := by
    rw [Key.host_eq, if_neg (h.head?_append_ne (by simp)), dropPort_append h.colon hport]
  rw [chars, chars, htrim, hhost, h.trimmed, h.host_eq]

/-- **Dots** behind a name do not matter to the routing key. -/
theorem chars_dots {n : Nat} : chars (s ++ List.replicate n '.') = chars s := by
  have htrim : trim (s ++ List.replicate n '.') = s ++ List.replicate n '.' := by
    refine trim_append_eq_self h.trimmed (fun c hc => ?_) fun c hc => ?_
    · rw [List.eq_of_mem_replicate (List.mem_of_mem_head? hc)]
      rfl
    · rw [List.eq_of_mem_replicate (List.mem_of_getLast? hc)]
      rfl
  have hcount : (s ++ List.replicate n '.').count ':' = 0 := by
    rw [List.count_append, List.count_eq_zero.mpr h.colon, List.count_replicate]
    rfl
  have hbracket : (s ++ List.replicate n '.').head? ≠ some '[' := by
    refine h.head?_append_ne fun hhead => ?_
    cases List.eq_of_mem_replicate (List.mem_of_mem_head? hhead)
  rw [chars, chars, htrim, host_eq_self hbracket (by omega), h.trimmed, h.host_eq,
    dropEndWhile_append fun c hc => decide_eq_true (List.eq_of_mem_replicate hc)]

/-- A name that does not end in a dot stays in the routing key, in lower case, **whatever follows
it**. -/
theorem isPrefix_chars (hne : s ≠ []) (hdot : s.getLast? ≠ some '.') :
    s.map Char.toLower <+: chars (s ++ t) := by
  obtain ⟨rest, htrim⟩ := isPrefix_trim_append (t := t) hne h.trimmed
  have hbracket : (s ++ rest).head? ≠ some '[' := by
    rw [List.head?_append_of_ne_nil s hne]
    exact h.bracket
  have hfront : ∀ c ∈ s, decide (c ≠ ':') = true := by
    intro c hc
    rw [decide_eq_true_iff]
    rintro rfl
    exact h.colon hc
  -- a colon that a port stands behind is not in the name
  obtain ⟨port, hport⟩ : s <+: host (s ++ rest) := by
    rw [Key.host_eq, if_neg hbracket, dropPort_eq]
    split
    · rw [List.takeWhile_append_of_pos hfront]
      exact List.prefix_append s _
    · exact List.prefix_append s _
  rw [chars, ← htrim, ← hport]
  refine (isPrefix_dropEndWhile_append fun c hc => ?_).map _
  rw [decide_eq_false_iff_not]
  rintro rfl
  exact hdot hc

end IsName

/-! ### Addresses -/

/-- Of a text with several colons nothing but the **dots at its end** is dropped. -/
theorem chars_of_colons (hbracket : (trim s).head? ≠ some '[') (hcolons : 2 ≤ (trim s).count ':') :
    ∃ kept n, trim s = kept ++ List.replicate n '.' ∧ kept.getLast? ≠ some '.' ∧
      chars s = kept.map Char.toLower := by
  obtain ⟨dots, htrim, hall⟩ := exists_eq_dropEndWhile_append (· = '.') (trim s)
  refine ⟨dropEndWhile (· = '.') (trim s), dots.length, ?_, fun hlast => ?_, ?_⟩
  · rwa [← List.eq_replicate_of_mem fun c hc => of_decide_eq_true (hall c hc)]
  · simpa using getLast?_dropEndWhile_not _ hlast
  · rw [chars, host_eq_self hbracket (by omega)]

/-- Of a text in brackets nothing but what is **behind the first one that closes** is dropped. -/
theorem chars_of_bracket (hbracket : (trim s).head? = some '[') (hclosed : ']' ∈ trim s) :
    ∃ inner rest, trim s = '[' :: inner ++ ']' :: rest ∧ ']' ∉ inner ∧
      chars s = ('[' :: inner ++ [']']).map Char.toLower := by
  obtain ⟨opened, hopened⟩ := List.head?_eq_some_iff.mp hbracket
  obtain ⟨inner, rest, hrest, hinner⟩ :
      ∃ inner rest, opened = inner ++ ']' :: rest ∧ ']' ∉ inner := by
    rw [hopened, List.mem_cons] at hclosed
    exact List.eq_append_cons_of_mem (hclosed.resolve_left (by decide))
  have htrim : trim s = '[' :: inner ++ ']' :: rest := by rw [hopened, hrest, List.cons_append]
  have hfront : ']' ∉ '[' :: inner := List.not_mem_cons_of_ne_of_not_mem (by decide) hinner
  have hhost : host (trim s) = '[' :: inner ++ [']'] := by
    rw [host_eq, if_pos hbracket, htrim, dropBehindBracket_append hfront]
  refine ⟨inner, rest, htrim, hinner, ?_⟩
  rw [chars, hhost, dropEndWhile_concat (by decide)]

/-! ### Spellings -/

/-- The **spellings** of a host: itself, or with a port or with dots behind it, in any case and
between any blanks. -/
inductive Spells (host : String) : String → Prop where
  | plain : Spells host host
  | port (p : String) (hp : ':' ∉ p.toList) : Spells host (host ++ ":" ++ p)
  | dots (n : Nat) : Spells host (host ++ String.ofList (List.replicate n '.'))
  | recased {s t : String} (hs : Spells host s) (hcase : lowerAscii t = lowerAscii s) :
      Spells host t
  | between {s : String} (hs : Spells host s) (before after : String)
      (hbefore : ∀ c ∈ before.toList, isBlank c = true)
      (hafter : ∀ c ∈ after.toList, isBlank c = true) : Spells host (before ++ s ++ after)

/-- Spellings that differ in case only have the same routing key. -/
theorem normalize_congr {s t : String} (h : lowerAscii t = lowerAscii s) :
    normalize t = normalize s := by
  have hlower : t.toList.map Char.toLower = s.toList.map Char.toLower := String.ofList_injective h
  rw [normalize, normalize, ← chars_map_toLower, hlower, chars_map_toLower]

/-- **All spellings of a name have its routing key.** -/
theorem Spells.normalize_eq {host s : String} (h : Spells host s) (hname : IsName host.toList) :
    normalize s = normalize host := by
  induction h with
  | plain => rfl
  | port p hp =>
    rw [normalize, String.toList_append, String.toList_append, List.append_assoc]
    exact congrArg String.ofList (hname.chars_port hp)
  | dots n =>
    rw [normalize, String.toList_append, String.toList_ofList]
    exact congrArg String.ofList hname.chars_dots
  | recased _ hcase ih => exact (normalize_congr hcase).trans ih
  | between _ before after hbefore hafter ih =>
    rw [← ih, normalize, String.toList_append, String.toList_append]
    exact congrArg String.ofList (chars_between hbefore hafter)

/-- **What does not matter to a routing key.** All spellings of a name have one key. Of a text with
several colons, which is not in brackets, only the blanks around it and the dots at its end are
dropped, and of one in brackets only the blanks around it and what is behind the first bracket that
closes; and upper case. -/
theorem normalize_spellings :
    (∀ host s : String, IsName host.toList → Spells host s → normalize s = normalize host) ∧
    (∀ s : String, 2 ≤ (trimBlank s).toList.count ':' → (trimBlank s).toList.head? ≠ some '[' →
      ∃ (kept : String) (n : Nat), trimBlank s = kept ++ String.ofList (List.replicate n '.') ∧
        kept.toList.getLast? ≠ some '.' ∧ normalize s = lowerAscii kept) ∧
    (∀ s : String, (trimBlank s).toList.head? = some '[' → ']' ∈ (trimBlank s).toList →
      ∃ inner rest : String, trimBlank s = "[" ++ inner ++ "]" ++ rest ∧ ']' ∉ inner.toList ∧
        normalize s = lowerAscii ("[" ++ inner ++ "]")) := by
  refine ⟨fun host s hname hs => hs.normalize_eq hname, fun s hcolons hbracket => ?_,
    fun s hbracket hclosed => ?_⟩
  · rw [trimBlank, String.toList_ofList] at hcolons hbracket
    obtain ⟨kept, n, htrim, hlast, hchars⟩ := chars_of_colons hbracket hcolons
    refine ⟨String.ofList kept, n, ?_, ?_, ?_⟩
    · rw [trimBlank, htrim, String.ofList_append]
    · rwa [String.toList_ofList]
    · rw [normalize, hchars, lowerAscii, String.toList_ofList]
  · rw [trimBlank, String.toList_ofList] at hbracket hclosed
    obtain ⟨inner, rest, htrim, hinner, hchars⟩ := chars_of_bracket hbracket hclosed
    refine ⟨String.ofList inner, String.ofList rest, ?_, ?_, ?_⟩
    · rw [trimBlank, htrim]
      simp [← String.toList_inj]
    · rwa [String.toList_ofList]
    · rw [normalize, hchars, lowerAscii]
      simp

/-- A name in upper case with a port between blanks, an address with dots behind it and one in
brackets with a port. -/
theorem normalize_spelled_out :
    IsName "play.example".toList ∧ Spells "play.example" "\tPLAY.Example:25565 " ∧
      normalize "\tPLAY.Example:25565 " = normalize "play.example" ∧
    (∃ (kept : String) (n : Nat), trimBlank " FD00::A.. " =
        kept ++ String.ofList (List.replicate n '.') ∧
      kept.toList.getLast? ≠ some '.' ∧ normalize " FD00::A.. " = lowerAscii kept) ∧
    (∃ inner rest : String, trimBlank "[FD00::A]:80" = "[" ++ inner ++ "]" ++ rest ∧
      ']' ∉ inner.toList ∧ normalize "[FD00::A]:80" = lowerAscii ("[" ++ inner ++ "]")) := by
  have hname : IsName "play.example".toList :=
    ⟨by decide +kernel, by decide +kernel, by decide +kernel⟩
  have hport : Spells "play.example" "PLAY.Example:25565" :=
    .recased (.port "25565" (by decide +kernel)) (by decide +kernel)
  have hspells : Spells "play.example" "\tPLAY.Example:25565 " :=
    hport.between "\t" " " (List.all_eq_true.mp (by decide +kernel))
      (List.all_eq_true.mp (by decide +kernel))
  exact ⟨hname, hspells, normalize_spellings.1 _ _ hname hspells,
    normalize_spellings.2.1 _ (by decide +kernel) (by decide +kernel),
    normalize_spellings.2.2 _ (by decide +kernel) (by decide +kernel)⟩

end Route.Key

end GameGateway
