import GameGateway.Hostname
import GameGateway.Proofs.Route.Spelling
import Mathlib.Data.List.Chain

/-!
# Slugs and the runs of a name

The **runs** of a name are its longest pieces that are letters and digits throughout; whatever lies
around them, the name has these runs and no others (`hasRuns_runs`, `HasRuns.eq`). A slug is read
off a name one character after another, and comes to the runs in lower case, joined by hyphens
(`HasRuns.kept_eq`).

So a slug is made of words with one hyphen between any two (`isSlug_chars`), and from this shape
alone it follows that it is its own slug and its own routing key (`IsSlug.chars_eq_self`,
`IsSlug.key_eq_self`). Names with the same words have the same slug (`slug_joins_words`).
-/

namespace GameGateway

namespace Slug

/-! ### Runs -/

/-- The **runs** of a name: what is left of it between the characters that a slug does not keep. -/
def runs (name : List Char) : List (List Char) :=
  (name.splitOnP fun c => !keeps c).filter fun run => !run.isEmpty

/-- A name **has** runs when it consists of them and of characters that a slug does not keep, with
at least one of these behind each run but the last. -/
inductive HasRuns : List Char → List (List Char) → Prop where
  | nil : HasRuns [] []
  | gap {c : Char} {s : List Char} {rs : List (List Char)} (hc : keeps c = false)
      (hs : HasRuns s rs) : HasRuns (c :: s) rs
  | run {run s : List Char} {rs : List (List Char)} (hne : run ≠ [])
      (hrun : ∀ c ∈ run, keeps c = true) (hend : ∀ c ∈ s.head?, keeps c = false)
      (hs : HasRuns s rs) : HasRuns (run ++ s) (run :: rs)

variable {c : Char} {s run word : List Char} {rs : List (List Char)}

/-- A character that a slug does not keep is in no run. -/
theorem runs_cons (hc : keeps c = false) : runs (c :: s) = runs s := by
  have hsep : (!keeps c) = true := by rw [hc]; rfl
  rw [runs, List.splitOnP_cons_eq_if_modifyHead, if_pos hsep, List.filter_cons_of_neg (by simp),
    runs]

/-- What comes before such a character, or before the end, is a run as a whole. -/
theorem runs_append (hne : run ≠ []) (hrun : ∀ c ∈ run, keeps c = true)
    (hend : ∀ c ∈ s.head?, keeps c = false) : runs (run ++ s) = run :: runs s := by
  have hkept : ∀ c ∈ run, (!keeps c) = false := fun c hc => by rw [hrun c hc]; rfl
  cases s with
  | nil =>
    rw [List.append_nil, runs, List.splitOnP_eq_singleton hkept]
    simp [hne, runs]
  | cons d rest =>
    have hd : keeps d = false := hend d rfl
    rw [runs_cons hd, runs, List.splitOnP_append_cons_of_forall_mem hkept d (by rw [hd]; rfl)]
    simp [hne, runs]

/-- A name has **no other runs** than these. -/
theorem HasRuns.eq (h : HasRuns s rs) : runs s = rs := by
  induction h with
  | nil => rfl
  | gap hc _ ih => rw [runs_cons hc, ih]
  | run hne hrun hend _ ih => rw [runs_append hne hrun hend, ih]

/-- Every name has runs: they are found from the left, one character or one run at a time. -/
theorem exists_hasRuns (s : List Char) : ∃ rs, HasRuns s rs := by
  induction s with
  | nil => exact ⟨[], .nil⟩
  | cons c s ih =>
    obtain ⟨rs, hs⟩ := ih
    cases hc : keeps c with
    | false => exact ⟨rs, .gap hc hs⟩
    | true =>
      have hsingle : ∀ d ∈ [c], keeps d = true := by simpa using hc
      -- the character is a run of its own, or the first one of the run that follows it
      cases hs with
      | nil => exact ⟨[[c]], .run (List.cons_ne_nil c []) hsingle nofun .nil⟩
      | @gap d rest _ hd hrest =>
        refine ⟨[c] :: rs, .run (List.cons_ne_nil c []) hsingle (fun e he => ?_) (.gap hd hrest)⟩
        exact Option.some.inj he ▸ hd
      | @run run rest rs hne hrun hend hrest =>
        have hlonger : ∀ d ∈ c :: run, keeps d = true := List.forall_mem_cons.mpr ⟨hc, hrun⟩
        exact ⟨(c :: run) :: rs, .run (List.cons_ne_nil c run) hlonger hend hrest⟩

/-- **Every name has its runs.** -/
theorem hasRuns_runs (s : List Char) : HasRuns s (runs s) := by
  obtain ⟨rs, hs⟩ := exists_hasRuns s
  rwa [hs.eq]

/-! ### Characters that are kept -/

/-- Lower case changes nothing about which characters a slug keeps. -/
@[simp]
theorem keeps_toLower : keeps c.toLower = keeps c := by
  cases h : c.isAlpha with
  | true =>
    rw [keeps, keeps, Char.isAlphanum, Char.isAlphanum, Text.isAlpha_toLower, h, Bool.true_or,
      Bool.true_or]
  | false => rw [Text.toLower_eq_self h]

/-- Since no blank is kept, a slug has none to be trimmed. -/
theorem isBlank_of_keeps (hc : keeps c = true) : Text.isBlank c = false := by
  rw [keeps, Char.isAlphanum, Bool.or_eq_true] at hc
  exact hc.elim Text.isBlank_of_isAlpha Text.isBlank_of_isDigit

/-- What is kept and in lower case is a small letter or a digit. -/
theorem isLower_or_isDigit_of_keeps (hc : keeps c = true) (hlower : c.toLower = c) :
    c.isLower = true ∨ c.isDigit = true := by
  rw [keeps, Char.isAlphanum, Bool.or_eq_true] at hc
  exact hc.imp_left fun hletter => hlower ▸ Text.isLower_toLower hletter

/-- The runs of a name in lower case are its runs, in lower case. -/
theorem HasRuns.map_toLower (h : HasRuns s rs) :
    HasRuns (s.map Char.toLower) (rs.map fun run => run.map Char.toLower) := by
  induction h with
  | nil => exact .nil
  | gap hc _ ih => exact .gap (by rwa [keeps_toLower]) ih
  | @run run s rs hne hrun hend _ ih =>
    rw [List.map_append]
    refine .run (by simpa using hne) (fun c hc => ?_) (fun c hc => ?_) ih
    · obtain ⟨d, hd, rfl⟩ := List.mem_map.mp hc
      rw [keeps_toLower, hrun d hd]
    · rw [List.head?_map] at hc
      obtain ⟨d, hd, rfl⟩ := Option.map_eq_some_iff.mp hc
      rw [keeps_toLower, hend d hd]

/-! ### What is kept of a name -/

/-- Of a run all is kept, in lower case. -/
theorem tail_append (hrun : ∀ c ∈ run, keeps c = true) :
    tail false (run ++ s) = run.map Char.toLower ++ tail false s := by
  induction run with
  | nil => rfl
  | cons c run ih =>
    rw [List.forall_mem_cons] at hrun
    simp [tail, hrun.1, ih hrun.2]

/-- Behind a gap there is a hyphen in front of a run. -/
theorem tail_true_append (hne : run ≠ []) (hrun : ∀ c ∈ run, keeps c = true) :
    tail true (run ++ s) = '-' :: run.map Char.toLower ++ tail false s := by
  cases run with
  | nil => exact absurd rfl hne
  | cons c run =>
    rw [List.forall_mem_cons] at hrun
    simp [tail, hrun.1, tail_append hrun.2]

/-- Where a run has ended there is a gap before the next one. -/
theorem tail_of_head (hend : ∀ c ∈ s.head?, keeps c = false) : tail false s = tail true s := by
  cases s with
  | nil => rfl
  | cons c s => simp [tail, hend c rfl]

/-- Behind the first run, each further one comes with a hyphen in front. -/
theorem HasRuns.tail_eq (h : HasRuns s rs) :
    tail true s = rs.flatMap fun run => '-' :: run.map Char.toLower := by
  induction h with
  | nil => rfl
  | gap hc _ ih => simp [tail, hc, ih]
  | run hne hrun hend _ ih =>
    rw [tail_true_append hne hrun, tail_of_head hend, ih, List.flatMap_cons]

theorem intercalate_cons (run : List Char) (rs : List (List Char)) :
    ['-'].intercalate (run :: rs) = run ++ rs.flatMap fun run => '-' :: run := by
  induction rs generalizing run with
  | nil => simp
  | cons next rs ih => simp [List.intercalate_cons_cons, ih]

/-- **What is kept of a name** are its runs in lower case, joined by hyphens. -/
theorem HasRuns.kept_eq (h : HasRuns s rs) :
    kept s = ['-'].intercalate (rs.map fun run => run.map Char.toLower) := by
  induction h with
  | nil => rfl
  | gap hc _ ih =>
    rw [← ih]
    simp [kept, hc]
  | @run run s rs hne hrun hend hs _ =>
    have hstart : (run ++ s).dropWhile (fun c => !keeps c) = run ++ s := by
      refine Text.dropWhile_eq_self fun c hc => ?_
      rw [List.head?_append_of_ne_nil run hne] at hc
      rw [hrun c (List.mem_of_mem_head? hc)]
      rfl
    rw [kept, hstart, tail_append hrun, tail_of_head hend, hs.tail_eq, List.map_cons,
      intercalate_cons, List.flatMap_map]

/-! ### The shape of a slug -/

/-- A **word** of a slug: letters in lower case and digits. -/
structure IsWord (word : List Char) : Prop where
  ne_nil : word ≠ []
  keeps : ∀ c ∈ word, keeps c = true
  lower : ∀ c ∈ word, c.toLower = c

/-- A text that **is a slug**: words that are joined by hyphens. -/
inductive IsSlug : List Char → Prop where
  | word {word : List Char} (hword : IsWord word) : IsSlug word
  | hyphen {word s : List Char} (hword : IsWord word) (hs : IsSlug s) : IsSlug (word ++ '-' :: s)

theorem IsWord.hyphen_notMem (h : IsWord word) : '-' ∉ word := by
  intro hmem
  cases h.keeps '-' hmem

theorem IsWord.map_toLower (h : IsWord word) : word.map Char.toLower = word :=
  (List.map_congr_left h.lower).trans (List.map_id word)

/-- Within a word there are no two hyphens side by side. -/
theorem IsWord.isChain (h : IsWord word) :
    List.IsChain (fun c d => ¬(c = '-' ∧ d = '-')) word := by
  refine (List.pairwise_of_forall_mem_list fun c hc d _ => ?_).isChain
  rintro ⟨rfl, -⟩
  exact h.hyphen_notMem hc

/-- A run in lower case is a word. -/
theorem isWord_map_toLower (hne : run ≠ []) (hrun : ∀ c ∈ run, keeps c = true) :
    IsWord (run.map Char.toLower) := by
  refine ⟨by simpa using hne, fun c hc => ?_, fun c hc => ?_⟩
  · obtain ⟨d, hd, rfl⟩ := List.mem_map.mp hc
    rw [keeps_toLower, hrun d hd]
  · obtain ⟨d, -, rfl⟩ := List.mem_map.mp hc
    exact Text.toLower_toLower

/-- Runs in lower case are words. -/
theorem HasRuns.isWord (h : HasRuns s rs) : ∀ run ∈ rs, IsWord (run.map Char.toLower) := by
  induction h with
  | nil => simp
  | gap _ _ ih => exact ih
  | run hne hrun _ _ ih => exact List.forall_mem_cons.mpr ⟨isWord_map_toLower hne hrun, ih⟩

/-- **Words that are joined by hyphens are a slug**, if there are any. -/
theorem isSlug_intercalate (hne : rs ≠ []) (hwords : ∀ word ∈ rs, IsWord word) :
    IsSlug (['-'].intercalate rs) := by
  induction rs with
  | nil => exact absurd rfl hne
  | cons word rs ih =>
    rw [List.forall_mem_cons] at hwords
    cases rs with
    | nil => simpa using IsSlug.word hwords.1
    | cons next rs =>
      rw [List.intercalate_cons_cons, List.append_assoc]
      exact .hyphen hwords.1 (ih (List.cons_ne_nil next rs) hwords.2)

namespace IsSlug

variable (h : IsSlug s)
include h

theorem ne_nil : s ≠ [] := by
  cases h with
  | word hword => exact hword.ne_nil
  | hyphen hword _ => simp [hword.ne_nil]

/-- What a slug is made of: letters in lower case, digits and hyphens. -/
theorem of_mem (hc : c ∈ s) : keeps c = true ∧ c.toLower = c ∨ c = '-' := by
  induction h with
  | word hword => exact .inl ⟨hword.keeps c hc, hword.lower c hc⟩
  | hyphen hword _ ih =>
    rw [List.mem_append, List.mem_cons] at hc
    rcases hc with hc | rfl | hc
    · exact .inl ⟨hword.keeps c hc, hword.lower c hc⟩
    · exact .inr rfl
    · exact ih hc

/-- A slug begins with a letter or a digit. -/
theorem keeps_head (hc : c ∈ s.head?) : keeps c = true := by
  cases h with
  | word hword => exact hword.keeps c (List.mem_of_mem_head? hc)
  | hyphen hword _ =>
    rw [List.head?_append_of_ne_nil _ hword.ne_nil] at hc
    exact hword.keeps c (List.mem_of_mem_head? hc)

/-- A slug ends with a letter or a digit. -/
theorem keeps_getLast (hc : c ∈ s.getLast?) : keeps c = true := by
  induction h with
  | word hword => exact hword.keeps c (List.mem_of_getLast? hc)
  | @hyphen word s _ hs ih =>
    obtain ⟨d, rest, rfl⟩ := List.exists_cons_of_ne_nil hs.ne_nil
    refine ih ?_
    simpa using hc

/-- Of two characters side by side one is **no hyphen**. -/
theorem isChain : List.IsChain (fun c d => ¬(c = '-' ∧ d = '-')) s := by
  induction h with
  | word hword => exact hword.isChain
  | hyphen hword hs ih =>
    rw [List.isChain_append, List.isChain_cons]
    refine ⟨hword.isChain, ⟨?_, ih⟩, ?_⟩
    · rintro c hc ⟨-, rfl⟩
      cases hs.keeps_head hc
    · rintro c hc d - ⟨rfl, -⟩
      exact hword.hyphen_notMem (List.mem_of_getLast? hc)

/-- A slug has its words for runs. -/
theorem exists_words : ∃ words, HasRuns s words ∧
    words.map (fun word => word.map Char.toLower) = words ∧ ['-'].intercalate words = s := by
  induction h with
  | @word word hword =>
    refine ⟨[word], ?_, by simp [hword.map_toLower], by simp⟩
    simpa using HasRuns.run hword.ne_nil hword.keeps (by simp) .nil
  | @hyphen word s hword hs ih =>
    obtain ⟨words, hruns, hwords, rfl⟩ := ih
    have hne : words ≠ [] := by
      rintro rfl
      exact hs.ne_nil rfl
    have hend : ∀ c ∈ ('-' :: ['-'].intercalate words).head?, keeps c = false := by
      intro c hc
      obtain rfl := Option.some.inj hc
      rfl
    refine ⟨word :: words, .run hword.ne_nil hword.keeps hend (.gap rfl hruns), ?_, ?_⟩
    · rw [List.map_cons, hword.map_toLower, hwords]
    · rw [List.intercalate_cons_of_ne_nil hne, List.append_assoc, List.singleton_append]

/-- A slug has neither blanks nor marks at its ends, and no colon. -/
theorem isName : Route.Key.IsName s where
  trimmed := Text.trim_eq_self (fun _ hc => isBlank_of_keeps (h.keeps_head hc))
    fun _ hc => isBlank_of_keeps (h.keeps_getLast hc)
  colon hc := by
    rcases h.of_mem hc with ⟨hkeeps, -⟩ | hhyphen
    · cases hkeeps
    · cases hhyphen
  bracket hc := by cases h.keeps_head hc

/-- **A slug is its own routing key.** -/
theorem key_eq_self : Route.Key.chars s = s := by
  have hdots : Text.dropEndWhile (· = '.') s = s := by
    refine Text.dropEndWhile_eq_self fun c hc => decide_eq_false ?_
    rintro rfl
    cases h.keeps_getLast hc
  have hlower : ∀ c ∈ s, c.toLower = id c := by
    intro c hc
    rcases h.of_mem hc with ⟨-, hlower⟩ | rfl
    · exact hlower
    · rfl
  rw [Route.Key.chars, h.isName.trimmed, h.isName.host_eq, hdots, List.map_congr_left hlower,
    List.map_id]

end IsSlug

/-! ### Slugs of names -/

/-- A name of which nothing is kept gets the slug of any server. -/
theorem chars_eq (name : List Char) :
    chars name = if kept name = [] then "server".toList else kept name := by
  rw [chars]
  cases kept name with
  | nil => rfl
  | cons c s => rfl

/-- What is kept of a name that has runs is a slug. -/
theorem HasRuns.isSlug_kept (h : HasRuns s rs) (hne : rs ≠ []) : IsSlug (kept s) := by
  rw [h.kept_eq]
  refine isSlug_intercalate (by simpa using hne) fun word hword => ?_
  obtain ⟨run, hrun, rfl⟩ := List.mem_map.mp hword
  exact h.isWord run hrun

/-- Nothing is kept of a name just when it has no runs. -/
theorem HasRuns.kept_eq_nil_iff (h : HasRuns s rs) : kept s = [] ↔ rs = [] := by
  constructor
  · intro hkept
    by_contra hne
    exact (h.isSlug_kept hne).ne_nil hkept
  · rintro rfl
    exact h.kept_eq

/-- **The slug of a name** is a slug. -/
theorem isSlug_chars (name : List Char) : IsSlug (chars name) := by
  have hruns := hasRuns_runs name
  rw [chars_eq]
  by_cases hkept : kept name = []
  · have hserver : IsWord ['s', 'e', 'r', 'v', 'e', 'r'] :=
      ⟨by decide, List.all_eq_true.mp rfl, by simp⟩
    rw [if_pos hkept]
    exact .word hserver
  · rw [if_neg hkept]
    exact hruns.isSlug_kept (mt hruns.kept_eq_nil_iff.mpr hkept)

/-- **A slug is its own slug.** -/
theorem IsSlug.chars_eq_self (h : IsSlug s) : chars s = s := by
  obtain ⟨words, hruns, hlower, hwords⟩ := h.exists_words
  have hkept : kept s = s := by rw [hruns.kept_eq, hlower, hwords]
  rw [chars_eq, hkept, if_neg h.ne_nil]

/-! ### Words of a name -/

/-- The **words of a name**: its runs, in lower case. -/
def words (name : String) : List String :=
  (runs name.toList).map fun run => lowerAscii (String.ofList run)

theorem map_toList_words (name : String) :
    (words name).map String.toList =
      (runs name.toList).map fun run => run.map Char.toLower := by
  rw [words, List.map_map]
  refine List.map_congr_left fun run _ => ?_
  rw [Function.comp_apply, lowerAscii, String.toList_ofList, String.toList_ofList]

/-- The slug of a name, told by its words alone. -/
theorem slug_eq (name : String) :
    slug name = if words name = [] then "server" else "-".intercalate (words name) := by
  have hruns := hasRuns_runs name.toList
  have hnone : words name = [] ↔ kept name.toList = [] := by
    rw [hruns.kept_eq_nil_iff, words, List.map_eq_nil_iff]
  rw [slug, chars_eq]
  by_cases hkept : kept name.toList = []
  · rw [if_pos hkept, if_pos (hnone.mpr hkept), String.ofList_toList]
  · rw [if_neg hkept, if_neg (mt hnone.mp hkept), ← String.toList_inj, String.toList_ofList,
      String.toList_intercalate, map_toList_words, hruns.kept_eq]
    rfl

/-- Case does not matter to the words of a name. -/
theorem words_lowerAscii (name : String) : words (lowerAscii name) = words name := by
  have hruns := hasRuns_runs name.toList
  have hinj : Function.Injective (List.map String.toList) :=
    List.map_injective_iff.mpr fun _ _ => String.toList_inj.mp
  refine hinj ?_
  rw [map_toList_words, map_toList_words, lowerAscii, String.toList_ofList, hruns.map_toLower.eq,
    List.map_map]
  refine List.map_congr_left fun run _ => ?_
  rw [Function.comp_apply, List.map_map, Text.toLower_comp_toLower]

/-- **A slug joins the words of a name** by hyphens, or is `server` if there are none. It has small
letters, digits and hyphens in it, the first and the last character are not hyphens, no two hyphens
stand side by side, and it is its own slug and its own routing key. Names that differ in case only,
or in what stands around the same words, have the same one. -/
theorem slug_joins_words (name : String) :
    slug name = (if words name = [] then "server" else "-".intercalate (words name)) ∧
    slug name ≠ "" ∧
    (∀ c ∈ (slug name).toList, c.isLower = true ∨ c.isDigit = true ∨ c = '-') ∧
    (slug name).toList.head? ≠ some '-' ∧ (slug name).toList.getLast? ≠ some '-' ∧
    ¬['-', '-'] <:+: (slug name).toList ∧
    slug (slug name) = slug name ∧ Route.Key.normalize (slug name) = slug name ∧
    ∀ other, lowerAscii name = lowerAscii other ∨ words name = words other →
      slug name = slug other := by
  have hslug : IsSlug (slug name).toList := by
    rw [slug, String.toList_ofList]
    exact isSlug_chars name.toList
  refine ⟨slug_eq name, fun hempty => ?_, fun c hc => ?_, fun hhead => ?_, fun hlast => ?_,
    fun hinfix => ?_, ?_, ?_, fun other halike => ?_⟩
  · exact hslug.ne_nil (by rw [hempty]; rfl)
  · rcases hslug.of_mem hc with ⟨hkeeps, hlower⟩ | hhyphen
    · exact (isLower_or_isDigit_of_keeps hkeeps hlower).imp_right .inl
    · exact .inr (.inr hhyphen)
  · cases hslug.keeps_head hhead
  · cases hslug.keeps_getLast hlast
  · simpa using hslug.isChain.infix hinfix
  · rw [slug, hslug.chars_eq_self, String.ofList_toList]
  · rw [Route.Key.normalize, hslug.key_eq_self, String.ofList_toList]
  · have hwords : words name = words other := by
      rcases halike with hcase | hwords
      · rw [← words_lowerAscii, hcase, words_lowerAscii]
      · exact hwords
    rw [slug_eq, slug_eq, hwords]

/-- A name with gaps at both ends and a letter that is not ASCII, and another one of its words. -/
theorem slug_joins_words_of_spellings :
    let name := " --Über__2024!! "
    words name = ["ber", "2024"] ∧ words name = words "BER-2024" ∧
      slug name = "ber-2024" ∧ slug name = slug "BER-2024" ∧ '2' ∈ (slug name).toList ∧
      ('2'.isLower = true ∨ '2'.isDigit = true ∨ '2' = '-') := by
  intro name
  have hwords : words name = ["ber", "2024"] := by decide +kernel
  have halike : words name = words "BER-2024" := by decide +kernel
  have hmem : '2' ∈ (slug name).toList := by decide +kernel
  obtain ⟨hslug, -, hchars, -, -, -, -, -, hsame⟩ := slug_joins_words name
  rw [hwords] at hslug
  exact ⟨hwords, halike, hslug, hsame _ (.inr halike), hmem, hchars '2' hmem⟩

end Slug

end GameGateway
