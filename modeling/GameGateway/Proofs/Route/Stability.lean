import GameGateway.Proofs.Route.Spelling
import GameGateway.Route.Table

/-!
# Stable keys

A routing key is itself a spelling, and asking for a route by its key finds the route when the key
is **stable**, that is, when it is its own routing key. Blanks are taken from the ends of a spelling
before its port and its final dots are, and so one that stands in front of these is left at the end
of the key. It is the only thing that can be in the way: a key is stable exactly when it does not
end with a blank (`normalize_normalize_iff`). A route under a key that is not stable is never found
by its key, and what is asked for under the key is another one (`reaches_own_key_iff`).
-/

namespace GameGateway

open Text

namespace Route.Key

variable {s t u : List Char}

/-! ### The host of a host -/

/-- A text begins as its front does. -/
theorem head?_of_isPrefix {c : Char} (h : t <+: s) (hc : t.head? = some c) : s.head? = some c := by
  obtain ⟨rest, rfl⟩ := h
  rw [List.head?_append, hc]
  rfl

theorem host_isPrefix : host s <+: s := by
  rw [host_eq]
  split
  · by_cases hmem : ']' ∈ s
    · obtain ⟨front, rest, rfl, hfront⟩ := List.eq_append_cons_of_mem hmem
      rw [dropBehindBracket_append hfront]
      exact ⟨rest, by rw [List.append_assoc, List.singleton_append]⟩
    · rw [dropBehindBracket_eq, if_neg hmem]
  · rw [dropPort_eq]
    split
    · exact List.takeWhile_prefix _
    · exact List.prefix_rfl

theorem count_dropPort_ne : (dropPort s).count ':' ≠ 1 := by
  rw [dropPort_eq]
  split
  · rw [List.count_eq_zero.mpr fun hmem => by simpa using List.mem_takeWhile_imp hmem]
    exact Nat.zero_ne_one
  · assumption

/-- A text in brackets that are not closed is a host. -/
theorem host_of_open (hbracket : s.head? = some '[') (hopen : ']' ∉ s) : host s = s := by
  rw [host_eq, if_pos hbracket, dropBehindBracket_eq, if_neg hopen]

/-- The host of a text in brackets ends with the first one that closes. -/
theorem host_of_closed (hbracket : (s ++ ']' :: t).head? = some '[') (hopen : ']' ∉ s) :
    host (s ++ ']' :: t) = s ++ [']'] := by
  rw [host_eq, if_pos hbracket, dropBehindBracket_append hopen]

/-- **The host of a host is itself**, without the dots at its end, too. -/
theorem host_dropEndWhile_host :
    host (dropEndWhile (· = '.') (host s)) = dropEndWhile (· = '.') (host s) := by
  by_cases hbracket : s.head? = some '['
  · by_cases hmem : ']' ∈ s
    · obtain ⟨inner, rest, rfl, hopen⟩ := List.eq_append_cons_of_mem hmem
      have hbracket' : (inner ++ [']']).head? = some '[' := by
        rw [List.head?_append] at hbracket ⊢
        exact hbracket
      rw [host_of_closed hbracket hopen, dropEndWhile_concat (by decide),
        host_of_closed hbracket' hopen]
    · rw [host_of_open hbracket hmem]
      exact host_of_open (head?_dropEndWhile hbracket (by decide)) fun hclosed =>
        hmem (dropEndWhile_isPrefix.subset hclosed)
  · refine host_eq_self (fun hhead => hbracket ?_) ?_
    · exact head?_of_isPrefix (dropEndWhile_isPrefix.trans host_isPrefix) hhead
    · rw [count_dropEndWhile (by decide), host_eq, if_neg hbracket]
      exact count_dropPort_ne

/-! ### The key of a key -/

/-- A key does not begin with a blank. -/
theorem head?_chars_not : ∀ c ∈ (chars s).head?, isBlank c = false := by
  intro c hc
  rw [chars, List.head?_map, Option.mem_def, Option.map_eq_some_iff] at hc
  obtain ⟨d, hd, rfl⟩ := hc
  rw [isBlank_toLower]
  exact head?_trim_not d (head?_of_isPrefix (dropEndWhile_isPrefix.trans host_isPrefix) hd)

theorem length_chars_le : (chars s).length ≤ (trim s).length := by
  rw [chars, List.length_map]
  exact (dropEndWhile_isPrefix.trans host_isPrefix).length_le

/-- A key is its own key just when it is trimmed. -/
theorem chars_chars_iff : chars (chars s) = chars s ↔ trim (chars s) = chars s := by
  constructor
  · intro h
    refine trim_sublist.eq_of_length_le ?_
    conv_lhs => rw [← h]
    exact length_chars_le
  · intro h
    rw [chars, h, chars, host_map_toLower, host_dropEndWhile_host, dropEndWhile_map_toLower rfl,
      dropEndWhile_dropEndWhile, List.map_map, toLower_comp_toLower]

/-- **A key is stable exactly when it does not end with a blank.** -/
theorem normalize_normalize_iff {s : String} : normalize (normalize s) = normalize s ↔
    ∀ c ∈ (normalize s).toList.getLast?, isBlank c = false := by
  rw [normalize, normalize, String.toList_ofList, String.ofList_inj, chars_chars_iff,
    trim_eq_self_iff]
  exact and_iff_right head?_chars_not

end Route.Key

/-! ### Asking by key -/

namespace Route.Table

/-- A spelling **reaches** a route of a table when the route is found by it, led to any other
backend and removed. -/
structure Reaches (t : Table) (spelling : String) (r : Route) : Prop where
  found : t.lookup spelling = some r
  updated : t.contains spelling = true ∧ ∀ host port,
    (t.update spelling host port).get? r.key =
      some { r with backendHost := host, backendPort := port }
  removed : t.get? (t.keyOf spelling) = some r ∧ (t.remove spelling).get? r.key = none

variable {t : Table} {spelling : String} {r : Route}

/-- A spelling reaches the active route under its key. -/
theorem reaches_of_keyOf (hkey : t.keyOf spelling = r.key) (hr : t.get? r.key = some r)
    (hactive : r.active = true) : t.Reaches spelling r where
  found := by rw [lookup, hkey, hr, Option.filter_some_pos hactive]
  updated := by
    refine ⟨by rw [contains, hkey, hr]; rfl, fun host port => ?_⟩
    rw [get?_update, if_pos hkey, hr]
    rfl
  removed := by
    refine ⟨by rw [hkey, hr], ?_⟩
    rw [get?_remove, if_pos hkey]

/-- A spelling of another key does not reach a route. -/
theorem Reaches.keyOf_eq (h : t.Reaches spelling r) (hr : t.get? r.key = some r) :
    t.keyOf spelling = r.key := by
  by_contra hne
  have hkept := h.removed.2
  rw [get?_remove, if_neg hne, hr] at hkept
  cases hkept

/-- **Which routes are found by their keys.** A routing key is its own key exactly when it does not
end with a blank. Where routes have virtual hosts, the route that is added under a spelling is there
under the key of the spelling, and asking by this key reaches it exactly when the key is its own;
otherwise what is found by it is what was found before. -/
theorem reaches_own_key_iff (t : Table) (spelling owner host : String) (port : UInt16) :
    let key := Key.normalize spelling
    (Key.normalize key = key ↔ ∀ c ∈ key.toList.getLast?, isBlank c = false) ∧
    (t.virtualHosts = true →
      let t' := t.add owner spelling host port
      let r : Route := ⟨owner, key, host, port, true⟩
      t'.get? key = some r ∧ (t'.Reaches key r ↔ Key.normalize key = key) ∧
        (Key.normalize key ≠ key → t'.lookup key = t.lookup key)) := by
  intro key
  refine ⟨Key.normalize_normalize_iff, fun hvirtual => ?_⟩
  intro t' r
  have hkeyOf : ∀ s, t.keyOf s = Key.normalize s := fun s => by rw [keyOf, hvirtual, if_pos rfl]
  have hadded : t'.get? key = some r := by rw [get?_add, hkeyOf, if_pos rfl]
  refine ⟨hadded, ⟨fun h => ?_, fun h => ?_⟩, fun hne => ?_⟩
  · exact (hkeyOf key).symm.trans (h.keyOf_eq hadded)
  · exact reaches_of_keyOf ((hkeyOf key).trans h) hadded rfl
  · change (t'.get? (t.keyOf key)).filter Route.active = (t.get? (t.keyOf key)).filter Route.active
    rw [get?_add, hkeyOf, hkeyOf, if_neg fun h => hne h.symm]

/-- A route under a stable key is reached by the key. -/
theorem reaches_own_key_of_dots :
    let t' := (empty true).add "srv_a" " Play.Example.:25565 " "172.18.0.2" 25565
    Key.normalize " Play.Example.:25565 " = "play.example" ∧
      t'.Reaches "play.example" ⟨"srv_a", "play.example", "172.18.0.2", 25565, true⟩ := by
  intro t'
  have hkey : Key.normalize " Play.Example.:25565 " = "play.example" := by decide +kernel
  have h := (reaches_own_key_iff (empty true) " Play.Example.:25565 " "srv_a" "172.18.0.2" 25565).2
    rfl
  rw [hkey] at h
  exact ⟨hkey, h.2.1.mpr (by decide +kernel)⟩

/-- A blank in front of the port stays at the end of the key, which is then no key of its own: the
route is there, and is not found by it. -/
theorem not_reaches_own_key_of_blank :
    let spelling := "play.example :25565"
    let t' := (empty true).add "srv_a" spelling "172.18.0.2" 25565
    let r : Route := ⟨"srv_a", "play.example ", "172.18.0.2", 25565, true⟩
    Key.normalize spelling = "play.example " ∧
      Key.normalize (Key.normalize spelling) ≠ Key.normalize spelling ∧
      t'.get? "play.example " = some r ∧ t'.lookup "play.example " = none ∧
      t'.contains "play.example " = false ∧ ¬t'.Reaches "play.example " r := by
  intro spelling t' r
  have hnone : t'.lookup "play.example " = none := by decide +kernel
  refine ⟨by decide +kernel, by decide +kernel, by decide +kernel, hnone, by decide +kernel, ?_⟩
  intro h
  rw [h.found] at hnone
  cases hnone

end Route.Table

end GameGateway
