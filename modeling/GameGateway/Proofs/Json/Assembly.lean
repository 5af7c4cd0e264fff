import GameGateway.Json.Reader
import GameGateway.Proofs.Json.Tokens

/-!
# Assembling printed values

The tokens of a value are assembled into its draft (`Value.foldl_tokens`), so a reader sees the
draft of the value in the value's text (`ofText_pretty`).
-/

namespace GameGateway.Json

namespace Value

mutual

/-- The **draft** of a value, which is all of it. -/
def draft : Value → Draft
  | .null => .null
  | .bool b => .bool b
  | .integer n => .number (.ofInt n)
  | .string text => .string (some text)
  | .array items => .array (itemDrafts items) true
  | .object members => .object (memberDrafts members) true

/-- The drafts of items. -/
def itemDrafts : List Value → List Draft
  | [] => []
  | v :: rest => v.draft :: itemDrafts rest

/-- The drafts of members. -/
def memberDrafts : List (String × Value) → List (Option String × Draft)
  | [] => []
  | (key, v) :: rest => (some key, v.draft) :: memberDrafts rest

end

theorem itemDrafts_eq (vs : List Value) : itemDrafts vs = vs.map draft := by
  induction vs with
  | nil => rw [itemDrafts, List.map_nil]
  | cons v vs ih => rw [itemDrafts, ih, List.map_cons]

theorem memberDrafts_eq (ms : List (String × Value)) :
    memberDrafts ms = ms.map fun m => (some m.1, m.2.draft) := by
  induction ms with
  | nil => rw [memberDrafts, List.map_nil]
  | cons m ms ih => rw [memberDrafts, ih, List.map_cons]

open Assembly

/-- The first item of an array is taken like the others: a value does not begin with the end of an
array. -/
theorem foldl_tokens_firstItem (v : Value) (stack : List Frame) :
    v.tokens.foldl take (.within .firstItem (.array [] :: stack)) =
      v.tokens.foldl take (.within .value (.array [] :: stack)) := by
  cases v with
  | array items => cases items <;> rw [tokens] <;> rfl
  | object members => cases members <;> rw [tokens] <;> rfl
  | _ => rw [tokens]; rfl

mutual

/-- **The tokens of a value are assembled into its draft.** -/
theorem foldl_tokens (v : Value) (stack : List Frame) :
    v.tokens.foldl take (.within .value stack) = deliver v.draft stack := by
  match v with
  | .null | .bool _ | .integer _ | .string _ =>
    rw [tokens, draft]
    rfl
  | .array [] | .object [] =>
    simp only [tokens, draft, itemDrafts, memberDrafts]
    rfl
  | .array (v :: rest) =>
    have hopen : take (.within .value stack) .openArray = .within .firstItem (.array [] :: stack) :=
      rfl
    have hclose (items : List Draft) :
        take (.within .afterValue (.array items :: stack)) .closeArray =
          deliver (.array items.reverse true) stack := rfl
    simp only [tokens, List.cons_append, List.foldl_cons, List.foldl_append, List.foldl_nil]
    rw [hopen, foldl_tokens_firstItem, v.foldl_tokens, deliver, foldl_itemTokens, hclose]
    simp [draft, itemDrafts]
  | .object ((key, v) :: rest) =>
    have hopen : take (take (take (.within .value stack) .openObject) (.string (some key))) .colon =
        .within .value (.member [] (some key) :: stack) := rfl
    have hclose (members : List (Option String × Draft)) :
        take (.within .afterValue (.object members :: stack)) .closeObject =
          deliver (.object members.reverse true) stack := rfl
    simp only [tokens, List.cons_append, List.foldl_cons, List.foldl_append, List.foldl_nil]
    rw [hopen, v.foldl_tokens, deliver, foldl_memberTokens, hclose]
    simp [draft, memberDrafts]

theorem foldl_itemTokens (vs : List Value) (items : List Draft) (stack : List Frame) :
    (itemTokens vs).foldl take (.within .afterValue (.array items :: stack)) =
      .within .afterValue (.array ((itemDrafts vs).reverse ++ items) :: stack) := by
  match vs with
  | [] =>
    rw [itemTokens, itemDrafts]
    rfl
  | v :: rest =>
    have hcomma : take (.within .afterValue (.array items :: stack)) .comma =
        .within .value (.array items :: stack) := rfl
    simp only [itemTokens, List.cons_append, List.foldl_cons, List.foldl_append]
    rw [hcomma, v.foldl_tokens, deliver, foldl_itemTokens]
    simp [itemDrafts]

theorem foldl_memberTokens (ms : List (String × Value)) (members : List (Option String × Draft))
    (stack : List Frame) :
    (memberTokens ms).foldl take (.within .afterValue (.object members :: stack)) =
      .within .afterValue (.object ((memberDrafts ms).reverse ++ members) :: stack) := by
  match ms with
  | [] =>
    rw [memberTokens, memberDrafts]
    rfl
  | (key, v) :: rest =>
    have hkey : take (take (take (.within .afterValue (.object members :: stack)) .comma)
        (.string (some key))) .colon = .within .value (.member members (some key) :: stack) := rfl
    simp only [memberTokens, List.cons_append, List.foldl_cons, List.foldl_append]
    rw [hkey, v.foldl_tokens, deliver, foldl_memberTokens]
    simp [memberDrafts]

end

end Value

/-! ### Texts -/

theorem ofText_eq_of_tokens {text : String} {v : Value} (h : tokens text.toList = v.tokens) :
    Document.ofText text = ⟨v.draft, true⟩ := by
  rw [Document.ofText, h, v.foldl_tokens]
  rfl

theorem ofText_of_tokens {α : Type} {text : String} {v : Value} (h : tokens text.toList = v.tokens)
    (read : Reader α) : ofText read text = read { depth := maxDepth } v.draft := by
  rw [ofText, ofText_eq_of_tokens h]
  cases read { depth := maxDepth } v.draft <;> rfl

/-- **A reader sees the draft of a value in its text.** -/
theorem ofText_pretty {α : Type} (read : Reader α) (v : Value) :
    ofText read v.pretty = read { depth := maxDepth } v.draft :=
  ofText_of_tokens (tokens_pretty v) read

/-- **A reader sees the draft of a value in its compact text.** -/
theorem ofText_compact {α : Type} (read : Reader α) (v : Value) :
    ofText read v.compact = read { depth := maxDepth } v.draft :=
  ofText_of_tokens (tokens_compact v) read

end GameGateway.Json
