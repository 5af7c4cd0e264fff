import GameGateway.Proofs.Http.Upgrade
import GameGateway.Proofs.Net.AddressText

/-!
# The chain of peers

A request tells in its `x-forwarded-for` which peers it has come through; every gateway adds its
own. What is added goes behind the items of the *first* line, and the two become the only line
(`values_appendForwardedFor`). So the peers of any number of gateways stand in order behind the
items of the first line, and the whole chain of a request is kept exactly when it has no second line
(`chain_kept_iff`).
-/

namespace GameGateway.Http

open Wire (Byte)

/-! ### Texts of values -/

section Values

variable {s t text item : String} {v w : List Byte}

/-- Bytes of texts that stand behind one another do so, too. -/
theorem asciiBytes_append : asciiBytes (s ++ t) = asciiBytes s ++ asciiBytes t := by
  rw [asciiBytes, String.toList_append, List.map_append]
  rfl

theorem asciiByte_ofNat (b : Byte) : asciiByte (Char.ofNat b.toNat) = b := by
  have hvalid : b.toNat.isValidChar := .inl (Nat.lt_trans b.toNat_lt (by decide))
  have hval : (Char.ofNat b.toNat).toNat = b.toNat := by
    rw [Char.ofNat, dif_pos hvalid]
    rfl
  rw [asciiByte, hval, UInt8.ofNat_toNat]

/-- A value is the bytes of its text, printable or not. -/
theorem asciiBytes_asciiText (v : List Byte) : asciiBytes (asciiText v) = v := by
  rw [asciiBytes, asciiText, String.toList_ofList, List.map_map]
  exact (List.map_congr_left fun b _ => asciiByte_ofNat b).trans (List.map_id v)

theorem Field.asciiBytes_of_text? (h : Field.text? v = some s) : asciiBytes s = v := by
  rw [← (Field.text?_eq_some_iff.mp h).2, asciiBytes_asciiText]

/-- Printable values behind one another are their texts behind one another. -/
theorem Field.text?_append (hs : Field.text? v = some s) (ht : Field.text? w = some t) :
    Field.text? (v ++ w) = some (s ++ t) := by
  obtain ⟨hv, rfl⟩ := Field.text?_eq_some_iff.mp hs
  obtain ⟨hw, rfl⟩ := Field.text?_eq_some_iff.mp ht
  refine Field.text?_eq_some_iff.mpr ⟨?_, ?_⟩
  · rw [List.all_append, hv, hw, Bool.and_self]
  · rw [asciiText, List.map_append, String.ofList_append]
    rfl

/-- A character that may stand in the text of a value. -/
def isTextChar (c : Char) : Bool :=
  Field.isTextByte (asciiByte c) && Char.ofNat (asciiByte c).toNat = c

/-- What is made of printable characters is read as it was written. -/
theorem Field.text?_asciiBytes (h : ∀ c ∈ text.toList, isTextChar c = true) :
    Field.text? (asciiBytes text) = some text := by
  simp only [isTextChar, Bool.and_eq_true, decide_eq_true_eq] at h
  have hback : (text.toList.map asciiByte).map (fun b => Char.ofNat b.toNat) = text.toList := by
    rw [List.map_map]
    exact (List.map_congr_left fun c hc => (h c hc).2).trans (List.map_id _)
  refine Field.text?_eq_some_iff.mpr ⟨?_, ?_⟩
  · rw [asciiBytes, List.all_map, List.all_eq_true]
    exact fun c hc => (h c hc).1
  · rw [asciiText, asciiBytes, hback, String.ofList_toList]

/-- The text of an address is printable. -/
theorem text?_asciiBytes_toString (address : IpAddress) :
    Field.text? (asciiBytes (toString address)) = some (toString address) :=
  Field.text?_asciiBytes fun _ => address.plain_toString.of_all (by decide)

/-! ### Lists -/

theorem listItems_ne_nil (text : String) : listItems text ≠ [] := by
  rw [listItems_eq]
  simp [List.splitOn_ne_nil]

/-- A trimmed text without a comma is one item. -/
theorem listItems_singleton (hcomma : ',' ∉ item.toList)
    (htrim : Text.trim item.toList = item.toList) : listItems item = [item] := by
  rw [listItems_eq, List.splitOn_eq_singleton hcomma, List.map_singleton, trimBlank,
    String.toList_ofList, htrim, String.ofList_toList]

/-- A list has one more item when a comma, a blank and the item are put behind it. -/
theorem listItems_append (hcomma : ',' ∉ item.toList)
    (htrim : Text.trim item.toList = item.toList) :
    listItems (text ++ ", " ++ item) = listItems text ++ [item] := by
  have hlist : (text ++ ", " ++ item).toList = text.toList ++ ',' :: (' ' :: item.toList) := by
    simp
  have hlast : (' ' :: item.toList).splitOn ',' = [' ' :: item.toList] :=
    List.splitOn_eq_singleton (List.not_mem_cons_of_ne_of_not_mem (by decide) hcomma)
  have hblank : Text.trim (' ' :: item.toList) = item.toList := by
    have hbetween : Text.trim ([' '] ++ item.toList ++ []) = Text.trim item.toList :=
      Text.trim_between (List.all_eq_true.mp rfl) (List.all_eq_true.mp rfl)
    rwa [List.append_nil, htrim] at hbetween
  rw [listItems_eq, listItems_eq, hlist, List.splitOn_append_cons_self, hlast, List.map_append,
    List.map_singleton, trimBlank, String.toList_ofList, hblank, String.ofList_toList]

end Values

namespace Fields

variable {fs gs : Fields} {peer : IpAddress} {peers : List IpAddress} {name host : String}
  {value : List Byte} {hops : List (String × IpAddress)}

/-! ### One more peer -/

/-- The **chain** of those that a request has come through: the items of all its lines. -/
def chain (fs : Fields) : List String :=
  fs.items "x-forwarded-for"

/-- The items of the first line of the chain. -/
def firstChain (fs : Fields) : List String :=
  (((fs.value? "x-forwarded-for").bind Field.text?).map listItems).getD []

/-- The first line tells its items when it is printable. -/
theorem firstChain_of_value? {text : String} (hvalue : fs.value? "x-forwarded-for" = some value)
    (htext : Field.text? value = some text) : fs.firstChain = listItems text := by
  rw [firstChain, hvalue, Option.bind_some, htext, Option.map_some, Option.getD_some]

/-- A chain is **readable** when all its lines are printable. -/
def ChainReadable (fs : Fields) : Prop :=
  ∀ value ∈ fs.values "x-forwarded-for", (Field.text? value).isSome

/-- One more peer makes one line of the first one. -/
theorem values_appendForwardedFor (fs : Fields) (peer : IpAddress) : ∃ value text,
    (fs.appendForwardedFor peer).values "x-forwarded-for" = [value] ∧
      Field.text? value = some text ∧ listItems text = fs.firstChain ++ [toString peer] := by
  have hpeer := text?_asciiBytes_toString peer
  cases hprior : (fs.value? "x-forwarded-for").bind Field.text? with
  | none =>
    refine ⟨asciiBytes (toString peer), toString peer, ?_, hpeer, ?_⟩
    · simp only [appendForwardedFor, hprior]
      exact values_set_self
    · rw [firstChain, hprior]
      exact listItems_singleton peer.comma_notMem_toString peer.trim_toString
  | some prior =>
    obtain ⟨value, -, htext⟩ := Option.bind_eq_some_iff.mp hprior
    have hcomma : Field.text? (asciiBytes ", ") = some ", " := by decide
    have hjoined : Field.text? (asciiBytes (prior ++ ", " ++ toString peer)) =
        some (prior ++ ", " ++ toString peer) := by
      rw [asciiBytes_append, asciiBytes_append, Field.asciiBytes_of_text? htext]
      exact Field.text?_append (Field.text?_append htext hcomma) hpeer
    refine ⟨_, _, ?_, hjoined, ?_⟩
    · simp only [appendForwardedFor, hprior]
      exact values_set_self
    · rw [firstChain, hprior]
      exact listItems_append peer.comma_notMem_toString peer.trim_toString

/-- **One more peer leaves a chain of one line**: the items of the first one, and the peer. -/
theorem chain_appendForwardedFor :
    (fs.appendForwardedFor peer).chain = fs.firstChain ++ [toString peer] := by
  obtain ⟨value, text, hvalues, htext, hitems⟩ := values_appendForwardedFor fs peer
  rw [chain, items_of_values_eq hvalues htext, hitems]

/-- So the first line tells all that is left. -/
theorem firstChain_appendForwardedFor :
    (fs.appendForwardedFor peer).firstChain = fs.firstChain ++ [toString peer] := by
  obtain ⟨value, text, hvalues, htext, hitems⟩ := values_appendForwardedFor fs peer
  have hvalue : (fs.appendForwardedFor peer).value? "x-forwarded-for" = some value := by
    rw [value?, hvalues, List.head?_cons]
  rw [firstChain_of_value? hvalue htext, hitems]

/-- The first line tells the whole chain when there is no second one. -/
theorem firstChain_eq_chain_iff (h : fs.ChainReadable) :
    fs.firstChain = fs.chain ↔ (fs.values "x-forwarded-for").length ≤ 1 := by
  rw [firstChain, chain, items, value?]
  rw [ChainReadable] at h
  cases hvalues : fs.values "x-forwarded-for" with
  | nil => simp
  | cons first rest =>
    rw [hvalues] at h
    obtain ⟨text, htext⟩ := Option.isSome_iff_exists.mp (h first List.mem_cons_self)
    cases rest with
    | nil => simp [htext]
    | cons second rest =>
      -- the second line has an item, if only an empty one
      obtain ⟨text', htext'⟩ := Option.isSome_iff_exists.mp
        (h second (List.mem_cons_of_mem _ List.mem_cons_self))
      simp [htext, htext', listItems_ne_nil]

/-! ### Peer after peer -/

/-- Peer after peer goes behind the first line. -/
theorem firstChain_foldl :
    (peers.foldl appendForwardedFor fs).firstChain = fs.firstChain ++ peers.map toString := by
  induction peers generalizing fs with
  | nil => rw [List.map_nil, List.append_nil, List.foldl_nil]
  | cons peer peers ih =>
    rw [List.foldl_cons, ih, firstChain_appendForwardedFor, List.append_assoc, List.map_cons,
      List.singleton_append]

/-- The peers stand in order behind the items of the first line. -/
theorem chain_foldl (hpeers : peers ≠ []) :
    (peers.foldl appendForwardedFor fs).chain = fs.firstChain ++ peers.map toString := by
  induction peers using List.reverseRecOn with
  | nil => exact absurd rfl hpeers
  | append_singleton peers peer =>
    rw [List.foldl_concat, chain_appendForwardedFor, firstChain_foldl, List.map_append,
      List.map_singleton, List.append_assoc]

/-! ### Gateway after gateway -/

/-- The fields that go on, with an upgrade if they ask for one. -/
def kept (fs : Fields) : Fields :=
  if fs.isUpgrade then fs.stripKeepingUpgrade else fs.strip

/-- A request goes on without what is about the hop, with its host and with one more peer. -/
theorem forward_eq : fs.forward host peer =
    ((fs.kept.set "host" (asciiBytes host)).set "x-forwarded-host" (asciiBytes host)
      ).appendForwardedFor peer :=
  rfl

/-- A name that is about the hop loses all its values, and any other keeps them. -/
theorem values_kept (hname : name ∉ hopByHop) :
    fs.kept.values name = if fs.isHop name then [] else fs.values name := by
  have hstrip : fs.strip.values name = if fs.isHop name then [] else fs.values name :=
    values_removeWhere
  rw [kept]
  split
  · rw [values_stripKeepingUpgrade_of_notMem hname, hstrip]
  · exact hstrip

/-- What goes on is not about a hop any more. -/
theorem isHop_kept (hname : name ∉ hopByHop) : fs.kept.isHop name = false := by
  refine Bool.eq_false_iff.mpr fun h => hname ?_
  rw [kept] at h
  split at h
  · exact mem_hopByHop_of_isHop_stripKeepingUpgrade h
  · exact mem_hopByHop_of_isHop (by simp [listed_strip]) h

/-- What is about the hop depends on `connection` only. -/
theorem isHop_congr (h : fs.values "connection" = gs.values "connection") :
    fs.isHop name = gs.isHop name := by
  have hlisted : fs.listed = gs.listed := by rw [listed, listed, items, items, h]
  rw [isHop, isHop, hlisted]

theorem forwardedFor_notMem_hopByHop : "x-forwarded-for" ∉ hopByHop := by
  decide

/-- The chain is lost where `connection` lists it. -/
theorem firstChain_kept : fs.kept.firstChain =
    if fs.isHop "x-forwarded-for" then [] else fs.firstChain := by
  rw [firstChain, value?, values_kept forwardedFor_notMem_hopByHop]
  split <;> rfl

/-- Setting another name leaves the chain. -/
theorem firstChain_set (h : name ≠ "x-forwarded-for") :
    (fs.set name value).firstChain = fs.firstChain := by
  rw [firstChain, firstChain, value?, value?, values_set_of_ne h]

/-- A gateway passes on the first line of the chain and its own peer. -/
theorem chain_forward : (fs.forward host peer).chain =
    (if fs.isHop "x-forwarded-for" then [] else fs.firstChain) ++ [toString peer] := by
  rw [forward_eq, chain_appendForwardedFor, firstChain_set (by decide), firstChain_set (by decide),
    firstChain_kept]

theorem firstChain_forward : (fs.forward host peer).firstChain =
    (if fs.isHop "x-forwarded-for" then [] else fs.firstChain) ++ [toString peer] := by
  rw [forward_eq, firstChain_appendForwardedFor, firstChain_set (by decide),
    firstChain_set (by decide), firstChain_kept]

/-- Behind a gateway, `connection` does not list the chain. -/
theorem isHop_forward : (fs.forward host peer).isHop "x-forwarded-for" = false := by
  have hkept : fs.kept.isHop "x-forwarded-for" = false := isHop_kept forwardedFor_notMem_hopByHop
  rw [← hkept]
  refine isHop_congr ?_
  rw [forward_eq, appendForwardedFor, values_set_of_ne (by decide), values_set_of_ne (by decide),
    values_set_of_ne (by decide)]

/-- The fields behind gateways, each with the host that it was asked for and its peer. -/
def through (fs : Fields) (hops : List (String × IpAddress)) : Fields :=
  hops.foldl (fun fs hop => fs.forward hop.1 hop.2) fs

theorem through_concat {hop : String × IpAddress} :
    fs.through (hops ++ [hop]) = (fs.through hops).forward hop.1 hop.2 := by
  rw [through, List.foldl_concat]
  rfl

/-- **Gateway after gateway**, the first line grows by the peers, and never becomes one that is
about the hop. -/
theorem firstChain_through (h : fs.isHop "x-forwarded-for" = false)
    (hops : List (String × IpAddress)) :
    (fs.through hops).isHop "x-forwarded-for" = false ∧
      (fs.through hops).firstChain = fs.firstChain ++ hops.map fun hop => toString hop.2 := by
  induction hops using List.reverseRecOn with
  | nil => exact ⟨h, (List.append_nil _).symm⟩
  | append_singleton hops hop ih =>
    rw [through_concat]
    refine ⟨isHop_forward, ?_⟩
    rw [firstChain_forward, ih.1, ih.2, List.map_append, ← List.append_assoc]
    rfl

/-- Behind one gateway at least, the chain has no line but the first. -/
theorem chain_through (h : fs.isHop "x-forwarded-for" = false) (hhops : hops ≠ []) :
    (fs.through hops).chain = fs.firstChain ++ hops.map fun hop => toString hop.2 := by
  induction hops using List.reverseRecOn with
  | nil => exact absurd rfl hhops
  | append_singleton hops hop ih =>
    obtain ⟨hhop, hchain⟩ := firstChain_through h hops
    rw [through_concat, chain_forward, hhop, hchain, List.map_append, ← List.append_assoc]
    rfl

/-- **What is kept of a chain.** After gateways have added their peers, these stand in order behind
the items of the first line; so the chain is kept exactly when there was no second line. Whole
gateways treat it the same, unless `connection` lists it. -/
theorem chain_kept_iff (fs : Fields) (hreadable : fs.ChainReadable)
    (hops : List (String × IpAddress)) (hhops : hops ≠ []) :
    let peers := hops.map Prod.snd
    let appended := peers.foldl appendForwardedFor fs
    (appended.chain = fs.chain ++ peers.map toString ↔
      (fs.values "x-forwarded-for").length ≤ 1) ∧
    appended.chain = fs.firstChain ++ peers.map toString ∧
    (fs.isHop "x-forwarded-for" = false → (fs.through hops).chain = appended.chain) := by
  intro peers appended
  have hpeers : peers ≠ [] := by simpa [peers] using hhops
  have hchain : appended.chain = fs.firstChain ++ peers.map toString := chain_foldl hpeers
  refine ⟨?_, hchain, fun hhop => ?_⟩
  · rw [hchain, List.append_left_inj, firstChain_eq_chain_iff hreadable]
  · rw [chain_through hhop hhops, hchain, List.map_map]
    rfl

/-- A chain in one line goes through two gateways. -/
theorem chain_kept_of_one_line :
    let fs : Fields := [⟨"connection", asciiBytes "close"⟩,
      ⟨"x-forwarded-for", asciiBytes "203.0.113.9,198.51.100.7 "⟩]
    let hops : List (String × IpAddress) :=
      [("a.example", .v4 #v[192, 0, 2, 7]), ("b.example", .v6 #v[0xfd00, 0, 0, 0, 0, 0, 0, 1])]
    fs.ChainReadable ∧ hops ≠ [] ∧
      (fs.through hops).chain = ["203.0.113.9", "198.51.100.7", "192.0.2.7", "fd00::1"] := by
  intro fs hops
  have hvalues : fs.values "x-forwarded-for" = [asciiBytes "203.0.113.9,198.51.100.7 "] := by decide
  have htext : Field.text? (asciiBytes "203.0.113.9,198.51.100.7 ") =
      some "203.0.113.9,198.51.100.7 " := by decide
  have hreadable : fs.ChainReadable := by
    rw [ChainReadable, hvalues]
    simp [htext]
  have hhop : fs.isHop "x-forwarded-for" = false := by
    have hconnection : fs.values "connection" = [asciiBytes "close"] := by decide
    have hclose : Field.text? (asciiBytes "close") = some "close" := by decide
    rw [isHop, listed, items_of_values_eq hconnection hclose, listItems_eq]
    decide
  have hfirst : fs.firstChain = ["203.0.113.9", "198.51.100.7"] := by
    rw [firstChain_of_value? (by rw [value?, hvalues, List.head?_cons]) htext, listItems_eq]
    decide
  obtain ⟨-, hchain, hthrough⟩ := chain_kept_iff fs hreadable hops (by simp [hops])
  refine ⟨hreadable, by simp [hops], ?_⟩
  rw [hthrough hhop, hchain, hfirst]
  decide

/-- Of two lines only the first goes on. -/
theorem chain_not_kept_of_second_line :
    let h : Head := {
      method := asciiBytes "GET", target := asciiBytes "/", minorVersion := 1
      fields := [⟨"host", asciiBytes "app.example.com"⟩,
        ⟨"x-forwarded-for", asciiBytes "203.0.113.9"⟩,
        ⟨"x-forwarded-for", asciiBytes "198.51.100.7"⟩] }
    Head.scan (asciiBytes "GET / HTTP/1.1\r\nHost: app.example.com\r\n" ++
      asciiBytes "X-Forwarded-For: 203.0.113.9\r\nX-Forwarded-For: 198.51.100.7\r\n\r\n") =
        .complete h [] ∧
    h.fields.chain = ["203.0.113.9", "198.51.100.7"] ∧
    ∀ peer, (h.fields.appendForwardedFor peer).chain = ["203.0.113.9", toString peer] ∧
      (h.fields.appendForwardedFor peer).chain ≠ h.fields.chain ++ [toString peer] := by
  intro h
  have hvalues : h.fields.values "x-forwarded-for" =
      [asciiBytes "203.0.113.9", asciiBytes "198.51.100.7"] := by decide
  have htext : Field.text? (asciiBytes "203.0.113.9") = some "203.0.113.9" := by decide
  have htext' : Field.text? (asciiBytes "198.51.100.7") = some "198.51.100.7" := by decide
  have hchain : h.fields.chain = ["203.0.113.9", "198.51.100.7"] := by
    simp only [chain, items, hvalues, List.filterMap_cons, htext, htext', List.filterMap_nil,
      List.flatMap_cons, List.flatMap_nil, listItems_eq]
    decide
  have hfirst : h.fields.firstChain = ["203.0.113.9"] := by
    rw [firstChain_of_value? (by rw [value?, hvalues, List.head?_cons]) htext, listItems_eq]
    decide
  refine ⟨by decide +kernel, hchain, fun peer => ?_⟩
  have hlost : (h.fields.appendForwardedFor peer).chain = ["203.0.113.9", toString peer] := by
    rw [chain_appendForwardedFor, hfirst]
    rfl
  refine ⟨hlost, ?_⟩
  rw [hlost, hchain]
  exact ne_of_apply_ne List.length (by simp)

end Fields

end GameGateway.Http
