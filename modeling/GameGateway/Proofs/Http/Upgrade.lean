import GameGateway.Proofs.Http.Treatment

/-!
# What becomes of an upgrade on its way

Fields are for WebSocket when any of their upgrades names it. When they are passed on, the fields of
this hop are taken away and one upgrade is put back, the first one, with a `connection` that lists
it (`stripKeepingUpgrade_eq`). So what goes on is for WebSocket exactly when the first upgrade names
it (`upgrade_passed_on`): always if there is only one, but not if WebSocket stands behind another
protocol. A further hop changes nothing any more (`stripKeepingUpgrade_twice`).
-/

namespace GameGateway.Http.Fields

open Wire (Byte)

variable {fs gs : Fields} {name host : String} {value first : List Byte} {peer : IpAddress}
  {p : String → Bool}

/-! ### Fields behind one another -/

/-- The values of a name are those in front and then those behind. -/
theorem values_append : values (fs ++ gs) name = fs.values name ++ gs.values name := by
  rw [values, values, values, List.filter_append, List.map_append]

/-- The items of a name that has one value. -/
theorem items_of_values_eq {text : String} (hvalues : fs.values name = [value])
    (htext : Field.text? value = some text) : fs.items name = listItems text := by
  simp [items, hvalues, htext]

theorem removeWhere_append :
    removeWhere (fs ++ gs) p = fs.removeWhere p ++ gs.removeWhere p :=
  List.filter_append ..

/-- The value of a new name goes behind the other fields. -/
theorem set_of_values_eq_nil (h : fs.values name = []) :
    fs.set name value = fs ++ [⟨name, value⟩] := by
  induction fs with
  | nil => rfl
  | cons f rest ih =>
    have hname : f.name ≠ name := by
      rintro rfl
      simp [values] at h
    have hrest : Fields.values rest name = [] := by simpa [values, hname] using h
    rw [set, if_neg hname, ih hrest, List.cons_append]

/-! ### The first upgrade -/

/-- Fields that are for WebSocket have an upgrade. -/
theorem exists_value?_of_isUpgrade (h : fs.isUpgrade = true) :
    ∃ first, fs.value? "upgrade" = some first := by
  obtain ⟨value, hmem, -⟩ := List.any_eq_true.mp h
  exact ⟨_, List.head?_eq_some_head (List.ne_nil_of_mem hmem)⟩

/-- The only upgrade is the first. -/
theorem isUpgrade_eq_of_length_le (hone : (fs.values "upgrade").length ≤ 1) :
    fs.isUpgrade = (fs.value? "upgrade").any namesWebsocket := by
  rw [isUpgrade, value?]
  cases hvalues : fs.values "upgrade" with
  | nil => rfl
  | cons only rest =>
    rw [hvalues, List.length_cons] at hone
    obtain rfl : rest = [] := List.eq_nil_of_length_eq_zero (by omega)
    exact Bool.or_false _

/-! ### What is left of a hop -/

theorem upgrade_mem_hopByHop : "upgrade" ∈ hopByHop := by
  decide

theorem connection_mem_hopByHop : "connection" ∈ hopByHop := by
  decide

theorem isHop_of_mem (h : name ∈ hopByHop) : fs.isHop name = true := by
  simp [isHop, h]

/-- Nothing is left of a field that is always about the hop. -/
theorem values_strip_of_mem (h : name ∈ hopByHop) : fs.strip.values name = [] := by
  rw [strip, values_removeWhere, if_pos (isHop_of_mem h)]

/-- So such a field has no first value either. -/
theorem value?_strip_of_mem (h : name ∈ hopByHop) : fs.strip.value? name = none := by
  rw [value?, values_strip_of_mem h, List.head?_nil]

/-- What is always about the hop cannot be taken away from stripped fields. -/
theorem removeWhere_strip (h : ∀ name, p name = true → name ∈ hopByHop) :
    fs.strip.removeWhere p = fs.strip := by
  rw [removeWhere, List.filter_eq_self]
  intro f hf
  have hkept : fs.isHop f.name = false := by
    simpa [strip, removeWhere] using (List.mem_filter.mp hf).2
  cases hp : p f.name with
  | false => rfl
  | true => exact Bool.noConfusion (hkept.symm.trans (isHop_of_mem (h f.name hp)))

/-- What `connection` lists of the hop anyway makes no difference. -/
theorem mem_hopByHop_of_isHop (hlisted : ∀ item ∈ fs.listed, item ∈ hopByHop)
    (h : fs.isHop name = true) : name ∈ hopByHop := by
  simp only [isHop, Bool.or_eq_true, decide_eq_true_eq] at h
  exact h.elim id (hlisted name)

/-- Nothing is listed in `connection` any more, since it is gone itself. -/
theorem listed_strip : fs.strip.listed = [] := by
  rw [listed, items, values_strip_of_mem connection_mem_hopByHop]
  rfl

/-- Stripped fields stay as they are when they are stripped once more. -/
theorem strip_strip : fs.strip.strip = fs.strip :=
  removeWhere_strip fun name => mem_hopByHop_of_isHop (by simp [listed_strip])

/-! ### What goes on -/

/-- The fields with which an upgrade goes on. -/
def upgradeFields (upgrade : List Byte) : Fields :=
  [⟨"upgrade", upgrade⟩, ⟨"connection", asciiBytes "upgrade"⟩]

/-- **An upgrade goes on behind the stripped fields**, and it is the first. -/
theorem stripKeepingUpgrade_eq (h : fs.value? "upgrade" = some first) :
    fs.stripKeepingUpgrade = fs.strip ++ upgradeFields first := by
  have hupgrade : fs.strip.values "upgrade" = [] := values_strip_of_mem upgrade_mem_hopByHop
  have hconnection : values (fs.strip ++ [⟨"upgrade", first⟩]) "connection" = [] := by
    rw [values_append, values_strip_of_mem connection_mem_hopByHop]
    rfl
  simp only [stripKeepingUpgrade, h]
  rw [set_of_values_eq_nil hupgrade, set_of_values_eq_nil hconnection, List.append_assoc]
  rfl

/-- Without an upgrade to be kept, fields are stripped and no more. -/
theorem stripKeepingUpgrade_of_none (h : fs.value? "upgrade" = none) :
    fs.stripKeepingUpgrade = fs.strip := by
  simp only [stripKeepingUpgrade, h]

/-- Of a field that is about the hop there is only what an upgrade goes on with. -/
theorem values_stripKeepingUpgrade (h : fs.value? "upgrade" = some first)
    (hname : name ∈ hopByHop) :
    fs.stripKeepingUpgrade.values name = (upgradeFields first).values name := by
  rw [stripKeepingUpgrade_eq h, values_append, values_strip_of_mem hname, List.nil_append]

/-- **The first upgrade stays the first.** -/
theorem value?_stripKeepingUpgrade (h : fs.value? "upgrade" = some first) :
    fs.stripKeepingUpgrade.value? "upgrade" = some first := by
  rw [value?, values_stripKeepingUpgrade h upgrade_mem_hopByHop]
  rfl

/-- Without its upgrade, what goes on is what is left by stripping. -/
theorem removeWhere_stripKeepingUpgrade (h : fs.value? "upgrade" = some first)
    (hhop : ∀ name, p name = true → name ∈ hopByHop) (hupgrade : p "upgrade" = true)
    (hconnection : p "connection" = true) :
    fs.stripKeepingUpgrade.removeWhere p = fs.strip := by
  have hnone : (upgradeFields first).removeWhere p = [] := by
    simp [upgradeFields, removeWhere, hupgrade, hconnection]
  rw [stripKeepingUpgrade_eq h, removeWhere_append, removeWhere_strip hhop, hnone, List.append_nil]

/-- Whether what goes on is for WebSocket is told by the first upgrade alone. -/
theorem isUpgrade_stripKeepingUpgrade (h : fs.value? "upgrade" = some first) :
    fs.stripKeepingUpgrade.isUpgrade = namesWebsocket first := by
  rw [isUpgrade, values_stripKeepingUpgrade h upgrade_mem_hopByHop]
  exact Bool.or_false _

/-- `connection` lists the upgrade and nothing else. -/
theorem listed_stripKeepingUpgrade (h : fs.value? "upgrade" = some first) :
    fs.stripKeepingUpgrade.listed = ["upgrade"] := by
  have htext : Field.text? (asciiBytes "upgrade") = some "upgrade" := by decide
  have hvalues : fs.stripKeepingUpgrade.values "connection" = [asciiBytes "upgrade"] :=
    values_stripKeepingUpgrade h connection_mem_hopByHop
  rw [listed, items_of_values_eq hvalues htext, listItems_eq]
  decide

/-- What goes on lists nothing that is not always about the hop. -/
theorem mem_hopByHop_of_isHop_stripKeepingUpgrade
    (h : fs.stripKeepingUpgrade.isHop name = true) : name ∈ hopByHop := by
  refine mem_hopByHop_of_isHop ?_ h
  cases hupgrade : fs.value? "upgrade" with
  | none =>
    rw [stripKeepingUpgrade_of_none hupgrade, listed_strip]
    exact nofun
  | some first =>
    rw [listed_stripKeepingUpgrade hupgrade]
    simpa using upgrade_mem_hopByHop

/-- What is not about the hop goes on with an upgrade as it does without. -/
theorem values_stripKeepingUpgrade_of_notMem (hname : name ∉ hopByHop) :
    fs.stripKeepingUpgrade.values name = fs.strip.values name := by
  cases h : fs.value? "upgrade" with
  | none => rw [stripKeepingUpgrade_of_none h]
  | some first =>
    have hconnection : "connection" ≠ name := by
      rintro rfl
      exact hname connection_mem_hopByHop
    have hupgrade : "upgrade" ≠ name := by
      rintro rfl
      exact hname upgrade_mem_hopByHop
    rw [stripKeepingUpgrade_eq h, values_append]
    simp [upgradeFields, values, hconnection, hupgrade]

/-- **A further hop changes nothing**: what has gone on once goes on as it is. -/
theorem stripKeepingUpgrade_twice :
    fs.stripKeepingUpgrade.stripKeepingUpgrade = fs.stripKeepingUpgrade := by
  cases h : fs.value? "upgrade" with
  | none =>
    rw [stripKeepingUpgrade_of_none h,
      stripKeepingUpgrade_of_none (value?_strip_of_mem upgrade_mem_hopByHop), strip_strip]
  | some first =>
    have hstrip : fs.stripKeepingUpgrade.strip = fs.strip :=
      removeWhere_stripKeepingUpgrade h (fun name => mem_hopByHop_of_isHop_stripKeepingUpgrade)
        (isHop_of_mem upgrade_mem_hopByHop)
        (isHop_of_mem connection_mem_hopByHop)
    rw [stripKeepingUpgrade_eq (value?_stripKeepingUpgrade h), hstrip, stripKeepingUpgrade_eq h]

/-! ### What a backend gets -/

/-- A backend gets of the request's fields what goes on, but for those that tell of the host and
the peers. -/
theorem values_forward (h : fs.isUpgrade = true)
    (hname : name ∉ ["host", "x-forwarded-host", "x-forwarded-for"]) :
    (fs.forward host peer).values name = fs.stripKeepingUpgrade.values name := by
  simp only [List.mem_cons, List.not_mem_nil, or_false, not_or] at hname
  obtain ⟨hhost, hforwardedHost, hforwardedFor⟩ := hname
  rw [forward, if_pos h, appendForwardedFor, values_set_of_ne (Ne.symm hforwardedFor),
    values_set_of_ne (Ne.symm hforwardedHost), values_set_of_ne (Ne.symm hhost)]

/-- A backend sees the upgrade that goes on. -/
theorem isUpgrade_forward (h : fs.isUpgrade = true) :
    (fs.forward host peer).isUpgrade = fs.stripKeepingUpgrade.isUpgrade := by
  rw [isUpgrade, isUpgrade, values_forward h (by decide)]

/-- **How an upgrade is passed on.** What goes on has the first upgrade and a `connection` that is
just `upgrade`; but for the two, it is what stripping leaves. It is for WebSocket exactly when the
first upgrade names it, as it does if there is only one, and so is what a backend gets. -/
theorem upgrade_passed_on (fs : Fields) (h : fs.isUpgrade = true) :
    fs.stripKeepingUpgrade.values "connection" = [asciiBytes "upgrade"] ∧
    fs.stripKeepingUpgrade.values "upgrade" = (fs.value? "upgrade").toList ∧
    fs.stripKeepingUpgrade.removeWhere (· ∈ ["connection", "upgrade"]) = fs.strip ∧
    fs.stripKeepingUpgrade.isUpgrade = (fs.value? "upgrade").any namesWebsocket ∧
    ((fs.values "upgrade").length ≤ 1 → fs.stripKeepingUpgrade.isUpgrade = true) ∧
    ∀ host peer, (fs.forward host peer).isUpgrade = fs.stripKeepingUpgrade.isUpgrade := by
  obtain ⟨first, hfirst⟩ := exists_value?_of_isUpgrade h
  have hkept : fs.stripKeepingUpgrade.isUpgrade = (fs.value? "upgrade").any namesWebsocket := by
    rw [isUpgrade_stripKeepingUpgrade hfirst, hfirst, Option.any_some]
  refine ⟨values_stripKeepingUpgrade hfirst connection_mem_hopByHop, ?_,
    removeWhere_stripKeepingUpgrade hfirst (fun name hname => ?_) (by decide) (by decide), hkept,
    fun hone => ?_, fun host peer => isUpgrade_forward h⟩
  · rw [values_stripKeepingUpgrade hfirst upgrade_mem_hopByHop, hfirst]
    rfl
  · have hmem : name = "connection" ∨ name = "upgrade" := by simpa using hname
    rcases hmem with rfl | rfl
    · exact connection_mem_hopByHop
    · exact upgrade_mem_hopByHop
  · rw [hkept, ← isUpgrade_eq_of_length_le hone]
    exact h

/-- Fields with two upgrades, the first of which names WebSocket, and with two of `connection`. -/
theorem upgrade_passed_on_of_first :
    let fs : Fields := [⟨"connection", asciiBytes "X-Session, Upgrade"⟩,
      ⟨"upgrade", asciiBytes "foo, WebSocket"⟩, ⟨"x-session", asciiBytes "7"⟩,
      ⟨"connection", asciiBytes "keep-alive"⟩, ⟨"upgrade", asciiBytes "h2c"⟩]
    fs.isUpgrade = true ∧ fs.stripKeepingUpgrade.isUpgrade = true ∧
      fs.stripKeepingUpgrade.values "connection" = [asciiBytes "upgrade"] := by
  intro fs
  have hfirst : fs.value? "upgrade" = some (asciiBytes "foo, WebSocket") := by decide
  have hnames : namesWebsocket (asciiBytes "foo, WebSocket") = true := by
    have htext : Field.text? (asciiBytes "foo, WebSocket") = some "foo, WebSocket" := by decide
    rw [namesWebsocket_of_text? htext]
    decide
  have hupgrade : fs.isUpgrade = true :=
    List.any_eq_true.mpr ⟨_, List.mem_of_head? hfirst, hnames⟩
  obtain ⟨hconnection, -, -, hkept, -⟩ := upgrade_passed_on fs hupgrade
  rw [hfirst, Option.any_some, hnames] at hkept
  exact ⟨hupgrade, hkept, hconnection⟩

/-- WebSocket named behind another protocol does not go on: the backend is asked for the other one,
and only for that. -/
theorem not_passed_on_of_second_upgrade :
    let h : Head := {
      method := asciiBytes "GET", target := asciiBytes "/ws", minorVersion := 1
      fields := [⟨"host", asciiBytes "app.example.com"⟩, ⟨"connection", asciiBytes "Upgrade"⟩,
        ⟨"upgrade", asciiBytes "h2c"⟩, ⟨"upgrade", asciiBytes "websocket"⟩] }
    Head.scan (asciiBytes "GET /ws HTTP/1.1\r\nHost: app.example.com\r\nConnection: Upgrade\r\n" ++
      asciiBytes "Upgrade: h2c\r\nUpgrade: websocket\r\n\r\n") = .complete h [] ∧
    h.fields.isUpgrade = true ∧
    h.fields.stripKeepingUpgrade.values "upgrade" = [asciiBytes "h2c"] ∧
    h.fields.stripKeepingUpgrade.isUpgrade = false ∧
    ∀ host peer, (h.fields.forward host peer).isUpgrade = false := by
  intro h
  have hupgrade : h.fields.isUpgrade = true := by
    have hmem : asciiBytes "websocket" ∈ h.fields.values "upgrade" := by decide
    have htext : Field.text? (asciiBytes "websocket") = some "websocket" := by decide
    refine List.any_eq_true.mpr ⟨_, hmem, ?_⟩
    rw [namesWebsocket_of_text? htext]
    decide
  have hfirst : h.fields.value? "upgrade" = some (asciiBytes "h2c") := by decide
  have hlost : h.fields.stripKeepingUpgrade.isUpgrade = false := by
    have htext : Field.text? (asciiBytes "h2c") = some "h2c" := by decide
    rw [isUpgrade_stripKeepingUpgrade hfirst, namesWebsocket_of_text? htext]
    decide
  exact ⟨by decide +kernel, hupgrade, values_stripKeepingUpgrade hfirst upgrade_mem_hopByHop, hlost,
    fun host peer => (isUpgrade_forward hupgrade).trans hlost⟩

end GameGateway.Http.Fields
