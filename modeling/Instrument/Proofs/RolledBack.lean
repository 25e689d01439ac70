import Instrument.Proofs.OrderlyPins

/-!
# A refused claim leaves no trace

A subsystem that asks for several pins and is refused one has claimed and released some of them by
then. On the stock board these pins were floating inputs, so the pads are as they were too: the
table and the board after the refusal are those before the claim.
-/

namespace Instrument

lemma Pin.exists_index_eq (i : Fin count) : ∃ pin : Pin, pin.index = i := by
  have hall : all.map index = List.finRange count := by decide +kernel
  have hi : i ∈ all.map index := hall ▸ List.mem_finRange i
  obtain ⟨pin, -, hpin⟩ := List.mem_map.1 hi
  exact ⟨pin, hpin⟩

lemma PinMap.ext_get {α : Type} {m n : PinMap α} (h : ∀ pin, m.get pin = n.get pin) : m = n := by
  obtain ⟨m⟩ := m
  obtain ⟨n⟩ := n
  rw [mk.injEq]
  apply Vector.ext
  intro i hi
  obtain ⟨pin, hpin⟩ := Pin.exists_index_eq ⟨i, hi⟩
  have hcell := h pin
  simp only [get, hpin] at hcell
  exact hcell

namespace Pad

lemma apply_apply (pad : Pad) (mode : PadMode) : (pad.apply mode).apply mode = pad.apply mode := by
  rcases mode with ⟨_ | _ | _⟩ | _ | _ | _ <;> rfl

lemma apply_floating_apply_analog {pad : Pad} (h : pad.mode = .input .floating) :
    (pad.apply .analog).apply (.input .floating) = pad := by
  obtain ⟨mode, level, analog⟩ := pad
  cases h
  rfl

end Pad

namespace PinTable

variable {mode : PadMode} {s : Subsystem} {pins : List Pin} {t t' : PinTable}

/-- A table is what it answers about each pin, and the board under it. -/
lemma ext_pins (hrow : ∀ pin, t'.row? pin = t.row? pin)
    (hpad : ∀ pin, t'.board.pad pin = t.board.pad pin)
    (hlatch : ∀ channel, t'.board.latched channel = t.board.latched channel) : t' = t := by
  obtain ⟨rows, pads, ch1, ch2⟩ := t
  obtain ⟨rows', pads', ch1', ch2'⟩ := t'
  have hrows : rows' = rows := PinMap.ext_get hrow
  have hpads : pads' = pads := PinMap.ext_get hpad
  have h1 : ch1' = ch1 := hlatch .ch1
  have h2 : ch2' = ch2 := hlatch .ch2
  rw [hrows, hpads, h1, h2]

lemma pad_put (t : PinTable) (pin q : Pin) (row : Row) : (t.put pin row).board.pad q =
    if pin = q then (t.board.pad q).apply row.mode else t.board.pad q := by
  by_cases hq : pin = q
  · subst hq
    rw [pad_put_self, if_pos rfl]
  · rw [pad_put_of_ne _ _ hq, if_neg hq]

lemma Granted.pad (h : Granted mode s pins t t') (q : Pin) :
    t'.board.pad q = if q ∈ pins then (t.board.pad q).apply mode else t.board.pad q := by
  induction h with
  | nil => rw [if_neg List.not_mem_nil]
  | @cons pin pins t t₁ t₂ head tail ih =>
    obtain ⟨row, -, -, rfl⟩ := claim_eq_ok_iff.1 head
    rw [ih, pad_put]
    by_cases hq : pin = q
    · subst hq
      simp [Pad.apply_apply]
    · have hq' : ¬q = pin := fun h => hq h.symm
      simp [hq, hq']

lemma Granted.latched (h : Granted mode s pins t t') (channel : DacChannel) :
    t'.board.latched channel = t.board.latched channel := by
  induction h with
  | nil => rfl
  | cons head tail ih =>
    obtain ⟨row, -, -, rfl⟩ := claim_eq_ok_iff.1 head
    rw [ih, latched_put]

lemma pad_release_getD (t : PinTable) (pin q : Pin) :
    ((t.release pin).toOption.getD t).board.pad q =
      if pin = q then restorePad (t.row? q) (t.board.pad q) else t.board.pad q := by
  rw [release_getD]
  by_cases hq : pin = q
  · subst hq
    rw [if_pos rfl]
    cases hrow : t.row? pin with
    | none => rfl
    | some row => exact pad_put_self t pin row.restore
  · rw [if_neg hq]
    cases t.row? pin with
    | none => rfl
    | some row => exact pad_put_of_ne _ _ hq

lemma restorePad_restorePad (row : Option Row) (pad : Pad) :
    restorePad (row.map Row.restore) (restorePad row pad) = restorePad row pad := by
  cases row with
  | none => rfl
  | some row => exact Pad.apply_apply pad row.defaultMode

lemma pad_releaseAll (t : PinTable) (pins : List Pin) (q : Pin) :
    (t.releaseAll pins).board.pad q =
      if q ∈ pins then restorePad (t.row? q) (t.board.pad q) else t.board.pad q := by
  induction pins generalizing t with
  | nil => simp [releaseAll]
  | cons pin pins ih =>
    rw [releaseAll_cons, ih, pad_release_getD, row?_release_getD]
    by_cases hq : pin = q
    · subst hq
      simp [restorePad_restorePad]
    · have hq' : ¬q = pin := fun h => hq h.symm
      simp [hq, hq']

lemma analog_restorePad (row : Option Row) (pad : Pad) :
    (restorePad row pad).analog = pad.analog := by
  cases row with
  | none => rfl
  | some row => exact Pad.analog_apply pad row.defaultMode

lemma analog_releaseAll (t : PinTable) (pins : List Pin) (q : Pin) :
    ((t.releaseAll pins).board.pad q).analog = (t.board.pad q).analog := by
  rw [pad_releaseAll]
  split
  · exact analog_restorePad _ _
  · rfl

lemma latched_releaseAll (t : PinTable) (pins : List Pin) (channel : DacChannel) :
    (t.releaseAll pins).board.latched channel = t.board.latched channel := by
  induction pins generalizing t with
  | nil => rfl
  | cons pin pins ih =>
    rw [releaseAll_cons, ih, release_getD]
    cases t.row? pin with
    | none => rfl
    | some row => exact latched_put t pin row.restore channel

/-! ## The refusal -/

/-- A pin that a subsystem is granted without having held it is a floating input. -/
lemma Orderly.floating_of_admits (h : t.Orderly) {pin : Pin} {row : Row}
    (hrow : t.row? pin = some row) (ha : row.admits s = true) (ho : row.owner ≠ some s) :
    row.defaultMode = .input .floating ∧ (t.board.pad pin).mode = .input .floating := by
  have hsound := h.sound.rows pin row hrow
  have hfree : row.owner = none := (Row.admits_iff.1 ha).2.resolve_right ho
  have hfloating : row.defaultMode = .input .floating := by
    have hprofile := h.profile_of_row hrow
    rcases PinProfile.stock_default pin with ⟨hmode, -⟩ | ⟨-, husb⟩
    · rw [← hprofile] at hmode
      exact hmode
    · rw [← hprofile] at husb
      rw [hsound.keeps_default .usb husb] at hfree
      cases hfree
  refine ⟨hfloating, ?_⟩
  rw [h.sound.pads pin row hrow, hsound.at_rest hfree, hfloating]

/-- What a subsystem without pins has claimed as analog is floating again when it is released. -/
lemma Granted.releaseAll_eq (h : t.Orderly) (hs : ∀ pin, t.owner? pin ≠ some s)
    (hg : Granted .analog s pins t t') : t'.releaseAll pins = t := by
  -- Only free pins were granted, and a free pin is at its defaults, with its pad.
  have hrest : ∀ pin ∈ pins, ∃ row, t.row? pin = some row ∧ row.restore = row ∧
      row.defaultMode = .input .floating ∧ (t.board.pad pin).mode = .input .floating := by
    intro pin hpin
    obtain ⟨row, hrow, ha⟩ := hg.admits hpin
    have howner : row.owner ≠ some s := fun ho => hs pin ((owner?_of_row hrow).trans ho)
    exact ⟨row, hrow, (h.sound.rows pin row hrow).restore_eq ha howner,
      h.floating_of_admits hrow ha howner⟩
  apply ext_pins
  · intro pin
    rw [row?_releaseAll, hg.row?]
    by_cases hp : pin ∈ pins
    · obtain ⟨row, hrow, hback, -⟩ := hrest pin hp
      have hclaimed : (claimedRow .analog s row).restore = row.restore := rfl
      rw [if_pos hp, if_pos hp, hrow, Option.map_some, Option.map_some, hclaimed, hback]
    · rw [if_neg hp, if_neg hp]
  · intro pin
    rw [pad_releaseAll, hg.pad, hg.row?]
    by_cases hp : pin ∈ pins
    · obtain ⟨row, hrow, -, hfloating, hpad⟩ := hrest pin hp
      have hclaimed : (claimedRow .analog s row).defaultMode = row.defaultMode := rfl
      rw [if_pos hp, if_pos hp, if_pos hp, hrow, Option.map_some, restorePad, hclaimed, hfloating]
      exact Pad.apply_floating_apply_analog hpad
    · rw [if_neg hp, if_neg hp]
  · intro channel
    rw [latched_releaseAll, hg.latched]

/-- A subsystem without pins claims some together: it has them all, or nothing has happened. -/
lemma Orderly.exec_claimAll (h : t.Orderly) (hs : ∀ pin, t.owner? pin ≠ some s)
    (pins : List Pin) :
    (∃ t', Granted .analog s pins t t' ∧ (claimAll .analog s pins).exec t = (.ok (), t')) ∨
    ∃ fault, (claimAll .analog s pins).exec t = (.error fault, t) := by
  rcases exec_claimFrom .analog s [] pins t with hok | ⟨fault, more, t', hg, he⟩
  · exact .inl hok
  · rw [List.nil_append, hg.releaseAll_eq h hs] at he
    exact .inr ⟨fault, he⟩

end PinTable

end Instrument
