import Instrument.Proofs.PinGroups

/-!
# The stock board in order

The commands claim pins of the stock board for GPIO in any mode, and for the converter and the DAC
in analog mode. `Orderly` collects what is then true of every row; claims of these kinds, releases
and changes of the board alone keep it.
-/

namespace Instrument

namespace PinProfile

lemma stock_default (pin : Pin) :
    (stock pin).defaultMode = .input .floating ∧ (stock pin).defaultOwner = none ∨
    (stock pin).defaultMode = .alternate 10 ∧ (stock pin).defaultOwner = some .usb := by
  simp only [stock]
  split
  · exact .inr ⟨rfl, rfl⟩
  · exact .inl ⟨rfl, rfl⟩

lemma stock_defaultOwner_ne (pin : Pin) {s : Subsystem} (hs : s ≠ .usb) :
    (stock pin).defaultOwner ≠ some s := by
  rcases stock_default pin with ⟨-, ho⟩ | ⟨-, ho⟩
  · rw [ho]
    exact nofun
  · rw [ho]
    exact fun h => hs (Option.some.inj h).symm

lemma stock_default_usb_iff (pin : Pin) :
    (stock pin).defaultOwner = some .usb ↔ pin.port = .a ∧ 9 ≤ pin.pad.val ∧ pin.pad.val ≤ 12 := by
  obtain ⟨port, pad⟩ := pin
  cases port <;> revert pad <;> decide

lemma stock_capable_usb {pin : Pin} (h : (stock pin).defaultOwner ≠ some .usb) :
    (stock pin).capability.contains .usb = false := by
  by_cases hc : (Capability.ofList (wiring pin)).contains .usb = true
  · exact absurd (by simp only [stock, if_pos hc]) h
  · simpa only [stock, if_neg hc, Bool.not_eq_true] using hc

lemma pin_stock (pin : Pin) : (stock pin).pin = pin := by
  simp only [stock]
  split <;> rfl

lemma find?_stockTable (pin : Pin) :
    stockTable.reverse.find? (fun p => p.pin = pin) = some (stock pin) := by
  cases hf : stockTable.reverse.find? fun p => p.pin = pin with
  | none =>
    have hmem : stock pin ∈ stockTable.reverse :=
      List.mem_reverse.2 (List.mem_map_of_mem (Pin.mem_all pin))
    have hno := List.find?_eq_none.1 hf _ hmem
    simp [pin_stock] at hno
  | some p =>
    have hpin : p.pin = pin := by simpa using List.find?_some hf
    obtain ⟨q, -, rfl⟩ := List.mem_map.1 (List.mem_reverse.1 (List.mem_of_find?_eq_some hf))
    rw [pin_stock] at hpin
    rw [hpin]

end PinProfile

/-! ## Orderly rows -/

/-- A row as the commands leave it. -/
structure Row.Orderly (row : Row) : Prop where
  owners : ∀ s, row.owner = some s → s = .gpio ∨ s = .adc ∨ s = .dac ∨ s = .usb
  converting : row.owner = some .adc ∨ row.owner = some .dac → row.mode = .analog
  analog : row.mode = .analog → row.capability.contains .adc = true
  usb : row.owner = some .usb → row.mode = row.defaultMode

/-- The subsystems that the commands claim pins for, with the modes that they claim. -/
inductive Claims : Subsystem → PadMode → Prop
  | gpio (mode : PadMode) : Claims .gpio mode
  | adc : Claims .adc .analog
  | dac : Claims .dac .analog

namespace Row

lemma profile_ofProfile (p : PinProfile) {pin : Pin} (hp : p.pin = pin) :
    (ofProfile p).profile pin = p := by
  subst hp
  rfl

lemma orderly_restore {row : Row} {pin : Pin} (h : row.profile pin = .stock pin) :
    row.restore.Orderly := by
  have hmode : row.defaultMode = (PinProfile.stock pin).defaultMode := by rw [← h]; rfl
  have howner : row.defaultOwner = (PinProfile.stock pin).defaultOwner := by rw [← h]; rfl
  rcases PinProfile.stock_default pin with ⟨hm, ho⟩ | ⟨hm, ho⟩ <;>
    rw [← hmode] at hm <;> rw [← howner] at ho <;>
    constructor <;> simp [restore, hm, ho]

lemma orderly_claimed {row : Row} {s : Subsystem} {mode : PadMode} (hc : Claims s mode)
    (hw : mode = .analog → row.capability.contains .adc = true) :
    (PinTable.claimedRow mode s row).Orderly := by
  cases hc <;> constructor <;> simp_all [PinTable.claimedRow]

end Row

namespace PinTable

/-- The table of the stock board with all of its rows in order. -/
structure Orderly (t : PinTable) : Prop where
  sound : t.Sound
  stock : ∀ pin, t.profile? pin = some (.stock pin)
  rows : ∀ pin row, t.row? pin = some row → row.Orderly

/-- The owner of a pin, if it has one. -/
def owner? (t : PinTable) (pin : Pin) : Option Subsystem :=
  (t.row? pin).bind (·.owner)

lemma owner?_of_row {t : PinTable} {pin : Pin} {row : Row} (h : t.row? pin = some row) :
    t.owner? pin = row.owner := by
  rw [owner?, h, Option.bind_some]

variable {t t' : PinTable} {pins : List Pin} {s : Subsystem} {mode : PadMode}

lemma Orderly.exists_row (h : t.Orderly) (pin : Pin) :
    ∃ row, t.row? pin = some row ∧ row.profile pin = .stock pin :=
  Option.map_eq_some_iff.1 (h.stock pin)

lemma Orderly.profile_of_row (h : t.Orderly) {pin : Pin} {row : Row}
    (hrow : t.row? pin = some row) : row.profile pin = .stock pin := by
  have hs := h.stock pin
  rw [profile?, hrow] at hs
  exact Option.some.inj hs

lemma orderly_stock : PinTable.stock.Orderly where
  sound := sound_new _ _
  stock pin := (profile?_new _ _ pin).trans (PinProfile.find?_stockTable pin)
  rows pin row hrow := by
    rw [PinTable.stock, row?_new, PinProfile.find?_stockTable, Option.map_some] at hrow
    have hprofile : (Row.ofProfile (.stock pin)).profile pin = .stock pin := by
      rw [Row.profile_ofProfile (.stock pin) (PinProfile.pin_stock pin)]
    have hrestored : row = (Row.ofProfile (.stock pin)).restore := (Option.some.inj hrow).symm
    rw [hrestored]
    exact Row.orderly_restore hprofile

/-- Rows that are restored or left alone stay in order. -/
lemma Orderly.of_restored (h : t.Orderly) (hs : t.Steps t')
    (hrow : ∀ pin, t'.row? pin = (t.row? pin).map Row.restore ∨ t'.row? pin = t.row? pin) :
    t'.Orderly where
  sound := h.sound.steps hs
  stock pin := (profile?_steps hs pin).trans (h.stock pin)
  rows pin row hr := by
    rcases hrow pin with hp | hp
    · obtain ⟨before, hb, hstock⟩ := h.exists_row pin
      rw [hp, hb, Option.map_some] at hr
      cases hr
      exact Row.orderly_restore hstock
    · exact h.rows pin row (hp ▸ hr)

lemma Orderly.releaseAll (h : t.Orderly) (pins : List Pin) : (t.releaseAll pins).Orderly := by
  refine h.of_restored (steps_releaseAll t pins) fun pin => ?_
  rw [row?_releaseAll]
  by_cases hp : pin ∈ pins
  · exact .inl (if_pos hp)
  · exact .inr (if_neg hp)

lemma Orderly.resetAll (h : t.Orderly) : t.resetAll.Orderly :=
  h.of_restored (.single .resetAll) fun pin => .inl (row?_resetAll t pin)

lemma Orderly.onBoard (h : t.Orderly) {board : Board} (hs : t.Step { t with board }) :
    ({ t with board } : PinTable).Orderly :=
  h.of_restored (.single hs) fun _ => .inr rfl

lemma Orderly.granted (h : t.Orderly) (hg : Granted mode s pins t t') (hc : Claims s mode)
    (hw : mode = .analog → ∀ pin ∈ pins, (PinProfile.stock pin).capability.contains .adc = true) :
    t'.Orderly where
  sound := h.sound.steps hg.steps
  stock pin := (profile?_steps hg.steps pin).trans (h.stock pin)
  rows pin row hr := by
    rw [hg.row?] at hr
    by_cases hp : pin ∈ pins
    · obtain ⟨before, hb, hstock⟩ := h.exists_row pin
      rw [if_pos hp, hb, Option.map_some] at hr
      cases hr
      refine Row.orderly_claimed hc fun hm => ?_
      have hwired := hw hm pin hp
      rw [← hstock] at hwired
      exact hwired
    · rw [if_neg hp] at hr
      exact h.rows pin row hr

lemma owner?_stock (pin : Pin) :
    PinTable.stock.owner? pin = (PinProfile.stock pin).defaultOwner := by
  rw [owner?, PinTable.stock, row?_new, PinProfile.find?_stockTable]
  rfl

lemma Orderly.owner?_releaseAll (h : t.Orderly) (pins : List Pin) (pin : Pin) :
    (t.releaseAll pins).owner? pin =
      if pin ∈ pins then (PinProfile.stock pin).defaultOwner else t.owner? pin := by
  rw [owner?, row?_releaseAll]
  by_cases hp : pin ∈ pins
  · obtain ⟨row, hrow, hstock⟩ := h.exists_row pin
    rw [if_pos hp, if_pos hp, hrow, ← hstock]
    rfl
  · rw [if_neg hp, if_neg hp, owner?]

/-- A release takes pins from whoever had claimed them, and gives nobody any. -/
lemma Orderly.owner?_releaseAll_eq_iff (h : t.Orderly) (hs : s ≠ .usb) {pin : Pin} :
    (t.releaseAll pins).owner? pin = some s ↔ pin ∉ pins ∧ t.owner? pin = some s := by
  rw [h.owner?_releaseAll]
  by_cases hp : pin ∈ pins
  · rw [if_pos hp]
    exact iff_of_false (PinProfile.stock_defaultOwner_ne pin hs) fun ho => ho.1 hp
  · rw [if_neg hp]
    exact ⟨fun ho => ⟨hp, ho⟩, And.right⟩

lemma Orderly.owner?_resetAll (h : t.Orderly) (pin : Pin) :
    t.resetAll.owner? pin = (PinProfile.stock pin).defaultOwner := by
  obtain ⟨row, hrow, hstock⟩ := h.exists_row pin
  rw [owner?, row?_resetAll, hrow, ← hstock]
  rfl

lemma mem_ownedBy {pin : Pin} : pin ∈ t.ownedBy s ↔
    ∃ row, t.row? pin = some row ∧ row.owner = some s ∧ row.defaultOwner ≠ some s := by
  simp [ownedBy, Pin.mem_all, Row.claimedBy, Option.any_eq_true]

/-- Only USB pins have a default owner, so whoever else holds a pin has claimed it. -/
lemma Orderly.mem_ownedBy_iff (h : t.Orderly) (hs : s ≠ .usb) {pin : Pin} :
    pin ∈ t.ownedBy s ↔ t.owner? pin = some s := by
  obtain ⟨row, hrow, hstock⟩ := h.exists_row pin
  have hdefault : row.defaultOwner ≠ some s := by
    have hne := PinProfile.stock_defaultOwner_ne pin hs
    rw [← hstock] at hne
    exact hne
  rw [mem_ownedBy, owner?_of_row hrow]
  refine ⟨fun ⟨row', hrow', ho, _⟩ => ?_, fun ho => ⟨row, hrow, ho, hdefault⟩⟩
  rw [hrow] at hrow'
  cases hrow'
  exact ho

lemma Granted.owner? (hg : Granted mode s pins t t') (pin : Pin) :
    t'.owner? pin = if pin ∈ pins then some s else t.owner? pin := by
  rw [PinTable.owner?, hg.row?]
  by_cases hp : pin ∈ pins
  · obtain ⟨row, hrow, -⟩ := hg.admits hp
    rw [if_pos hp, if_pos hp, hrow]
    rfl
  · rw [if_neg hp, if_neg hp, PinTable.owner?]

lemma Granted.owner?_eq_self_iff (hg : Granted mode s pins t t') {pin : Pin} :
    t'.owner? pin = some s ↔ pin ∈ pins ∨ t.owner? pin = some s := by
  rw [hg.owner?]
  by_cases hp : pin ∈ pins <;> simp [hp]

/-- A granted pin had no owner but perhaps the one that claimed it, so nobody else loses a pin. -/
lemma Granted.owner?_eq_iff_of_ne (hg : Granted mode s pins t t') {s' : Subsystem} (hs : s ≠ s')
    {pin : Pin} : t'.owner? pin = some s' ↔ t.owner? pin = some s' := by
  rw [hg.owner?]
  by_cases hp : pin ∈ pins
  · obtain ⟨row, hrow, ha⟩ := hg.admits hp
    rw [if_pos hp, owner?_of_row hrow]
    refine iff_of_false (fun ho => hs (Option.some.inj ho)) fun ho => ?_
    rcases (Row.admits_iff.1 ha).2 with hfree | hself
    · rw [hfree] at ho
      cases ho
    · rw [hself] at ho
      exact hs (Option.some.inj ho)
  · rw [if_neg hp]

end PinTable

end Instrument
