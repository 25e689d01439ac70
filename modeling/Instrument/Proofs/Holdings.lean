import Instrument.Proofs.Replies
import Instrument.Proofs.RolledBack

/-!
# Who holds which pins

Two commands keep a note of the pins they have claimed. `Holdings` says how the notes and the table
agree: the converter's command holds the pins it has noted, which are all of the inputs or none,
and the DAC's command holds both of its pads exactly while it is started. Every line keeps this,
also one that fails in the middle, because each single change of the pins does.
-/

namespace Instrument

/-- The notes of the two commands that claim pins in groups, beside the table. -/
structure Holdings (inputs : List Pin) (adc : Adc) (dac : Dac) (t : PinTable) : Prop where
  orderly : t.Orderly
  wired : ∀ pin ∈ inputs, (PinProfile.stock pin).capability.contains .adc = true
  inputs_eq : adc.converter.inputs = inputs
  noted : adc.claimed = [] ∨ adc.claimed = inputs
  running : adc.converter.running = true → adc.claimed = inputs ∧ inputs ≠ []
  adc_holds : ∀ pin, t.owner? pin = some .adc ↔ pin ∈ adc.claimed
  dac_holds : ∀ pin, t.owner? pin = some .dac ↔ dac.started = true ∧ pin ∈ Dac.pins

lemma PinProfile.stock_dac_pads_analog :
    ∀ pin ∈ Dac.pins, (stock pin).capability.contains .adc = true := by
  decide

namespace Holdings

variable {inputs : List Pin} {adc adc' : Adc} {dac : Dac} {t t' : PinTable}

/-- At the start neither command holds a pin. -/
lemma stock (hwired : ∀ pin ∈ inputs, (PinProfile.stock pin).capability.contains .adc = true)
    (hin : adc.converter.inputs = inputs) (hcl : adc.claimed = [])
    (hidle : adc.converter.running = false) : Holdings inputs adc ⟨false⟩ .stock where
  orderly := PinTable.orderly_stock
  wired := hwired
  inputs_eq := hin
  noted := .inl hcl
  running hrun := by
    rw [hidle] at hrun
    cases hrun
  adc_holds pin := by
    rw [PinTable.owner?_stock, hcl]
    exact iff_of_false (PinProfile.stock_defaultOwner_ne pin (by decide)) nofun
  dac_holds pin := by
    rw [PinTable.owner?_stock]
    exact iff_of_false (PinProfile.stock_defaultOwner_ne pin (by decide)) nofun

lemma adc_free (h : Holdings inputs adc dac t) (hcl : adc.claimed = []) (pin : Pin) :
    t.owner? pin ≠ some .adc := by
  simp [h.adc_holds, hcl]

lemma dac_free (h : Holdings inputs adc dac t) (hs : dac.started = false) (pin : Pin) :
    t.owner? pin ≠ some .dac := by
  simp [h.dac_holds, hs]

/-- The note of the converter agrees with the table when its unit rests or its pins are noted. -/
lemma with_adc (h : Holdings inputs adc dac t) (hin : adc'.converter.inputs = inputs)
    (hcl : adc'.claimed = adc.claimed)
    (hrun : adc'.converter.running = true → adc.claimed = inputs ∧ inputs ≠ []) :
    Holdings inputs adc' dac t where
  orderly := h.orderly
  wired := h.wired
  inputs_eq := hin
  noted := hcl ▸ h.noted
  running := hcl ▸ hrun
  adc_holds := hcl ▸ h.adc_holds
  dac_holds := h.dac_holds

/-- A change that takes no pin from the two commands and gives them none. -/
lemma of_owners (h : Holdings inputs adc dac t) (ho : t'.Orderly)
    (hown : ∀ pin s, s = .adc ∨ s = .dac → (t'.owner? pin = some s ↔ t.owner? pin = some s)) :
    Holdings inputs adc dac t' where
  orderly := ho
  wired := h.wired
  inputs_eq := h.inputs_eq
  noted := h.noted
  running := h.running
  adc_holds pin := (hown pin .adc (.inl rfl)).trans (h.adc_holds pin)
  dac_holds pin := (hown pin .dac (.inr rfl)).trans (h.dac_holds pin)

lemma onBoard (h : Holdings inputs adc dac t) {board : Board} (hs : t.Step { t with board }) :
    Holdings inputs adc dac { t with board } :=
  h.of_owners (h.orderly.onBoard hs) fun _ _ _ => Iff.rfl

lemma claim_gpio (h : Holdings inputs adc dac t) {pin : Pin} {mode : PadMode}
    (hw : mode = .analog → (PinProfile.stock pin).capability.contains .adc = true)
    (hc : t.claim pin mode .gpio = .ok t') : Holdings inputs adc dac t' := by
  have hg : t.Granted mode .gpio [pin] t' := .cons hc .nil
  refine h.of_owners (h.orderly.granted hg (.gpio mode) ?_) fun q s hs => ?_
  · intro hm q hq
    rw [List.mem_singleton.1 hq]
    exact hw hm
  · refine hg.owner?_eq_iff_of_ne ?_
    rcases hs with rfl | rfl <;> decide

/-- A release of pins that belong to neither command. -/
lemma releaseAll (h : Holdings inputs adc dac t) {pins : List Pin}
    (hp : ∀ pin ∈ pins, t.owner? pin ≠ some .adc ∧ t.owner? pin ≠ some .dac) :
    Holdings inputs adc dac (t.releaseAll pins) := by
  refine h.of_owners (h.orderly.releaseAll pins) fun q s hs => ?_
  have husb : s ≠ .usb := by rcases hs with rfl | rfl <;> decide
  rw [h.orderly.owner?_releaseAll_eq_iff husb]
  refine and_iff_right_of_imp fun ho hq => ?_
  obtain ⟨hadc, hdac⟩ := hp q hq
  rcases hs with rfl | rfl
  · exact hadc ho
  · exact hdac ho

lemma claim_inputs (h : Holdings inputs adc dac t) (hcl : adc.claimed = [])
    (hg : t.Granted .analog .adc inputs t') :
    Holdings inputs { adc with claimed := inputs } dac t' where
  orderly := h.orderly.granted hg .adc fun _ => h.wired
  wired := h.wired
  inputs_eq := h.inputs_eq
  noted := .inr rfl
  running hrun := ⟨rfl, (h.running hrun).2⟩
  adc_holds pin := by
    rw [hg.owner?_eq_self_iff, h.adc_holds, hcl]
    simp
  dac_holds pin := (hg.owner?_eq_iff_of_ne (by decide)).trans (h.dac_holds pin)

lemma release_inputs (h : Holdings inputs adc dac t) (hin : adc'.converter.inputs = inputs)
    (hidle : adc'.converter.running = false) (hcl : adc'.claimed = []) :
    Holdings inputs adc' dac (t.releaseAll adc.claimed) where
  orderly := h.orderly.releaseAll _
  wired := h.wired
  inputs_eq := hin
  noted := .inl hcl
  running hrun := by
    rw [hidle] at hrun
    cases hrun
  adc_holds pin := by
    rw [h.orderly.owner?_releaseAll_eq_iff (by decide), h.adc_holds, hcl]
    exact iff_of_false (fun ho => ho.1 ho.2) nofun
  dac_holds pin := by
    rw [h.orderly.owner?_releaseAll_eq_iff (by decide), ← h.dac_holds]
    refine and_iff_right_of_imp fun hdac hp => ?_
    have hadc : t.owner? pin = some .adc := (h.adc_holds pin).2 hp
    rw [hadc] at hdac
    cases hdac

lemma claim_pads (h : Holdings inputs adc dac t) (hg : t.Granted .analog .dac Dac.pins t') :
    Holdings inputs adc ⟨true⟩ t' where
  orderly := h.orderly.granted hg .dac fun _ => PinProfile.stock_dac_pads_analog
  wired := h.wired
  inputs_eq := h.inputs_eq
  noted := h.noted
  running := h.running
  adc_holds pin := (hg.owner?_eq_iff_of_ne (by decide)).trans (h.adc_holds pin)
  dac_holds pin := by
    rw [hg.owner?_eq_self_iff, h.dac_holds]
    exact ⟨fun ho => ⟨rfl, ho.elim id And.right⟩, fun ho => .inl ho.2⟩

lemma release_pads (h : Holdings inputs adc dac t) (hs : dac.started = true) :
    Holdings inputs adc ⟨false⟩ (t.releaseAll Dac.pins) where
  orderly := h.orderly.releaseAll _
  wired := h.wired
  inputs_eq := h.inputs_eq
  noted := h.noted
  running := h.running
  adc_holds pin := by
    rw [h.orderly.owner?_releaseAll_eq_iff (by decide), ← h.adc_holds]
    refine and_iff_right_of_imp fun hadc hp => ?_
    have hdac : t.owner? pin = some .dac := (h.dac_holds pin).2 ⟨hs, hp⟩
    rw [hadc] at hdac
    cases hdac
  dac_holds pin := by
    rw [h.orderly.owner?_releaseAll_eq_iff (by decide), h.dac_holds]
    exact iff_of_false (fun ho => ho.1 ho.2.2) nofun

end Holdings

end Instrument
