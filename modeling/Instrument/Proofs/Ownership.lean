import Instrument.Proofs.StationRuns

/-!
# Ownership of the pins

What the pin table answers agrees with what the commands note, in every run: the converter and the
DAC own the pins that their commands have claimed and no others, in analog mode, USB keeps its four
pins, and a pin without owner is at rest.
-/

namespace Instrument

/-- Who owns which pins. `inputs` are the configured ones; `adc` and `dac` are the states of the two
commands that claim pins in groups. -/
structure Ownership (inputs : List Pin) (adc : Adc) (dac : Dac) (t : PinTable) : Prop where
  inputs_eq : adc.converter.inputs = inputs
  noted : adc.claimed = [] ∨ adc.claimed = inputs
  adc_pins : ∀ pin, pin ∈ t.ownedBy .adc ↔ pin ∈ adc.claimed
  dac_pins : ∀ pin,
    pin ∈ t.ownedBy .dac ↔ dac.started = true ∧ (pin = ⟨.a, 4⟩ ∨ pin = ⟨.a, 5⟩)
  running : adc.converter.running = true → adc.claimed = inputs ∧ inputs ≠ []
  converting : ∀ pin mode s, t.query pin = .ok (mode, some s) → s = .adc ∨ s = .dac →
    mode = .analog
  analog : ∀ pin owner, t.query pin = .ok (.analog, owner) → t.capable pin .adc = .ok true
  usb : ∀ pad : Fin 16, 9 ≤ pad.val → pad.val ≤ 12 →
    t.query ⟨.a, pad⟩ = .ok (.alternate 10, some .usb)
  claimed : ∀ pin mode s, t.query pin = .ok (mode, some s) →
    ¬ (pin.port = .a ∧ 9 ≤ pin.pad.val ∧ pin.pad.val ≤ 12) →
      (s = .gpio ∨ s = .adc ∨ s = .dac) ∧ t.capable pin s = .ok true
  at_rest : ∀ pin mode, t.query pin = .ok (mode, none) → mode = (PinProfile.stock pin).defaultMode
  known : ∀ pin, ∃ mode owner, t.query pin = .ok (mode, owner) ∧ (t.board.pad pin).mode = mode

namespace PinTable

variable {t : PinTable} {pin : Pin}

namespace Orderly

lemma defaultMode_of_row (h : t.Orderly) {row : Row} (hrow : t.row? pin = some row) :
    row.defaultMode = (PinProfile.stock pin).defaultMode :=
  congrArg PinProfile.defaultMode (h.profile_of_row hrow)

lemma defaultOwner_of_row (h : t.Orderly) {row : Row} (hrow : t.row? pin = some row) :
    row.defaultOwner = (PinProfile.stock pin).defaultOwner :=
  congrArg PinProfile.defaultOwner (h.profile_of_row hrow)

lemma capability_of_row (h : t.Orderly) {row : Row} (hrow : t.row? pin = some row) :
    row.capability = (PinProfile.stock pin).capability :=
  congrArg PinProfile.capability (h.profile_of_row hrow)

/-- USB holds its pins by default, so it never gives them up. -/
lemma query_usb (h : t.Orderly) (hpin : (PinProfile.stock pin).defaultOwner = some .usb) :
    t.query pin = .ok (.alternate 10, some .usb) := by
  obtain ⟨row, hrow, -⟩ := h.exists_row pin
  have howner : row.owner = some .usb :=
    (h.sound.rows pin row hrow).keeps_default .usb ((h.defaultOwner_of_row hrow).trans hpin)
  have hmode : row.mode = .alternate 10 := by
    rw [(h.rows pin row hrow).usb howner, h.defaultMode_of_row hrow]
    rcases PinProfile.stock_default pin with ⟨-, hnone⟩ | ⟨hmode, -⟩
    · rw [hnone] at hpin
      cases hpin
    · exact hmode
  exact query_eq_ok_iff.2 ⟨row, hrow, hmode, howner⟩

/-- A pin that is not of USB is not wired to it, so only a command can have claimed it. -/
lemma claimed_of_query (h : t.Orderly) {mode : PadMode} {s : Subsystem}
    (hq : t.query pin = .ok (mode, some s))
    (hpin : (PinProfile.stock pin).defaultOwner ≠ some .usb) :
    (s = .gpio ∨ s = .adc ∨ s = .dac) ∧ t.capable pin s = .ok true := by
  obtain ⟨row, hrow, -, howner⟩ := query_eq_ok_iff.1 hq
  have hnone : row.defaultOwner = none := by
    rw [h.defaultOwner_of_row hrow]
    rcases PinProfile.stock_default pin with ⟨-, hnone⟩ | ⟨-, husb⟩
    · exact hnone
    · exact absurd husb hpin
  have hcap : row.capability.contains s = true :=
    (h.sound.rows pin row hrow).capable hnone s howner
  have hs : s ≠ .usb := by
    rintro rfl
    rw [h.capability_of_row hrow, PinProfile.stock_capable_usb hpin] at hcap
    cases hcap
  refine ⟨?_, by rw [capable_of_row hrow, hcap]⟩
  rcases (h.rows pin row hrow).owners s howner with hg | ha | hd | hu
  · exact .inl hg
  · exact .inr (.inl ha)
  · exact .inr (.inr hd)
  · exact absurd hu hs

end Orderly

end PinTable

lemma mem_dacPins {pin : Pin} : pin ∈ Dac.pins ↔ pin = ⟨.a, 4⟩ ∨ pin = ⟨.a, 5⟩ := by
  have hpins : Dac.pins = [⟨.a, 4⟩, ⟨.a, 5⟩] := by decide
  simp [hpins]

lemma Holdings.ownership {inputs : List Pin} {adc : Adc} {dac : Dac} {t : PinTable}
    (h : Holdings inputs adc dac t) : Ownership inputs adc dac t where
  inputs_eq := h.inputs_eq
  noted := h.noted
  adc_pins pin := by rw [h.orderly.mem_ownedBy_iff (by decide), h.adc_holds]
  dac_pins pin := by rw [h.orderly.mem_ownedBy_iff (by decide), h.dac_holds, mem_dacPins]
  running := h.running
  converting pin mode s hq hs := by
    obtain ⟨row, hrow, hmode, howner⟩ := PinTable.query_eq_ok_iff.1 hq
    rw [← hmode]
    refine (h.orderly.rows pin row hrow).converting ?_
    rcases hs with rfl | rfl
    · exact .inl howner
    · exact .inr howner
  analog pin owner hq := by
    obtain ⟨row, hrow, hmode, -⟩ := PinTable.query_eq_ok_iff.1 hq
    rw [PinTable.capable_of_row hrow, (h.orderly.rows pin row hrow).analog hmode]
  usb pad hlow hhigh :=
    h.orderly.query_usb ((PinProfile.stock_default_usb_iff _).2 ⟨rfl, hlow, hhigh⟩)
  claimed pin mode s hq hpin :=
    h.orderly.claimed_of_query hq (mt (PinProfile.stock_default_usb_iff pin).1 hpin)
  at_rest pin mode hq := by
    obtain ⟨row, hrow, hmode, howner⟩ := PinTable.query_eq_ok_iff.1 hq
    rw [← hmode, (h.orderly.sound.rows pin row hrow).at_rest howner,
      h.orderly.defaultMode_of_row hrow]
  known pin := by
    obtain ⟨row, hrow, -⟩ := h.orderly.exists_row pin
    exact ⟨row.mode, row.owner, PinTable.query_eq_ok_iff.2 ⟨row, hrow, rfl, rfl⟩,
      h.orderly.sound.pads pin row hrow⟩

namespace Station

/-- Whatever the host asks for, whatever time passes and whichever lines to the host get lost, the
pins belong to those whose commands say so. -/
theorem ownership_of_run {config : Config} {console : Console} {s : Station}
    (hnew : new config console = .ok s) (script : List Stimulus) :
    ∃ inputs adc dac, config.adc.inputs.mapM Rig.inputPin = .ok inputs ∧
      (s.run script).registry.commands = [.version, .status, .gpio, .adc adc, .dac dac] ∧
      Ownership inputs adc dac (s.run script).rig.pins := by
  obtain ⟨inputs, hi, hs⟩ := holds_new hnew
  obtain ⟨adc, dac, hc, hold⟩ := run_invariant holds_undergo hs script
  exact ⟨inputs, adc, dac, hi, hc, hold.ownership⟩

/-- The stock configuration is accepted; its instrument converts, drives the DAC and is reset. -/
theorem ownership_of_stock_run : ∃ s, new {} .fresh = .ok s ∧
    let script : List Stimulus :=
      [.handle "adc:start", .execute "dac:start", .elapse 5000, .shell "reset"]
    ∃ inputs adc dac, (Config.adc {}).inputs.mapM Rig.inputPin = .ok inputs ∧
      (s.run script).registry.commands = [.version, .status, .gpio, .adc adc, .dac dac] ∧
      Ownership inputs adc dac (s.run script).rig.pins := by
  have hok : (new {} .fresh).isOk = true := by decide +kernel
  obtain ⟨s, hnew⟩ := exists_of_isOk hok
  exact ⟨s, hnew, ownership_of_run hnew _⟩

end Station

end Instrument
