import Instrument.Proofs.Holdings

/-!
# Lines keep the holdings

Each command carries out a line as a sequence of checks, replies and changes of the pins. The
checks and replies do not touch what the holdings speak of, and the changes keep them, so they hold
after the line however far it came.
-/

namespace Instrument

open Act

lemma Rig.OnlyReplies.keeps_pins {α : Type} {act : Act Rig α} {p : PinTable → Prop}
    (h : OnlyReplies act) : Keeps (fun rig => p rig.pins) act :=
  h.keeps fun _ _ hp => hp

lemma Rig.keeps_onPins {p : PinTable → Prop} {f : PinTable → Except Fault PinTable}
    (hf : ∀ t t', p t → f t = .ok t' → p t') : Keeps (fun rig => p rig.pins) (onPins f) :=
  fun rig h => keeps_update hf rig.pins h

variable {inputs : List Pin} {adc : Adc} {dac : Dac}

namespace Gpio

lemma onlyReplies_readLevel (pin : Pin) : Rig.OnlyReplies (readLevel pin) :=
  Rig.onlyReplies_get_bind fun _ => Rig.onlyReplies_onConsole _

lemma onlyReplies_query (pin : Pin) : Rig.OnlyReplies (query pin) := by
  refine Rig.onlyReplies_get_bind fun rig => Rig.onlyReplies_bind (Rig.onlyReplies_check _) ?_
  rintro ⟨mode, owner⟩
  exact Rig.onlyReplies_bind (Rig.onlyReplies_onConsole _) fun _ => Rig.onlyReplies_onConsole _

/-- The check before an analog mode is about the board alone. -/
lemma wired_of_checkAnalog {t : PinTable} (h : t.Orderly) {pin : Pin} {mode : PadMode}
    (hc : checkAnalog t pin mode = .ok ()) (hm : mode = .analog) :
    (PinProfile.stock pin).capability.contains .adc = true := by
  obtain ⟨row, hrow, hstock⟩ := h.exists_row pin
  rw [checkAnalog, if_pos hm, PinTable.capable_of_row hrow] at hc
  rw [← hstock]
  cases hw : row.capability.contains .adc with
  | true => exact hw
  | false =>
    rw [hw] at hc
    cases hc

lemma keeps_claim {pin : Pin} {mode : PadMode}
    (hw : mode = .analog → (PinProfile.stock pin).capability.contains .adc = true) :
    Keeps (fun rig => Holdings inputs adc dac rig.pins) (Rig.onPins (·.claim pin mode .gpio)) :=
  Rig.keeps_onPins fun _ _ h hc => h.claim_gpio hw hc

lemma keeps_configure (pin : Pin) (line : Line) :
    Keeps (fun rig => Holdings inputs adc dac rig.pins) (configure pin line) := by
  refine keeps_bind (keeps_check _) ?_
  rintro ⟨mode, used⟩
  refine keeps_bind (keeps_check _) fun _ => keeps_get_bind fun rig h => ?_
  rw [exec_bind, exec_check]
  cases hc : checkAnalog rig.pins pin mode with
  | error fault => exact h
  | ok u =>
    have hw := wired_of_checkAnalog h.orderly hc
    exact keeps_bind (keeps_claim hw) (fun _ => (Rig.onlyReplies_debug _).keeps_pins) rig h

lemma keeps_drive (pin : Pin) (high : Bool) :
    Keeps (fun rig => Holdings inputs adc dac rig.pins) (drive pin high) := by
  refine keeps_bind (keeps_claim nofun) fun _ => ?_
  refine keeps_bind (Rig.keeps_onPins ?_) fun _ => (Rig.onlyReplies_debug _).keeps_pins
  intro t t' h hw
  cases hw
  exact h.onBoard (PinTable.step_write t pin high)

lemma keeps_release (pin : Pin) :
    Keeps (fun rig => Holdings inputs adc dac rig.pins) (Rig.onPins (releaseIn pin)) := by
  refine Rig.keeps_onPins fun t t' h hr => ?_
  obtain ⟨row, hrow, -⟩ := h.orderly.exists_row pin
  rw [releaseIn, PinTable.query_eq_ok_iff.2 ⟨row, hrow, rfl, rfl⟩] at hr
  change (if row.owner = none ∨ row.owner = some .gpio then _ else _) = _ at hr
  by_cases ho : row.owner = none ∨ row.owner = some .gpio
  · rw [if_pos ho] at hr
    have hlist : t' = t.releaseAll [pin] := by
      rw [PinTable.releaseAll_cons, hr]
      rfl
    rw [hlist]
    refine h.releaseAll fun q hqm => ?_
    rw [List.mem_singleton.1 hqm, PinTable.owner?_of_row hrow]
    rcases ho with ho | ho <;> rw [ho] <;> exact ⟨nofun, nofun⟩
  · rw [if_neg ho] at hr
    cases hr

/-- A gpio line keeps the holdings of the other commands. -/
lemma keeps_dispatch (line : Line) :
    Keeps (fun rig => Holdings inputs adc dac rig.pins) (dispatch line) := by
  unfold dispatch
  split
  · refine keeps_bind (keeps_check _) fun action => keeps_bind (keeps_check _) fun pin => ?_
    cases action with
    | configure => exact keeps_configure pin line
    | set => exact keeps_bind (keeps_check _) fun _ => keeps_drive pin true
    | clear => exact keeps_bind (keeps_check _) fun _ => keeps_drive pin false
    | get =>
      exact keeps_bind (keeps_check _) fun _ => (onlyReplies_readLevel pin).keeps_pins
    | query => exact keeps_bind (keeps_check _) fun _ => (onlyReplies_query pin).keeps_pins
    | release => exact keeps_bind (keeps_check _) fun _ => keeps_release pin
  · exact keeps_throw _

lemma holdings_reset {rig : Rig} (h : Holdings inputs adc dac rig.pins) :
    Holdings inputs adc dac (reset rig).pins := by
  refine h.releaseAll fun pin hp => ?_
  rw [(h.orderly.mem_ownedBy_iff (by decide)).1 hp]
  exact ⟨nofun, nofun⟩

end Gpio

namespace Rig

@[simp] lemma pins_settle (rig : Rig) : rig.settle.pins = rig.pins := by
  unfold settle
  split <;> rfl

@[simp] lemma pins_startConsumers (rig : Rig) : rig.startConsumers.pins = rig.pins :=
  pins_settle _

/-- Conversions read the pins and leave them as they are. -/
@[simp] lemma pins_convert (c : Converter) (n : Nat) (rig : Rig) :
    (rig.convert c n).pins = rig.pins := by
  induction n with
  | zero => rfl
  | succ n ih => rwa [convert_succ, pins_settle]

end Rig

/-- A resting converter starts exactly when it has inputs; only its timer changes. -/
lemma Converter.exec_start (mode : Sampling) {c : Converter} (hidle : c.running = false) :
    (c.inputs = [] ∧
      (start mode).exec c = (.error (.notReady "no converter inputs configured"), c)) ∨
    c.inputs ≠ [] ∧ (start mode).exec c = (.ok (), { c with timer := some mode.timer }) := by
  by_cases hin : c.inputs = []
  · refine .inl ⟨hin, ?_⟩
    simp [start, exec_update, hidle, hin]
  · refine .inr ⟨hin, ?_⟩
    simp [start, exec_update, hidle, hin]

namespace Adc

/-- The holdings, as they stand beside the state of the converter's command. -/
def Holds (inputs : List Pin) (dac : Dac) (s : Adc × Rig) : Prop :=
  Holdings inputs s.1 dac s.2.pins

/-- Without pins, the command claims all inputs, or it is refused and nothing has happened. -/
lemma exec_claimInputs {rig : Rig} (h : Holdings inputs adc dac rig.pins)
    (hcl : adc.claimed = []) :
    (∃ t', rig.pins.Granted .analog .adc inputs t' ∧ claimInputs.exec (adc, rig) =
      (.ok (), { adc with claimed := inputs }, { rig with pins := t' })) ∨
    ∃ fault, ((PinTable.claimAll .analog .adc inputs).exec rig.pins).1 = .error fault ∧
      claimInputs.exec (adc, rig) = (.error fault, adc, rig) := by
  rcases h.orderly.exec_claimAll (h.adc_free hcl) inputs with ⟨t', hg, he⟩ | ⟨fault, he⟩
  · refine .inl ⟨t', hg, ?_⟩
    simp only [claimInputs, exec, h.inputs_eq] at he ⊢
    rw [he]
  · refine .inr ⟨fault, congrArg Prod.fst he, ?_⟩
    simp only [claimInputs, exec, h.inputs_eq] at he ⊢
    rw [he]

/-- The unit starts exactly when it has inputs; otherwise the pins are given back. -/
lemma exec_startUnits {rig : Rig} (hidle : adc.converter.running = false) :
    (adc.converter.inputs = [] ∧ startUnits.exec (adc, rig) =
      (.error (.notReady "no converter inputs configured"),
        releaseInputs (adc, rig.startConsumers))) ∨
    adc.converter.inputs ≠ [] ∧ startUnits.exec (adc, rig) =
      (.ok (), { adc with converter := { adc.converter with timer := some adc.mode.timer } },
        rig.startConsumers) := by
  rcases Converter.exec_start adc.mode hidle with ⟨hin, he⟩ | ⟨hin, he⟩
  · refine .inl ⟨hin, ?_⟩
    simp only [startUnits, exec] at he ⊢
    rw [he]
  · refine .inr ⟨hin, ?_⟩
    simp only [startUnits, exec] at he ⊢
    rw [he]

lemma holdings_startUnits {rig : Rig} (h : Holdings inputs adc dac rig.pins)
    (hcl : adc.claimed = inputs) (hidle : adc.converter.running = false) :
    Holds inputs dac (startUnits.exec (adc, rig)).2 := by
  rcases exec_startUnits hidle with ⟨-, he⟩ | ⟨hin, he⟩
  · have hr : Holdings inputs { adc with claimed := [] } dac (rig.pins.releaseAll adc.claimed) :=
      h.release_inputs h.inputs_eq hidle rfl
    rw [he]
    simpa only [Holds, releaseInputs, Rig.pins_startConsumers] using hr
  · have hw : Holdings inputs { adc with
        converter := { adc.converter with timer := some adc.mode.timer } } dac rig.pins :=
      h.with_adc h.inputs_eq rfl fun _ => ⟨hcl, h.inputs_eq ▸ hin⟩
    rw [he]
    simpa only [Holds, Rig.pins_startConsumers] using hw

lemma keeps_reply {α : Type} {act : Act Rig α} (h : Rig.OnlyReplies act) :
    Keeps (Holds inputs dac) (beside act) :=
  keeps_beside fun _ => h.keeps fun _ _ => id

/-- What is left of a start once the inputs are claimed. -/
lemma holdings_startUnits_debug (text : String) {rig : Rig}
    (h : Holdings inputs adc dac rig.pins) (hcl : adc.claimed = inputs)
    (hidle : adc.converter.running = false) :
    Holds inputs dac
      ((startUnits >>= fun _ => beside (Rig.debug text)).exec (adc, rig)).2 := by
  have hu := holdings_startUnits h hcl hidle
  rw [exec_bind]
  rcases he : startUnits.exec (adc, rig) with ⟨_ | _, s⟩
  · rw [he] at hu
    exact hu
  · rw [he] at hu
    exact keeps_reply (Rig.onlyReplies_debug text) s hu

lemma keeps_start : Keeps (Holds inputs dac) start := by
  refine keeps_get_bind ?_
  rintro ⟨adc, rig⟩ h
  dsimp only
  by_cases hr : adc.converter.running = true
  · rw [if_pos hr]
    exact h
  · have hidle : adc.converter.running = false := by simpa using hr
    rw [if_neg hr]
    -- A one-shot that is over keeps its pins, so they may be claimed already.
    by_cases hcl : adc.claimed = []
    · rw [if_pos (List.isEmpty_iff.2 hcl), exec_bind]
      rcases exec_claimInputs h hcl with ⟨t', hg, he⟩ | ⟨fault, -, he⟩
      · rw [he]
        exact holdings_startUnits_debug _ (Holdings.claim_inputs h hcl hg) rfl hidle
      · rw [he]
        exact h
    · rw [if_neg (mt List.isEmpty_iff.1 hcl)]
      exact holdings_startUnits_debug _ h (Holdings.noted h |>.resolve_left hcl) hidle

/-- Whatever becomes of the unit, it rests when its pins are given back. -/
lemma holds_release_halted {s : Adc × Rig} (h : Holds inputs dac s) :
    Holds inputs dac (releaseInputs (halt s)) := by
  have hr : Holdings inputs { s.1 with converter := s.1.converter.stop, claimed := [] } dac
      (s.2.pins.releaseAll s.1.claimed) := h.release_inputs h.inputs_eq rfl rfl
  simpa only [Holds, releaseInputs, halt, Rig.pins_convert] using hr

lemma keeps_stop : Keeps (Holds inputs dac) stop := by
  refine keeps_get_bind ?_
  rintro ⟨adc, rig⟩ h
  dsimp only
  split
  · exact h
  · refine keeps_bind (keeps_modify fun s hs => ?_) (fun _ => ?_) (adc, rig) h
    · exact holds_release_halted hs
    · exact keeps_reply (Rig.onlyReplies_debug _)

lemma keeps_configure (line : Line) : Keeps (Holds inputs dac) (configure line) := by
  refine keeps_get_bind ?_
  rintro ⟨adc, rig⟩ h
  dsimp only
  split
  · exact h
  · refine keeps_bind (keeps_check _) (fun mode => ?_) (adc, rig) h
    refine keeps_bind (keeps_modify fun s hs => ?_) fun _ => ?_
    · exact Holdings.with_adc hs hs.inputs_eq rfl hs.running
    · exact keeps_reply (Rig.onlyReplies_debug _)

lemma keeps_status : Keeps (Holds inputs dac) status := by
  refine keeps_get_bind ?_
  rintro ⟨adc, rig⟩ h
  refine keeps_bind (keeps_reply (Rig.onlyReplies_onConsole _)) (fun _ => ?_) (adc, rig) h
  refine keeps_bind (keeps_reply (Rig.onlyReplies_onConsole _)) fun _ => ?_
  exact keeps_reply Rig.onlyReplies_report

/-- A line to the converter keeps the holdings. -/
lemma keeps_dispatch (line : Line) : Keeps (Holds inputs dac) (dispatch line) := by
  refine keeps_bind (keeps_check _) fun action => ?_
  cases action with
  | configure => exact keeps_configure line
  | start =>
    exact keeps_bind (keeps_check _) fun _ => keeps_bind (keeps_check _) fun _ => keeps_start
  | stop => exact keeps_bind (keeps_check _) fun _ => keeps_bind (keeps_check _) fun _ => keeps_stop
  | status =>
    exact keeps_bind (keeps_check _) fun _ => keeps_bind (keeps_check _) fun _ => keeps_status

lemma holds_reset {s : Adc × Rig} (h : Holds inputs dac s) : Holds inputs dac (reset s) :=
  Holdings.with_adc (holds_release_halted h) h.inputs_eq rfl nofun

lemma holds_advance (us : Nat) {s : Adc × Rig} (h : Holds inputs dac s) :
    Holds inputs dac (advance us s) := by
  obtain ⟨adc, rig⟩ := s
  cases ht : adc.converter.timer with
  | none => simpa only [advance, ht] using h
  | some timer =>
    have hrun : adc.converter.running = true := by rw [Converter.running, ht, Option.isSome_some]
    have hw : Holdings inputs { adc with
        converter := { adc.converter with timer := (timer.advance us).2 } } dac rig.pins :=
      Holdings.with_adc h h.inputs_eq rfl fun _ => Holdings.running h hrun
    simpa only [Holds, advance, ht, Rig.pins_convert] using hw

end Adc

namespace Dac

/-- The holdings, as they stand beside the state of the DAC's command. -/
def Holds (inputs : List Pin) (adc : Adc) (s : Dac × Rig) : Prop :=
  Holdings inputs adc s.1 s.2.pins

/-- The command that is not started claims both pads, or it is refused and nothing has happened. -/
lemma exec_claimPads {rig : Rig} (h : Holdings inputs adc dac rig.pins)
    (hs : dac.started = false) :
    (∃ t', rig.pins.Granted .analog .dac pins t' ∧
      (beside claimPads).exec (dac, rig) = (.ok (), dac, { rig with pins := t' })) ∨
    ∃ fault, ((PinTable.claimAll .analog .dac pins).exec rig.pins).1 = .error fault ∧
      (beside claimPads).exec (dac, rig) = (.error fault, dac, rig) := by
  have hclaim : (beside claimPads).exec (dac, rig) =
      (((PinTable.claimAll .analog .dac pins).exec rig.pins).1, dac,
        { rig with pins := ((PinTable.claimAll .analog .dac pins).exec rig.pins).2 }) := rfl
  rcases h.orderly.exec_claimAll (h.dac_free hs) pins with ⟨t', hg, he⟩ | ⟨fault, he⟩
  · rw [he] at hclaim
    exact .inl ⟨t', hg, hclaim⟩
  · refine .inr ⟨fault, congrArg Prod.fst he, ?_⟩
    rw [he] at hclaim
    exact hclaim

lemma keeps_start : Keeps (Holds inputs adc) start := by
  refine keeps_get_bind ?_
  rintro ⟨dac, rig⟩ h
  dsimp only
  by_cases hs : dac.started = true
  · rw [if_pos hs]
    exact h
  · rw [if_neg hs, exec_bind]
    rcases exec_claimPads h (by simpa using hs) with ⟨t', hg, he⟩ | ⟨fault, -, he⟩
    · rw [he]
      exact Holdings.claim_pads h hg
    · rw [he]
      exact h

lemma keeps_stop : Keeps (Holds inputs adc) stop := by
  refine keeps_get_bind ?_
  rintro ⟨dac, rig⟩ h
  dsimp only
  by_cases hs : dac.started = true
  · rw [if_pos hs, exec_modify]
    exact Holdings.release_pads h hs
  · rw [if_neg hs]
    exact h

lemma keeps_write (line : Line) : Keeps (Holds inputs adc) (write line) := by
  refine keeps_bind (keeps_check _) fun channel => keeps_bind (keeps_check _) fun _ => ?_
  refine keeps_get_bind ?_
  rintro ⟨dac, rig⟩ h
  dsimp only
  split
  · refine keeps_bind (keeps_check _) (fun code => ?_) (dac, rig) h
    refine keeps_bind (keeps_beside fun dac =>
        Rig.keeps_onPins (p := Holdings inputs adc dac) ?_) fun _ =>
      keeps_beside fun dac => (Rig.onlyReplies_debug _).keeps fun _ _ => id
    intro t t' ht hl
    cases hb : t.board.latch channel (UInt16.ofNat code) with
    | error fault =>
      rw [hb] at hl
      cases hl
    | ok board =>
      rw [hb] at hl
      cases hl
      exact ht.onBoard (PinTable.step_latch hb)
  · exact h

/-- A line to the DAC keeps the holdings. -/
lemma keeps_dispatch (line : Line) : Keeps (Holds inputs adc) (dispatch line) := by
  refine keeps_bind (keeps_check _) fun action => ?_
  cases action with
  | write => exact keeps_write line
  | start =>
    exact keeps_bind (keeps_check _) fun _ => keeps_bind (keeps_check _) fun _ => keeps_start
  | stop => exact keeps_bind (keeps_check _) fun _ => keeps_bind (keeps_check _) fun _ => keeps_stop

lemma holds_reset {s : Dac × Rig} (h : Holds inputs adc s) : Holds inputs adc (reset s) := by
  obtain ⟨dac, rig⟩ := s
  dsimp only [reset]
  by_cases hs : dac.started = true
  · rw [if_pos hs]
    exact Holdings.release_pads h hs
  · rw [if_neg hs]
    exact h

lemma started_reset (s : Dac × Rig) : (reset s).1.started = false := by
  obtain ⟨⟨started⟩, rig⟩ := s
  cases started <;> rfl

end Dac

end Instrument
