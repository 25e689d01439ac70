import Instrument.Proofs.HoldingLines
import Instrument.Proofs.RolledBack
import Instrument.Proofs.Transcript

/-!
# The manner of the commands

Over a working connection every command answers a line in the manner of the rig. The checks come
first, a claim that is refused is rolled back, and after it only replies are left, none of which can
fail.
-/

namespace Instrument

open Act Text Rig

variable {rig : Rig} {line : Line}

/-- Whatever the check fails with stays on one line. -/
def Checks {α : Type} (r : Except Fault α) : Prop :=
  ∀ fault, r = .error fault → fault.OneLine

lemma checks_ok {α : Type} (a : α) : Checks (.ok a) :=
  nofun

lemma checks_error {α : Type} {fault : Fault} (h : fault.OneLine) :
    Checks (.error fault : Except Fault α) := by
  rintro _ ⟨⟩
  exact h

lemma checks_bind {α β : Type} {r : Except Fault α} {f : α → Except Fault β} (hr : Checks r)
    (hf : ∀ a, r = .ok a → Checks (f a)) : Checks (r >>= f) := by
  cases r with
  | error fault => exact checks_error (hr fault rfl)
  | ok a => exact hf a rfl

lemma Line.OneLine.checks_resolve {α : Type} {v : Vocabulary α} (hv : v.OneLine)
    (h : line.OneLine) (i : Nat) : Checks (v.resolve line.command[i]?) :=
  fun _ he => oneLine_resolve hv h he

lemma Line.OneLine.checks_expectNoMore (h : line.OneLine) (used : Nat) :
    Checks (line.expectNoMore used) :=
  fun _ he => oneLine_expectNoMore h he

lemma Line.checks_expectData (line : Line) (n : Nat) : Checks (line.expectData n) :=
  fun _ he => oneLine_expectData he

lemma Line.OneLine.tells_closed {σ : Type} {m : Manner σ} {s : σ} {act : Act σ Unit}
    (h : line.OneLine) (used : Nat) (ha : Tells m act s) :
    Tells m (do
      check (line.expectNoMore used)
      let _ ← check (line.expectData 0)
      act) s :=
  tells_check_bind (h.checks_expectNoMore used) fun _ _ =>
    tells_check_bind (line.checks_expectData 0) fun _ _ => ha

namespace System

lemma tells_version (hw : rig.console.Working) (hl : line.OneLine) :
    Tells Rig.manner (version line) rig := by
  apply hl.tells_closed
  exact (succeeds_valueText hw (oneLine_ofList rfl) fun _ => oneLine_ofList rfl).tells

lemma succeeds_reportOwners (subsystems : List Subsystem) (hw : rig.console.Working) :
    Succeeds Rig.manner (reportOwners subsystems) rig := by
  induction subsystems generalizing rig with
  | nil => exact succeeds_pure () rig
  | cons s rest ih =>
    apply succeeds_get_bind
    dsimp only
    split
    · exact ih hw
    · refine (succeeds_valueText hw s.oneLine_name fun _ => ?_).bind fun _ rig' hl =>
        ih (working_of_setting hl.setting hw)
      apply oneLine_intercalate (oneLine_ofList rfl)
      intro name hname
      obtain ⟨pin, -, rfl⟩ := List.mem_map.1 hname
      exact pin.oneLine_name

lemma tells_status (hw : rig.console.Working) (hl : line.OneLine) :
    Tells Rig.manner (status line) rig := by
  apply hl.tells_closed
  apply tells_get_bind
  apply Succeeds.tells
  refine (succeeds_valueBool hw (oneLine_ofList rfl) _).bind fun _ _ h₁ => ?_
  have hw := working_of_setting h₁.setting hw
  refine (succeeds_report hw).bind fun _ _ h₂ => ?_
  exact succeeds_reportOwners _ (working_of_setting h₂.setting hw)

end System

namespace Gpio

lemma checks_pinAt (hl : line.OneLine) (i : Nat) : Checks (pinAt line i) := by
  refine checks_bind (hl.checks_resolve Vocabulary.oneLine_ports i) fun _ _ => ?_
  refine checks_bind (hl.checks_resolve Vocabulary.oneLine_pads _) fun _ _ => ?_
  exact checks_ok _

lemma checks_modeOf (hl : line.OneLine) : Checks (modeOf line) := by
  refine checks_bind (hl.checks_resolve Vocabulary.oneLine_directions 4) fun a _ => ?_
  cases a with
  | analog => exact checks_ok _
  | input =>
    refine checks_bind (hl.checks_resolve Vocabulary.oneLine_senses 5) fun sense _ => ?_
    cases sense <;> exact checks_ok _
  | output =>
    dsimp only
    have hsense := hl.checks_resolve Vocabulary.oneLine_senses 5
    cases hi : line.command[5]? with
    | none => exact checks_ok _
    | some word =>
      rw [hi] at hsense
      exact checks_bind hsense fun _ _ => checks_ok _

lemma checks_checkAnalog (t : PinTable) (pin : Pin) (mode : PadMode) :
    Checks (checkAnalog t pin mode) := by
  unfold checkAnalog
  split
  · unfold PinTable.capable
    cases hrow : t.row pin with
    | error fault => exact checks_error (PinTable.oneLine_row hrow)
    | ok row =>
      rw [Except.map]
      cases row.capability.contains .adc with
      | true => exact checks_ok _
      | false =>
        apply checks_error
        rw [Fault.oneLine_argument, oneLine_append]
        exact ⟨pin.oneLine_name, oneLine_ofList rfl⟩
  · exact checks_ok _

lemma checks_query (t : PinTable) (pin : Pin) : Checks (t.query pin) := by
  unfold PinTable.query
  cases hrow : t.row pin with
  | error fault => exact checks_error (PinTable.oneLine_row hrow)
  | ok row => exact checks_ok _

lemma checks_releaseIn (t : PinTable) (pin : Pin) : Checks (releaseIn pin t) := by
  refine checks_bind (checks_query t pin) ?_
  rintro ⟨mode, owner⟩ -
  dsimp only
  split
  · unfold PinTable.release
    cases hrow : t.row pin with
    | error fault => exact checks_error (PinTable.oneLine_row hrow)
    | ok row => exact checks_ok _
  · exact checks_error (Fault.oneLine_conflict pin owner .gpio)

lemma tells_claim (pin : Pin) (mode : PadMode) :
    Tells Rig.manner (onPins (·.claim pin mode .gpio)) rig :=
  tells_onPins fun _ he => PinTable.oneLine_claim he

lemma tells_configure (hw : rig.console.Working) (hl : line.OneLine) (pin : Pin) :
    Tells Rig.manner (configure pin line) rig := by
  refine tells_check_bind (checks_modeOf hl) ?_
  rintro ⟨mode, used⟩ -
  refine tells_check_bind (hl.checks_expectNoMore used) fun _ _ => tells_get_bind ?_
  refine tells_check_bind (checks_checkAnalog rig.pins pin mode) fun _ _ => ?_
  refine (tells_claim pin mode).bind fun _ rig' h => ?_
  apply succeeds_debug (working_of_setting h.setting hw)
  rw [oneLine_append, oneLine_append]
  exact ⟨⟨pin.oneLine_name, oneLine_ofList rfl⟩, mode.oneLine_text⟩

lemma tells_drive (hw : rig.console.Working) (pin : Pin) (high : Bool) :
    Tells Rig.manner (drive pin high) rig := by
  refine (tells_claim pin .output).bind fun _ rig₁ h₁ => ?_
  have hwrite : Succeeds Rig.manner (onPins fun t => .ok (t.write pin high)) rig₁ :=
    ⟨(), { rig₁ with pins := rig₁.pins.write pin high }, rfl, loud_pins _ _⟩
  refine hwrite.bind fun _ rig₂ h₂ => ?_
  apply succeeds_debug (working_of_setting (h₁.trans h₂).setting hw)
  rw [oneLine_append, oneLine_append]
  exact ⟨⟨pin.oneLine_name, oneLine_ofList rfl⟩, by cases high <;> exact oneLine_ofList rfl⟩

lemma tells_query (hw : rig.console.Working) (pin : Pin) :
    Tells Rig.manner (query pin) rig := by
  apply tells_get_bind
  refine tells_check_bind (checks_query rig.pins pin) ?_
  rintro ⟨mode, owner⟩ -
  apply Succeeds.tells
  refine (succeeds_valueText hw pin.oneLine_name fun _ =>
    Subsystem.oneLine_ownerName owner).bind fun _ rig' h => ?_
  apply succeeds_valueText (working_of_setting h.setting hw) (oneLine_ofList rfl)
  exact fun _ => mode.oneLine_text

lemma tells_act (hw : rig.console.Working) (hl : line.OneLine) (action : GpioAction) (pin : Pin) :
    Tells Rig.manner (act action pin line) rig := by
  cases action with
  | configure => exact tells_configure hw hl pin
  | set => exact tells_check_bind (hl.checks_expectNoMore 4) fun _ _ => tells_drive hw pin true
  | clear => exact tells_check_bind (hl.checks_expectNoMore 4) fun _ _ => tells_drive hw pin false
  | get =>
    refine tells_check_bind (hl.checks_expectNoMore 4) fun _ _ => tells_get_bind ?_
    exact (succeeds_valueBool hw pin.oneLine_name _).tells
  | query => exact tells_check_bind (hl.checks_expectNoMore 4) fun _ _ => tells_query hw pin
  | release =>
    exact tells_check_bind (hl.checks_expectNoMore 4) fun _ _ =>
      tells_onPins (checks_releaseIn rig.pins pin)

lemma tells_dispatch (hw : rig.console.Working) (hl : line.OneLine) :
    Tells Rig.manner (dispatch line) rig := by
  unfold dispatch
  split
  · refine tells_check_bind (hl.checks_resolve Vocabulary.oneLine_gpioActions 1) fun action _ => ?_
    exact tells_check_bind (checks_pinAt hl 2) fun pin _ => tells_act hw hl action pin
  · exact tells_throw (Fault.oneLine_argument.2 (oneLine_ofList rfl))

end Gpio

namespace Adc

variable {inputs : List Pin} {adc : Adc} {dac : Dac}

def manner : Manner (Adc × Rig) :=
  Rig.manner.beside Adc

lemma succeeds_debug {s : Adc × Rig} {text : String} (hw : s.2.console.Working)
    (h : OneLine text) : Succeeds manner (beside (Rig.debug text)) s :=
  (Rig.succeeds_debug hw h).beside

lemma oneLine_text (mode : Sampling) : OneLine mode.text := by
  cases mode with
  | oneshot => exact oneLine_ofList rfl
  | continuous periodUs =>
    rw [Sampling.text, oneLine_append, oneLine_append]
    exact ⟨⟨oneLine_ofList rfl, oneLine_toString periodUs⟩, oneLine_ofList rfl⟩

lemma checks_modeOf (hl : line.OneLine) : Checks (adc.modeOf line) := by
  refine checks_bind (hl.checks_resolve Vocabulary.oneLine_sampleTypes 2) fun kind _ => ?_
  refine checks_bind (hl.checks_expectNoMore 3) fun _ _ => ?_
  cases kind with
  | oneshot => exact checks_bind (line.checks_expectData 0) fun _ _ => checks_ok _
  | continuous =>
    dsimp only
    rcases hd : line.data with _ | ⟨token, _ | ⟨next, rest⟩⟩
    · exact checks_ok _
    · dsimp only
      cases Numeral.within minPeriodUs maxPeriodUs token with
      | ok periodUs => exact checks_ok _
      | error d =>
        refine checks_error (d.oneLine_fault (hl.data token ?_))
        rw [hd]
        exact List.mem_cons_self
    · apply checks_error
      rw [Fault.oneLine_argument, oneLine_append]
      exact ⟨oneLine_ofList rfl, oneLine_toString _⟩

lemma tells_configure (hw : rig.console.Working) (hl : line.OneLine) :
    Tells manner (configure line) (adc, rig) := by
  apply tells_get_bind
  dsimp only
  split
  · exact tells_throw (Fault.oneLine_notReady.2 (oneLine_ofList rfl))
  · refine tells_check_bind (checks_modeOf hl) fun mode _ => ?_
    apply Succeeds.tells
    have hset : Succeeds manner (modify fun s => ({ s.1 with mode }, s.2)) (adc, rig) :=
      ⟨(), ({ adc with mode }, rig), rfl, (Quiet.refl rig).loud⟩
    refine hset.bind fun _ s h => ?_
    apply succeeds_debug (working_of_setting h.setting hw)
    rw [oneLine_append]
    exact ⟨oneLine_ofList rfl, oneLine_text mode⟩

lemma succeeds_startUnits (hidle : adc.converter.running = false)
    (hin : adc.converter.inputs ≠ []) : Succeeds manner startUnits (adc, rig) := by
  rcases exec_startUnits hidle with ⟨hnone, -⟩ | ⟨-, he⟩
  · exact absurd hnone hin
  · exact ⟨(), _, he, (silent_startConsumers rig).quiet.loud⟩

/-- Without inputs the start fails, and the pins it gives back are none. -/
lemma tells_startUnits_of_nil (hidle : adc.converter.running = false)
    (hin : adc.converter.inputs = []) (hcl : adc.claimed = []) :
    Tells manner startUnits (adc, rig) := by
  have hsame : releaseInputs (adc, rig.startConsumers) = (adc, rig.startConsumers) := by
    cases adc
    cases hcl
    rfl
  rcases exec_startUnits hidle with ⟨-, he⟩ | ⟨hne, -⟩
  · rw [hsame] at he
    exact tells_of_error he ⟨rfl, (silent_startConsumers rig).quiet⟩
      (Fault.oneLine_notReady.2 (oneLine_ofList rfl))
  · exact absurd hin hne

lemma tells_start (hw : rig.console.Working) (h : Holdings inputs adc dac rig.pins) :
    Tells manner start (adc, rig) := by
  apply tells_get_bind
  dsimp only
  split
  · exact tells_throw (Fault.oneLine_notReady.2 (oneLine_ofList rfl))
  · next hrun =>
    have hidle : adc.converter.running = false := by simpa using hrun
    have hdebug : ∀ (a : Unit) s, manner.loud (adc, rig) s →
        Succeeds manner (beside (Rig.debug ("adc started (" ++ adc.mode.text ++ ")"))) s := by
      intro _ s hl
      apply succeeds_debug (working_of_setting hl.setting hw)
      rw [oneLine_append, oneLine_append]
      exact ⟨⟨oneLine_ofList rfl, oneLine_text adc.mode⟩, oneLine_ofList rfl⟩
    by_cases hcl : adc.claimed = []
    · rw [if_pos (List.isEmpty_iff.2 hcl)]
      rcases exec_claimInputs h hcl with ⟨t', hg, hclaim⟩ | ⟨fault, hf, hclaim⟩
      · -- A start that fails behind the claim has no inputs, so it has claimed no pin either.
        by_cases hin : inputs = []
        · subst hin
          cases hg
          have hsame : { adc with claimed := [] } = adc := by
            cases adc
            cases hcl
            rfl
          rw [hsame] at hclaim
          refine tells_bind_of_quiet hclaim (manner.quiet_refl _) ?_
          exact (tells_startUnits_of_nil hidle h.inputs_eq hcl).bind hdebug
        · have hclaimed : manner.loud (adc, rig)
              ({ adc with claimed := inputs }, { rig with pins := t' }) := loud_pins rig t'
          have hunits : Succeeds manner startUnits
              ({ adc with claimed := inputs }, { rig with pins := t' }) :=
            succeeds_startUnits hidle (h.inputs_eq ▸ hin)
          refine (succeeds_bind_of_ok hclaim hclaimed (hunits.bind fun a s hl => ?_)).tells
          exact hdebug a s (manner.loud_trans hclaimed hl)
      · have hone : fault.OneLine := PinTable.oneLine_claimFrom hf
        exact tells_bind_of_error hclaim (manner.quiet_refl _) hone
    · have hnoted := h.noted.resolve_left hcl
      have hin : adc.converter.inputs ≠ [] := by rwa [h.inputs_eq, ← hnoted]
      rw [if_neg (mt List.isEmpty_iff.1 hcl)]
      exact ((succeeds_startUnits hidle hin).bind hdebug).tells

lemma tells_stop (hw : rig.console.Working) : Tells manner stop (adc, rig) := by
  apply tells_get_bind
  dsimp only
  split
  · exact tells_throw (Fault.oneLine_notReady.2 (oneLine_ofList rfl))
  · apply Succeeds.tells
    have hstopped : manner.loud (adc, rig) (releaseInputs (halt (adc, rig))) :=
      (silent_convert adc.converter adc.converter.pending rig).quiet.loud.trans (loud_pins _ _)
    refine succeeds_bind_of_ok rfl hstopped ?_
    exact succeeds_debug (working_of_setting hstopped.setting hw) (oneLine_ofList rfl)

lemma tells_status (hw : rig.console.Working) : Tells manner status (adc, rig) := by
  apply tells_get_bind
  apply Succeeds.tells
  refine (succeeds_valueBool hw (oneLine_ofList rfl) _).beside.bind fun _ s₁ h₁ => ?_
  have hw := working_of_setting h₁.setting hw
  refine (succeeds_valueText hw (oneLine_ofList rfl)
    fun _ => oneLine_text adc.mode).beside.bind fun _ s₂ h₂ => ?_
  exact (succeeds_report (working_of_setting h₂.setting hw)).beside

lemma tells_dispatch (hw : rig.console.Working) (hl : line.OneLine)
    (h : Holdings inputs adc dac rig.pins) : Tells manner (dispatch line) (adc, rig) := by
  refine tells_check_bind (hl.checks_resolve Vocabulary.oneLine_adcActions 1) fun action _ => ?_
  cases action with
  | configure => exact tells_configure hw hl
  | start => exact hl.tells_closed 2 (tells_start hw h)
  | stop => exact hl.tells_closed 2 (tells_stop hw)
  | status => exact hl.tells_closed 2 (tells_status hw)

end Adc

namespace Dac

variable {inputs : List Pin} {adc : Adc} {dac : Dac}

def manner : Manner (Dac × Rig) :=
  Rig.manner.beside Dac

lemma tells_start (h : Holdings inputs adc dac rig.pins) : Tells manner start (dac, rig) := by
  apply tells_get_bind
  dsimp only
  split
  · exact tells_throw (Fault.oneLine_notReady.2 (oneLine_ofList rfl))
  · next hidle =>
    rcases exec_claimPads h (by simpa using hidle) with ⟨t', -, hclaim⟩ | ⟨fault, hf, hclaim⟩
    · refine (succeeds_bind_of_ok hclaim (loud_pins rig t') ?_).tells
      exact ⟨(), _, rfl, (Quiet.refl _).loud⟩
    · have hone : fault.OneLine := PinTable.oneLine_claimFrom hf
      exact tells_bind_of_error hclaim (manner.quiet_refl _) hone

lemma tells_stop : Tells manner stop (dac, rig) := by
  apply tells_get_bind
  dsimp only
  split
  · exact tells_of_ok (exec_modify _ _) (loud_pins rig _)
  · exact tells_throw (Fault.oneLine_notReady.2 (oneLine_ofList rfl))

lemma checks_codeOf (hl : line.OneLine) : Checks (codeOf line) := by
  refine checks_bind (line.checks_expectData 1) fun data hd => ?_
  have hdata : data = line.data := by
    unfold Line.expectData at hd
    split at hd <;> cases hd
    rfl
  dsimp only
  cases Numeral.within 0 fullScale.toNat (data.headD "") with
  | ok code => exact checks_ok _
  | error d =>
    refine checks_error (d.oneLine_fault ?_)
    rw [hdata]
    cases hwords : line.data with
    | nil => exact oneLine_ofList rfl
    | cons word rest =>
      apply hl.data word
      rw [hwords]
      exact List.mem_cons_self

lemma checks_latch (board : Board) (channel : DacChannel) (code : UInt16) :
    Checks (board.latch channel code) := by
  unfold Board.latch
  split
  · apply checks_error
    simp only [Fault.oneLine_argument, oneLine_append]
    exact ⟨⟨⟨oneLine_ofList rfl, oneLine_toString _⟩, oneLine_ofList rfl⟩, oneLine_toString _⟩
  · exact checks_ok _

lemma tells_write (hw : rig.console.Working) (hl : line.OneLine) :
    Tells manner (write line) (dac, rig) := by
  refine tells_check_bind (hl.checks_resolve Vocabulary.oneLine_dacChannels 2) fun channel _ => ?_
  refine tells_check_bind (hl.checks_expectNoMore 3) fun _ _ => tells_get_bind ?_
  dsimp only
  split
  · refine tells_check_bind (checks_codeOf hl) fun code _ => ?_
    have hlatch : Tells Rig.manner (Rig.onPins fun t =>
        (t.board.latch channel (UInt16.ofNat code)).map fun board => { t with board }) rig := by
      apply tells_onPins
      intro fault he
      have hcheck := checks_latch rig.pins.board channel (UInt16.ofNat code)
      cases hb : rig.pins.board.latch channel (UInt16.ofNat code) with
      | error fault' =>
        rw [hb] at he
        cases he
        exact hcheck fault hb
      | ok board =>
        rw [hb] at he
        cases he
    refine Tells.bind hlatch.beside fun _ s h => ?_
    refine (succeeds_debug (working_of_setting h.setting hw) ?_).beside
    simp only [oneLine_append]
    refine ⟨⟨⟨oneLine_ofList rfl, ?_⟩, oneLine_ofList rfl⟩, oneLine_toString code⟩
    cases channel <;> exact oneLine_ofList rfl
  · exact tells_throw (Fault.oneLine_notReady.2 (oneLine_ofList rfl))

lemma tells_dispatch (hw : rig.console.Working) (hl : line.OneLine)
    (h : Holdings inputs adc dac rig.pins) : Tells manner (dispatch line) (dac, rig) := by
  refine tells_check_bind (hl.checks_resolve Vocabulary.oneLine_dacActions 1) fun action _ => ?_
  cases action with
  | write => exact tells_write hw hl
  | start => exact hl.tells_closed 2 (tells_start h)
  | stop => exact hl.tells_closed 2 tells_stop

end Dac

end Instrument
