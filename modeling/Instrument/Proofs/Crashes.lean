import Instrument.Proofs.ConverterLines
import Instrument.Proofs.GpioLines

/-!
# Crashes

The threads of the consumers are named after the sinks, and no thread has a name with a null
character in it. A line that starts the converter while the consumers rest comes to that, whether
there are inputs or not, and nothing else does. What has crashed is not mended by any stimulus.
-/

namespace Instrument

open Act Text

lemma Rig.crashed_convert (c : Converter) (n : Nat) (rig : Rig) :
    (rig.convert c n).crashed = rig.crashed := by
  induction n with
  | zero => rfl
  | succ n ih => rwa [convert_succ, crashed_settle]

lemma Gpio.crashed_dispatch (line : Line) (rig : Rig) :
    ((dispatch line).exec rig).2.crashed = rig.crashed := by
  have hcomes := comes_dispatch line rig
  generalize (dispatch line).exec rig = out at hcomes ⊢
  cases hcomes with
  | refused => rfl
  | done => rfl

lemma Dac.crashed_dispatch (line : Line) (s : Dac × Rig) :
    ((dispatch line).exec s).2.2.crashed = s.2.crashed := by
  let p : Dac × Rig → Prop := fun t => t.2.crashed = s.2.crashed
  have hkeeps : Keeps p (dispatch line) := by
    have hdebug : ∀ text, Keeps p (beside (Rig.debug text)) := fun text =>
      keeps_beside fun _ => (Rig.onlyReplies_debug text).keeps fun _ _ h => h
    refine keeps_bind (keeps_check _) fun action => ?_
    cases action with
    | write =>
      refine keeps_bind (keeps_check _) fun channel => keeps_bind (keeps_check _) fun _ =>
        keeps_get_bind fun t ht => ?_
      dsimp only
      split
      · exact keeps_bind (keeps_check _) (fun _ => keeps_bind (fun _ h => h) fun _ => hdebug _) t ht
      · exact ht
    | start =>
      refine keeps_bind (keeps_check _) fun _ => keeps_bind (keeps_check _) fun _ =>
        keeps_get_bind fun t ht => ?_
      dsimp only
      split
      · exact ht
      · have hclaim : Keeps p (beside claimPads) := fun _ h => h
        have hstarted : Keeps p (modify fun t => (⟨true⟩, t.2)) := fun _ h => h
        exact keeps_bind hclaim (fun _ => hstarted) t ht
    | stop =>
      refine keeps_bind (keeps_check _) fun _ => keeps_bind (keeps_check _) fun _ =>
        keeps_get_bind fun t ht => ?_
      dsimp only
      split
      · exact ht
      · exact ht
  exact hkeeps s rfl

namespace Adc

variable {inputs : List Pin} {line : Line} {adc : Adc} {dac : Dac} {rig : Rig}

lemma crashed_dispatch (hword : fold (line.command.headD "") = "adc")
    (hstart : line.asks ["adc", "start"] = false) (s : Adc × Rig) :
    ((dispatch line).exec s).2.2.crashed = s.2.crashed := by
  have hsteady : Steady line fun t : Adc × Rig => t.2.crashed = s.2.crashed := by
    constructor
    case replies => exact fun act h => keeps_beside fun _ => h.keeps fun _ _ h => h
    case claim =>
      rintro ⟨adc, rig⟩ h
      simp only [claimInputs, exec]
      split <;> exact h
    case units => exact fun ha => absurd ha (by simp [hstart])
    case stop => exact fun t h => (Rig.crashed_convert _ _ t.2).trans h
    case configure => exact fun _ _ _ h _ _ _ => h
  exact hsteady.dispatch hword s rfl

/-- The start gets as far as the consumers. -/
def ReachesConsumers (inputs : List Pin) (pins : PinTable) (adc : Adc) : Prop :=
  adc.converter.running = false ∧
    (adc.claimed = inputs ∨ ∀ pin ∈ inputs, pins.owner? pin = none)

lemma crashed_start (hw : rig.console.Working) (h : Holdings inputs adc dac rig.pins) :
    (start.exec (adc, rig)).2.2.crashed = true ↔
      rig.crashed = true ∨ ReachesConsumers inputs rig.pins adc ∧ rig.unspawnable = true := by
  have hends := start_ends hw h
  generalize start.exec (adc, rig) = out at hends ⊢
  obtain ⟨answer, adc₁, rig₁⟩ := out
  dsimp only at hends
  cases hends with
  | running hrun =>
    refine (or_iff_left ?_).symm
    rintro ⟨⟨hidle, -⟩, -⟩
    rw [hidle] at hrun
    cases hrun
  | taken hp ho hcl =>
    refine (or_iff_left ?_).symm
    rintro ⟨⟨-, hclaimed | hfree⟩, -⟩
    · rw [← hclaimed, hcl] at hp
      cases hp
    · exact ho (hfree _ hp)
  | inputless hidle hnil =>
    have hreach : ReachesConsumers inputs rig.pins adc := ⟨hidle, .inr (by simp [hnil])⟩
    simp [Rig.crashed_startConsumers, hreach]
  | started hidle hin hpins hcrash =>
    have hreach : ReachesConsumers inputs rig.pins adc := ⟨hidle, hpins⟩
    simp [hcrash, Rig.crashed_startConsumers, hreach]

end Adc

namespace Station

variable {config : Config} {console : Console} {inputs : List Pin} {setting : Rig.Setting}
  {s : Station} {stimulus : Stimulus} {line : Line} {adc : Adc} {dac : Dac}

lemma unspawnable_iff (h : s.InSetting inputs (settingOf config console)) :
    s.rig.unspawnable = true ↔
      s.rig.consuming = false ∧ ∃ sink ∈ config.pipe.sinks, '\x00' ∈ sink.name.toList := by
  have hnames : s.rig.source.sinkNames = config.pipe.sinks.map (·.name) :=
    congrArg Rig.Setting.sinkNames h.setting_eq
  rw [Rig.unspawnable_eq, hnames]
  simp [Consumer.nameable]

/-- Other stimuli than starts have nothing to do with crashes. -/
lemma crashed_of_not_start (hb : s.registry.Built adc dac)
    (hstart : ∀ line, s.dispatched? stimulus = some line → line.asks ["adc", "start"] = false) :
    (s.undergo stimulus).rig.crashed = s.rig.crashed := by
  obtain ⟨adc', dac', rig', console, heffect, -, hrig⟩ := leads_undergo hb stimulus
  rw [hrig]
  change rig'.crashed = s.rig.crashed
  cases heffect with
  | carried before _ heffect =>
    cases heffect with
    | reply => rfl
    | reset => exact Rig.crashed_convert _ _ _
    | gpio => exact Gpio.crashed_dispatch _ _
    | adc hd hword => exact Adc.crashed_dispatch hword (hstart _ hd) _
    | dac => exact Dac.crashed_dispatch _ _
  | elapse us =>
    cases ht : adc.converter.timer with
    | none =>
      simp only [Adc.advance, ht]
      rfl
    | some timer =>
      simp only [Adc.advance, ht]
      exact Rig.crashed_convert _ _ _
  | setLevel => rfl
  | setAnalog => rfl

/-- Exactly the starts that come to a name without thread crash. -/
lemma crashed_undergo_iff (h : s.InSetting inputs setting) (hb : s.registry.Built adc dac)
    (hold : Holdings inputs adc dac s.rig.pins) (stimulus : Stimulus) :
    (s.undergo stimulus).rig.crashed = true ↔ s.rig.crashed = true ∨
      ∃ line, s.dispatched? stimulus = some line ∧ line.asks ["adc", "start"] = true ∧
        adc.ReachesConsumers inputs s.rig.pins ∧ s.rig.unspawnable = true := by
  by_cases hstart : ∃ line, s.dispatched? stimulus = some line ∧ line.asks ["adc", "start"] = true
  · obtain ⟨line, hd, ha⟩ := hstart
    obtain ⟨before, after, hset, -, hundergo⟩ := exists_undergo_of_dispatched hd
    have hcrash := Adc.crashed_start (Rig.working_of_setting hset h.working) hold
    rw [hundergo, Registry.exec_dispatch_adc hb.index hb.commands (Line.asks_pair_iff.1 ha).1,
      Adc.exec_dispatch_of_asks .start (by decide) ha]
    refine hcrash.trans (or_congr_right ⟨fun hc => ⟨line, hd, ha, hc⟩, ?_⟩)
    rintro ⟨_, -, -, hc⟩
    exact hc
  · push Not at hstart
    rw [crashed_of_not_start hb fun line hd => by simpa using hstart line hd]
    refine (or_iff_left ?_).symm
    rintro ⟨line, hd, ha, -⟩
    exact hstart line hd ha

end Station

end Instrument
