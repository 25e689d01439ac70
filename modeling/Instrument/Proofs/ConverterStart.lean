import Instrument.Proofs.Effects

/-!
# The ends of a start

A start claims the inputs, then starts the consumers, and then the converter. Over a working
connection it ends in one of four ways. Three of them are refusals, and one of these comes when the
consumers run already: it gives the pins back but does not stop the consumers.
-/

namespace Instrument

open Act Text

namespace PinTable

variable {mode : PadMode} {s : Subsystem} {pins : List Pin} {t t' : PinTable}

lemma Granted.exec_claimFrom (h : Granted mode s pins t t') (taken : List Pin) :
    (claimFrom mode s taken pins).exec t = (.ok (), t') := by
  induction h generalizing taken with
  | nil => rfl
  | @cons pin pins t t₁ t₂ head tail ih =>
    have hnext : (claimFrom mode s taken (pin :: pins)).exec t =
        (claimFrom mode s (taken ++ [pin]) pins).exec t₁ := by
      simp only [claimFrom, exec, head]
    rw [hnext]
    exact ih (taken ++ [pin])

/-- A claim leaves the other pins to the subsystem, and the claimed one as well. -/
lemma exists_granted (h : ∀ pin ∈ pins, ∃ row, t.row? pin = some row ∧ row.admits s = true) :
    ∃ t', Granted mode s pins t t' := by
  induction pins generalizing t with
  | nil => exact ⟨t, .nil⟩
  | cons pin pins ih =>
    obtain ⟨row, hrow, ha⟩ := h pin List.mem_cons_self
    have hclaim : t.claim pin mode s = .ok (t.put pin { row with mode, owner := some s }) :=
      claim_eq_ok_iff.2 ⟨row, hrow, ha, rfl⟩
    have hrest : ∀ q ∈ pins, ∃ row',
        (t.put pin { row with mode, owner := some s }).row? q = some row' ∧
          row'.admits s = true := by
      intro q hq
      obtain ⟨row', hrow', ha'⟩ := h q (List.mem_cons_of_mem pin hq)
      rw [row?_put]
      by_cases hp : pin = q
      · rw [if_pos hp]
        exact ⟨_, rfl, Row.admits_iff.2 ⟨(Row.admits_iff.1 ha).1, .inr rfl⟩⟩
      · rw [if_neg hp]
        exact ⟨row', hrow', ha'⟩
    obtain ⟨t', ht'⟩ := ih hrest
    exact ⟨t', .cons hclaim ht'⟩

/-- A subsystem without pins is granted those that it is wired to exactly when nobody holds one. -/
lemma Orderly.exists_granted_iff (h : t.Orderly) (hs : ∀ pin, t.owner? pin ≠ some s)
    (hw : ∀ pin ∈ pins, (PinProfile.stock pin).capability.contains s = true) :
    (∃ t', Granted mode s pins t t') ↔ ∀ pin ∈ pins, t.owner? pin = none := by
  constructor
  · rintro ⟨t', hg⟩ pin hp
    obtain ⟨row, hrow, ha⟩ := hg.admits hp
    have howner := hs pin
    rw [owner?_of_row hrow] at howner ⊢
    exact (Row.admits_iff.1 ha).2.resolve_right howner
  · intro hfree
    apply exists_granted
    intro pin hp
    obtain ⟨row, hrow, hprofile⟩ := h.exists_row pin
    have howner := hfree pin hp
    have hwired := hw pin hp
    rw [owner?_of_row hrow] at howner
    rw [← hprofile] at hwired
    exact ⟨row, hrow, Row.admits_iff.2 ⟨hwired, .inl howner⟩⟩

end PinTable

namespace Rig

@[simp] lemma consuming_settle (rig : Rig) : rig.settle.consuming = rig.consuming := by
  unfold settle
  split <;> rfl

lemma consuming_startConsumers (rig : Rig) :
    rig.startConsumers.consuming = (rig.consuming || !rig.source.sinks.isEmpty) :=
  consuming_settle _

@[simp] lemma crashed_settle (rig : Rig) : rig.settle.crashed = rig.crashed := by
  unfold settle
  split <;> rfl

lemma crashed_startConsumers (rig : Rig) :
    rig.startConsumers.crashed = (rig.crashed || rig.unspawnable) :=
  crashed_settle _

end Rig

/-! ## The command -/

namespace Adc

variable {inputs : List Pin} {adc : Adc} {dac : Dac} {rig : Rig}

/-- The control once its start has succeeded. -/
def started (adc : Adc) (inputs : List Pin) : Adc :=
  { adc with converter := { adc.converter with timer := some adc.mode.timer }, claimed := inputs }

/-- The ends of a start: what it answers, and the control and the rig that it leaves. -/
inductive Ends (inputs : List Pin) (adc : Adc) (rig : Rig) : Except Fault Unit → Adc → Rig → Prop
  | running (h : adc.converter.running = true) :
      Ends inputs adc rig (.error (.notReady "adc already started")) adc rig
  | taken {fault : Fault} {pin : Pin} (hp : pin ∈ inputs) (ho : rig.pins.owner? pin ≠ none)
      (hcl : adc.claimed = []) : Ends inputs adc rig (.error fault) adc rig
  | inputless (hidle : adc.converter.running = false) (h : inputs = []) : Ends inputs adc rig
      (.error (.notReady "no converter inputs configured")) adc rig.startConsumers
  | started {rig' : Rig} (hidle : adc.converter.running = false) (hin : inputs ≠ [])
      (hpins : adc.claimed = inputs ∨ ∀ pin ∈ inputs, rig.pins.owner? pin = none)
      (hcrash : rig'.crashed = rig.startConsumers.crashed) :
      Ends inputs adc rig (.ok ()) (adc.started inputs) rig'

/-- What is left of a start once the command has its pins. -/
def startRest (adc : Adc) : Act (Adc × Rig) Unit := do
  startUnits
  Act.beside (Rig.debug ("adc started (" ++ adc.mode.text ++ ")"))

lemma exec_startRest (hw : rig.console.Working) (hidle : adc.converter.running = false)
    (hin : adc.converter.inputs ≠ []) (before : Adc) :
    ∃ rig', (startRest before).exec (adc, rig) = (.ok (),
        { adc with converter := { adc.converter with timer := some adc.mode.timer } }, rig') ∧
      rig'.crashed = rig.startConsumers.crashed := by
  rcases exec_startUnits hidle with ⟨hnone, -⟩ | ⟨-, hunits⟩
  · exact absurd hnone hin
  · have hw' := Rig.working_of_setting (Rig.silent_startConsumers rig).setting hw
    rw [startRest, exec_bind_of_ok hunits, exec_beside, Rig.debug, Rig.onConsole, exec_zoom,
      Console.exec_debug hw']
    exact ⟨_, rfl, rfl⟩

/-- Without inputs there are no pins to give back. -/
lemma exec_startUnits_of_nil (hidle : adc.converter.running = false)
    (hin : adc.converter.inputs = []) (hcl : adc.claimed = []) : startUnits.exec (adc, rig) =
      (.error (.notReady "no converter inputs configured"), adc, rig.startConsumers) := by
  have hsame : releaseInputs (adc, rig.startConsumers) = (adc, rig.startConsumers) := by
    cases adc
    cases hcl
    rfl
  rcases exec_startUnits hidle with ⟨-, he⟩ | ⟨hne, -⟩
  · rw [he, hsame]
  · exact absurd hin hne

lemma exec_start_of_free (hidle : adc.converter.running = false) (hcl : adc.claimed = []) :
    start.exec (adc, rig) = (claimInputs >>= fun _ => startRest adc).exec (adc, rig) := by
  rw [start, exec_bind, exec_get]
  dsimp only
  rw [if_neg (by simp [hidle]), if_pos (List.isEmpty_iff.2 hcl)]
  rfl

lemma exec_start_of_claimed (hidle : adc.converter.running = false) (hcl : adc.claimed ≠ []) :
    start.exec (adc, rig) = (startRest adc).exec (adc, rig) := by
  rw [start, exec_bind, exec_get]
  dsimp only
  rw [if_neg (by simp [hidle]), if_neg (mt List.isEmpty_iff.1 hcl)]
  rfl

/-- The start of a command that has claimed no pins. -/
lemma start_ends_of_free (hw : rig.console.Working) (h : Holdings inputs adc dac rig.pins)
    (hidle : adc.converter.running = false) (hcl : adc.claimed = []) :
    Ends inputs adc rig (start.exec (adc, rig)).1 (start.exec (adc, rig)).2.1
      (start.exec (adc, rig)).2.2 := by
  have hfree : (∃ t', PinTable.Granted .analog .adc inputs rig.pins t') ↔
      ∀ pin ∈ inputs, rig.pins.owner? pin = none :=
    h.orderly.exists_granted_iff (h.adc_free hcl) h.wired
  rw [exec_start_of_free hidle hcl]
  rcases exec_claimInputs h hcl with ⟨t', hg, he⟩ | ⟨fault, hf, he⟩
  · rw [exec_bind_of_ok he]
    by_cases hin : inputs = []
    · -- Nothing was claimed, and the unit is refused behind the consumers.
      subst hin
      cases hg
      have hsame : { adc with claimed := [] } = adc := by
        cases adc
        cases hcl
        rfl
      rw [hsame, startRest, exec_bind, exec_startUnits_of_nil hidle h.inputs_eq hcl]
      exact .inputless hidle rfl
    · have hne : adc.converter.inputs ≠ [] := by rwa [h.inputs_eq]
      have hrest : ∃ rig', (startRest adc).exec
            ({ adc with claimed := inputs }, { rig with pins := t' }) =
          (.ok (), adc.started inputs, rig') ∧
            rig'.crashed = ({ rig with pins := t' } : Rig).startConsumers.crashed :=
        exec_startRest (by exact hw) (by exact hidle) (by exact hne) adc
      obtain ⟨rig', hexec, hcrash⟩ := hrest
      rw [Rig.crashed_startConsumers] at hcrash
      rw [hexec]
      refine .started hidle hin (.inr (hfree.1 ⟨t', hg⟩)) ?_
      rw [hcrash, Rig.crashed_startConsumers]
      rfl
  · have hheld : ¬ ∀ pin ∈ inputs, rig.pins.owner? pin = none := by
      intro hall
      obtain ⟨t', hg⟩ := hfree.2 hall
      rw [PinTable.claimAll, hg.exec_claimFrom] at hf
      cases hf
    push Not at hheld
    obtain ⟨pin, hp, ho⟩ := hheld
    rw [exec_bind, he]
    exact .taken hp ho hcl

lemma start_ends (hw : rig.console.Working) (h : Holdings inputs adc dac rig.pins) :
    Ends inputs adc rig (start.exec (adc, rig)).1 (start.exec (adc, rig)).2.1
      (start.exec (adc, rig)).2.2 := by
  by_cases hrun : adc.converter.running = true
  · have hexec : start.exec (adc, rig) = (.error (.notReady "adc already started"), adc, rig) := by
      rw [start, exec_bind, exec_get]
      dsimp only
      rw [if_pos hrun, exec_throw]
    rw [hexec]
    exact .running hrun
  · have hidle : adc.converter.running = false := by simpa using hrun
    by_cases hcl : adc.claimed = []
    · exact start_ends_of_free hw h hidle hcl
    · -- A one-shot that is over holds the inputs still, so there are some.
      have hclaimed := h.noted.resolve_left hcl
      have hne : adc.converter.inputs ≠ [] := by rwa [h.inputs_eq, ← hclaimed]
      have hstarted : adc.started inputs =
          { adc with converter := { adc.converter with timer := some adc.mode.timer } } := by
        rw [started, ← hclaimed]
      obtain ⟨rig', hexec, hcrash⟩ := exec_startRest hw hidle hne adc
      rw [exec_start_of_claimed hidle hcl, hexec, ← hstarted]
      exact .started hidle (hclaimed ▸ hcl) (.inl hclaimed) hcrash

end Adc

namespace Rig

lemma inputs_isEmpty_of_mapM {names : List String} {inputs : List Pin}
    (h : names.mapM inputPin = .ok inputs) : inputs.isEmpty = names.isEmpty := by
  cases names with
  | nil =>
    cases h
    rfl
  | cons name rest =>
    rw [List.mapM_cons] at h
    obtain ⟨pin, -, h⟩ := Station.bind_eq_ok h
    obtain ⟨pins, -, h⟩ := Station.bind_eq_ok h
    cases h
    rfl

end Rig

namespace Station

variable {config : Config} {console : Console} {s : Station} {line : Line}

lemma sinks_isEmpty_of_inSetting {inputs : List Pin}
    (h : InSetting inputs (settingOf config console) s) :
    s.rig.source.sinks.isEmpty = config.pipe.sinks.isEmpty := by
  have hnames : s.rig.source.sinkNames = config.pipe.sinks.map (·.name) :=
    congrArg Rig.Setting.sinkNames h.setting_eq
  rw [← List.isEmpty_map, ← List.isEmpty_map (l := config.pipe.sinks), ← hnames]
  rfl

/-- A line that reads as a start comes to one of the ends of a start. -/
lemma ends_of_start {inputs : List Pin} {setting : Rig.Setting} (h : InSetting inputs setting s)
    (hi : s.registry.index = Registry.builtinIndex) {stimulus : Stimulus}
    (hd : s.dispatched? stimulus = some line) (ha : line.asks ["adc", "start"] = true) :
    ∃ adc dac before adc' rig', s.registry.Built adc dac ∧ Holdings inputs adc dac s.rig.pins ∧
      Adc.Ends inputs adc { s.rig with console := before } (s.answer stimulus) adc' rig' ∧
      (s.undergo stimulus).registry.Built adc' dac ∧
      ∃ after, (s.undergo stimulus).rig = { rig' with console := after } := by
  obtain ⟨adc, dac, hc, hold⟩ := h.holds
  obtain ⟨before, after, hset, hanswer, hundergo⟩ := exists_undergo_of_dispatched hd
  have hends := Adc.start_ends (Rig.working_of_setting hset h.working) hold
  have hw := (Line.asks_pair_iff.1 ha).1
  have hstart := Adc.exec_dispatch_of_asks .start (by decide) ha
    (adc, { s.rig with console := before })
  rw [Registry.exec_dispatch_adc hi hc hw, hstart] at hanswer hundergo
  refine ⟨adc, dac, before, _, _, ⟨hi, hc⟩, hold, hanswer ▸ hends, ?_, after, ?_⟩
  · rw [hundergo]
    exact ⟨hi, rfl⟩
  · rw [hundergo]

/-- A start that fails leaves the consumers as they were, but when no inputs are configured: then it
has started them, if there is a sink to consume from, and they are not stopped again. -/
theorem consuming_of_failed_start (hw : console.Working) (hnew : new config console = .ok s)
    (script : List Stimulus) {text : String}
    (hread : Line.read config.fetch.limits text = .ok (some line))
    (ha : line.asks ["adc", "start"] = true) {stimulus : Stimulus}
    (hs : stimulus ∈ lineStimuli text) {fault : Fault}
    (hf : (s.run script).answer stimulus = .error fault) :
    ((s.run script).undergo stimulus).rig.consuming = ((s.run script).rig.consuming ||
      config.adc.inputs.isEmpty && !config.pipe.sinks.isEmpty) := by
  obtain ⟨inputs, hinputs, hnew'⟩ := inSetting_new hw hnew
  have hrun := run_invariant inSetting_undergo hnew' script
  have hd := dispatched?_of_run hw hnew script hread hs
  obtain ⟨adc, dac, before, adc', rig', -, hold, hends, -, after, hrig⟩ :=
    ends_of_start hrun (stands_run hnew script).index hd ha
  have hconsuming : ((s.run script).undergo stimulus).rig.consuming = rig'.consuming := by rw [hrig]
  have hempty := Rig.inputs_isEmpty_of_mapM hinputs
  rw [hconsuming, ← hempty]
  rw [hf] at hends
  cases hends with
  | running h =>
    have hne : inputs.isEmpty = false := by simpa using (hold.running h).2
    rw [hne, Bool.false_and, Bool.or_false]
  | @taken fault pin hp =>
    have hne : inputs.isEmpty = false := by simpa using List.ne_nil_of_mem hp
    rw [hne, Bool.false_and, Bool.or_false]
  | inputless _ h =>
    have hnil : inputs.isEmpty = true := by simpa using h
    rw [Rig.consuming_startConsumers, hnil, Bool.true_and, ← sinks_isEmpty_of_inSetting hrun]

/-- GPIO holds the second input, and the consumers run neither before nor after. -/
theorem consuming_of_refused_start : ∃ s,
    new { adc := { inputs := ["PA0", "PA3"] } } .fresh = .ok s ∧
    let script : List Stimulus := [.handle "gpio:set:porta:pin3"]
    ∃ fault, (s.run script).answer (.handle "ADC:start\r\n") = .error fault ∧
      ((s.run script).undergo (.handle "ADC:start\r\n")).rig.consuming = false := by
  have hrefused : (new { adc := { inputs := ["PA0", "PA3"] } } .fresh).toOption.any (fun s =>
      ((s.run [.handle "gpio:set:porta:pin3"]).answer (.handle "ADC:start\r\n")).isOk == false &&
      !(s.run [.handle "gpio:set:porta:pin3"]).rig.consuming) = true := by
    decide +kernel
  obtain ⟨s, hnew, hcheck⟩ := exists_new_of_any hrefused
  refine ⟨s, hnew, ?_⟩
  rw [Bool.and_eq_true, beq_iff_eq, Bool.not_eq_true'] at hcheck
  obtain ⟨fault, hf⟩ := exists_error_of_isOk hcheck.1
  have hread : Line.read (Config.Fetch.limits {}) "ADC:start\r\n" =
      .ok (some ⟨["ADC", "start"], []⟩) := by
    decide
  refine ⟨fault, hf, ?_⟩
  rw [consuming_of_failed_start ⟨rfl, fun _ => rfl⟩ hnew [.handle "gpio:set:porta:pin3"] hread
    (by decide) (by simp [lineStimuli]) hf, hcheck.2]
  rfl

/-- Without inputs the start is refused, and the consumers run after it. -/
theorem consuming_after_start_without_inputs : ∃ s,
    new { adc := { inputs := [] } } .fresh = .ok s ∧
    s.answer (.execute "adc:start") = .error (.notReady "no converter inputs configured") ∧
    s.rig.consuming = false ∧ (s.undergo (.execute "adc:start")).rig.consuming = true := by
  have hstart : (new { adc := { inputs := [] } } .fresh).toOption.any (fun s =>
      s.answer (.execute "adc:start") == .error (.notReady "no converter inputs configured") &&
      !s.rig.consuming && (s.undergo (.execute "adc:start")).rig.consuming) = true := by
    decide +kernel
  obtain ⟨s, hnew, hcheck⟩ := exists_new_of_any hstart
  simp only [Bool.and_eq_true, Bool.not_eq_true', beq_iff_eq] at hcheck
  obtain ⟨⟨hanswer, hbefore⟩, hafter⟩ := hcheck
  exact ⟨s, hnew, hanswer, hbefore, hafter⟩

end Station

end Instrument
