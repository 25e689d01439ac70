import Instrument.Proofs.Crashes

/-!
# The life cycle of the converter

Only lines that follow the rules, time and resets change the control of the converter. So its mode
changes by nothing but a configure line that succeeds and a reset, and as the first is refused while
the unit runs, a running unit samples in the mode in which it was started: a one-shot until its
conversion is made, and every unit until it is stopped.
-/

namespace Instrument

open Act Text

namespace Timer

/-- The mode of a unit with the timer. -/
def mode : Timer → Sampling
  | .single => .oneshot
  | .periodic periodUs _ => .continuous periodUs

lemma mode_timer (mode : Sampling) : mode.timer.mode = mode := by
  cases mode <;> rfl

lemma mode_advance {us : Nat} {timer timer' : Timer} (h : (timer.advance us).2 = some timer') :
    timer'.mode = timer.mode := by
  cases timer with
  | single =>
    rw [Timer.advance] at h
    split at h
    · cases h
      rfl
    · cases h
  | periodic periodUs elapsedUs =>
    cases h
    rfl

end Timer

namespace Adc

/-- The default mode is the configured one, and a running unit samples as the mode says. -/
structure Sound (defaultUs : Nat) (adc : Adc) : Prop where
  default : adc.defaultMode = .continuous defaultUs
  timed : ∀ timer, adc.converter.timer = some timer → adc.mode = timer.mode

lemma sound_ofRig (rig : Rig) : (ofRig rig).Sound rig.config.adc.periodUs :=
  ⟨rfl, nofun⟩

end Adc

namespace Station

variable {config : Config} {inputs : List Pin} {setting : Rig.Setting} {defaultUs : Nat}
  {s : Station} {stimulus : Stimulus} {line : Line} {adc adc' : Adc} {dac : Dac}
  {mode : Sampling}

def adc? (s : Station) : Option Adc :=
  s.registry.commands.findSome? fun
    | .adc adc => some adc
    | _ => none

lemma adc?_of_built (hb : s.registry.Built adc dac) : s.adc? = some adc := by
  rw [adc?, hb.commands]
  rfl

inductive Turns (inputs : List Pin) (defaultUs : Nat) (s : Station) (stimulus : Stimulus)
    (adc : Adc) : Adc → Prop
  | same : Turns inputs defaultUs s stimulus adc adc
  | line {line : Line} {adc' : Adc} (hd : s.dispatched? stimulus = some line)
      (h : Adc.Does inputs defaultUs s.rig.pins line adc adc') :
      Turns inputs defaultUs s stimulus adc adc'
  | elapse {timer : Timer} {us : Nat} (hs : stimulus = .elapse us)
      (ht : adc.converter.timer = some timer) : Turns inputs defaultUs s stimulus adc
        { adc with converter := { adc.converter with timer := (timer.advance us).2 } }
  | reset (h : s.resets stimulus) : Turns inputs defaultUs s stimulus adc
      { adc with converter := adc.converter.stop, mode := adc.defaultMode, claimed := [] }

lemma Turns.sound (h : Turns inputs defaultUs s stimulus adc adc') (hs : adc.Sound defaultUs) :
    adc'.Sound defaultUs := by
  cases h with
  | same => exact hs
  | line hd hdoes =>
    cases hdoes with
    | start =>
      refine ⟨hs.default, fun timer ht => ?_⟩
      cases ht
      exact (Timer.mode_timer adc.mode).symm
    | stop =>
      refine ⟨hs.default, fun timer ht => ?_⟩
      cases ht
    | configure hp hidle =>
      refine ⟨hs.default, fun timer ht => ?_⟩
      change adc.converter.timer = some timer at ht
      rw [Converter.running, ht] at hidle
      cases hidle
    | status => exact hs
  | @elapse timer us _ ht =>
    refine ⟨hs.default, fun timer' ht' => ?_⟩
    exact (hs.timed timer ht).trans (Timer.mode_advance ht').symm
  | reset =>
    refine ⟨hs.default, fun timer ht => ?_⟩
    cases ht

/-- An instrument over a working connection, whose commands and pins agree. -/
structure Cyclic (inputs : List Pin) (setting : Rig.Setting) (defaultUs : Nat) (adc : Adc)
    (dac : Dac) (s : Station) : Prop where
  inSetting : s.InSetting inputs setting
  built : s.registry.Built adc dac
  holdings : Holdings inputs adc dac s.rig.pins
  sound : adc.Sound defaultUs

/-- Everything that happens is one of the turns. -/
lemma turns_undergo (h : s.Cyclic inputs setting defaultUs adc dac) (stimulus : Stimulus) :
    ∃ adc' dac', (s.undergo stimulus).Cyclic inputs setting defaultUs adc' dac' ∧
      Turns inputs defaultUs s stimulus adc adc' := by
  obtain ⟨adc', dac', rig', console, heffect, hb, -⟩ := leads_undergo h.built stimulus
  have hnext := inSetting_undergo s stimulus h.inSetting
  have hturns : Turns inputs defaultUs s stimulus adc adc' := by
    cases heffect with
    | carried before hset heffect =>
      cases heffect with
      | reply => exact .same
      | reset _ hreset => exact .reset hreset
      | gpio => exact .same
      | @adc line hd hword =>
        have hfollows := Adc.follows_dispatch (Rig.working_of_setting hset h.inSetting.working)
          h.holdings h.sound.default hword
        rcases hfollows with ⟨-, hdoes⟩ | ⟨-, hsame, -⟩
        · exact .line hd hdoes
        · rw [hsame]
          exact .same
      | dac => exact .same
    | elapse us =>
      cases ht : adc.converter.timer with
      | none =>
        simp only [Adc.advance, ht]
        exact .same
      | some timer =>
        simp only [Adc.advance, ht]
        exact .elapse rfl ht
    | setLevel => exact .same
    | setAnalog => exact .same
  obtain ⟨adc₁, dac₁, hc, hold⟩ := hnext.holds
  have hsame := hc.symm.trans hb.commands
  cases hsame
  exact ⟨adc', dac', ⟨hnext, hb, hold, hturns.sound h.sound⟩, hturns⟩

lemma cyclic_new {console : Console} (hw : console.Working) (hnew : new config console = .ok s) :
    ∃ inputs adc dac, config.adc.inputs.mapM Rig.inputPin = .ok inputs ∧
      s.Cyclic inputs (settingOf config console) config.adc.periodUs adc dac ∧
      adc.converter.running = false := by
  obtain ⟨inputs, hinputs, hs⟩ := inSetting_new hw hnew
  obtain ⟨adc, dac, hc, hold⟩ := hs.holds
  have hconfig : s.rig.config = config := congrArg Rig.Setting.config hs.setting_eq
  obtain ⟨rig, -, rfl⟩ := station_new hnew
  have hsame := (Registry.commands_builtin rig).symm.trans hc
  cases hsame
  refine ⟨inputs, _, _, hinputs, ⟨hs, ⟨Registry.index_builtin rig, hc⟩, hold, ?_⟩, rfl⟩
  rw [← hconfig]
  exact Adc.sound_ofRig rig

/-- The answer to a line tells whether a rule applies to it. -/
lemma follows_of_dispatched (h : s.Cyclic inputs setting defaultUs adc dac)
    (hd : s.dispatched? stimulus = some line) (hword : fold (line.command.headD "") = "adc") :
    s.answer stimulus = .ok () ∧ (∃ adc', (s.undergo stimulus).adc? = some adc' ∧
        Adc.Does inputs defaultUs s.rig.pins line adc adc') ∨
      (∃ fault, s.answer stimulus = .error fault) ∧
        ∀ adc', ¬ Adc.Does inputs defaultUs s.rig.pins line adc adc' := by
  obtain ⟨before, after, hset, hanswer, hundergo⟩ := exists_undergo_of_dispatched hd
  rw [Registry.exec_dispatch_adc h.built.index h.built.commands hword] at hanswer hundergo
  have hadc : (s.undergo stimulus).adc? =
      some ((Adc.dispatch line).exec (adc, { s.rig with console := before })).2.1 := by
    rw [hundergo]
    rfl
  have hfollows := Adc.follows_dispatch (Rig.working_of_setting hset h.inSetting.working)
    h.holdings h.sound.default hword
  rw [hadc, hanswer]
  rcases hfollows with ⟨hok, hdoes⟩ | ⟨hfault, -, hnone⟩
  · exact .inl ⟨hok, _, rfl, hdoes⟩
  · exact .inr ⟨hfault, hnone⟩

lemma answer_eq_ok_iff (h : s.Cyclic inputs setting defaultUs adc dac)
    (hd : s.dispatched? stimulus = some line) (hword : fold (line.command.headD "") = "adc") :
    s.answer stimulus = .ok () ↔
      ∃ adc', Adc.Does inputs defaultUs s.rig.pins line adc adc' := by
  rcases follows_of_dispatched h hd hword with ⟨hok, adc', -, hdoes⟩ | ⟨⟨fault, hfault⟩, hnone⟩
  · exact iff_of_true hok ⟨adc', hdoes⟩
  · refine iff_of_false (fun hok => ?_) fun ⟨adc', hdoes⟩ => hnone adc' hdoes
    rw [hok] at hfault
    cases hfault

def Gives (limits : Limits) (stimulus : Stimulus) (line : Line) : Prop :=
  ∃ text, Line.read limits text = .ok (some line) ∧ stimulus ∈ lineStimuli text

/-- The stimulus is answered with success, and the program has not crashed over it. -/
def CarriedOut (s : Station) (stimulus : Stimulus) : Prop :=
  s.answer stimulus = .ok () ∧ (s.undergo stimulus).rig.crashed = false

/-- What lines and time make of the converter in a state. -/
structure LifeCycle (config : Config) (inputs : List Pin) (adc : Adc) (s : Station) : Prop where
  owned : ∀ pin, s.rig.pins.owner? pin = some .adc ↔ pin ∈ adc.claimed
  start : ∀ stimulus line, Gives config.fetch.limits stimulus line →
    line.asks ["adc", "start"] = true → (s.CarriedOut stimulus ↔
      adc.converter.running = false ∧ inputs ≠ [] ∧
        (adc.claimed = inputs ∨ ∀ pin ∈ inputs, s.rig.pins.owner? pin = none) ∧
        (s.rig.consuming = true ∨ ∀ sink ∈ config.pipe.sinks, '\x00' ∉ sink.name.toList))
  crash : ∀ stimulus, (s.undergo stimulus).rig.crashed = true ↔
    ∃ line, s.dispatched? stimulus = some line ∧ line.asks ["adc", "start"] = true ∧
      adc.ReachesConsumers inputs s.rig.pins ∧ s.rig.consuming = false ∧
      ∃ sink ∈ config.pipe.sinks, '\x00' ∈ sink.name.toList
  stop : ∀ stimulus line, Gives config.fetch.limits stimulus line →
    line.asks ["adc", "stop"] = true → (s.CarriedOut stimulus ↔ adc.Claimed inputs)
  configure : ∀ stimulus line, Gives config.fetch.limits stimulus line →
    ["adc", "configure"] <+: line.command.map fold → (s.CarriedOut stimulus ↔
      adc.converter.running = false ∧ ∃ mode, Adc.Spells config.adc.periodUs line mode)
  configured : ∀ stimulus line mode, Gives config.fetch.limits stimulus line →
    ["adc", "configure"] <+: line.command.map fold → s.CarriedOut stimulus →
    Adc.Spells config.adc.periodUs line mode → (s.undergo stimulus).adc? = some { adc with mode }
  modes : ∀ stimulus, ∃ adc', (s.undergo stimulus).adc? = some adc' ∧ (adc'.mode = adc.mode ∨
    s.resets stimulus ∧ adc'.mode = .continuous config.adc.periodUs ∨
    ∃ line, s.dispatched? stimulus = some line ∧ ["adc", "configure"] <+: line.command.map fold ∧
      s.CarriedOut stimulus ∧ Adc.Spells config.adc.periodUs line adc'.mode)
  status : ∀ stimulus line, Gives config.fetch.limits stimulus line →
    line.asks ["adc", "status"] = true → s.CarriedOut stimulus ∧ ∃ counters,
      Sends (adc.stateLines ++ counters) s (s.undergo stimulus) ∧
        ∀ reply ∈ counters, Opens "U64:" reply
  finished : adc.mode = .oneshot → ∀ us, 0 < us →
    (s.undergo (.elapse us)).adc? = some { adc with converter := adc.converter.stop }
  ended : ∀ stimulus adc', (s.undergo stimulus).adc? = some adc' →
    adc.converter.running = true → adc'.converter.running = false → s.resets stimulus ∨
      (∃ line, s.dispatched? stimulus = some line ∧ line.asks ["adc", "stop"] = true) ∨
      adc.mode = .oneshot ∧ ∃ us, 0 < us ∧ stimulus = .elapse us

/-- A line that does not start the converter is carried out if it is answered with success. -/
lemma carriedOut_iff (h : s.Cyclic inputs setting defaultUs adc dac) (hc : s.rig.crashed = false)
    (hd : s.dispatched? stimulus = some line) (hstart : line.asks ["adc", "start"] = false) :
    s.CarriedOut stimulus ↔ s.answer stimulus = .ok () := by
  refine and_iff_left ?_
  rw [crashed_of_not_start h.built fun other hother => ?_, hc]
  cases hd.symm.trans hother
  exact hstart

lemma not_asks_start (hp : ["adc", "configure"] <+: line.command.map fold) :
    line.asks ["adc", "start"] = false := by
  refine Bool.eq_false_iff.2 fun ha => ?_
  rw [(Line.asks_iff.1 ha).1] at hp
  exact absurd hp (by decide)

lemma spells_unique (h : adc.Sound defaultUs) (hp : ["adc", "configure"] <+: line.command.map fold)
    {mode mode' : Sampling} (hm : Adc.Spells defaultUs line mode)
    (hm' : Adc.Spells defaultUs line mode') : mode = mode' := by
  have hmode := (Adc.modeOf_eq_ok_iff h.default hp).2 hm
  rw [(Adc.modeOf_eq_ok_iff h.default hp).2 hm'] at hmode
  cases hmode
  rfl

lemma modes_undergo (h : s.Cyclic inputs setting defaultUs adc dac) (hc : s.rig.crashed = false)
    (stimulus : Stimulus) :
    ∃ adc', (s.undergo stimulus).adc? = some adc' ∧ (adc'.mode = adc.mode ∨
      s.resets stimulus ∧ adc'.mode = .continuous defaultUs ∨
      ∃ line, s.dispatched? stimulus = some line ∧ ["adc", "configure"] <+: line.command.map fold ∧
        s.CarriedOut stimulus ∧ Adc.Spells defaultUs line adc'.mode) := by
  obtain ⟨adc', dac', hnext, hturns⟩ := turns_undergo h stimulus
  refine ⟨adc', adc?_of_built hnext.built, ?_⟩
  cases hturns with
  | same => exact .inl rfl
  | @line line _ hd hdoes =>
    have hrule := hdoes
    cases hdoes with
    | start => exact .inl rfl
    | stop => exact .inl rfl
    | configure hp hidle hmode =>
      have hword := (Line.pair_prefix_iff.1 hp).1
      have hok := (answer_eq_ok_iff h hd hword).2 ⟨_, hrule⟩
      have hdone := (carriedOut_iff h hc hd (not_asks_start hp)).2 hok
      exact .inr (.inr ⟨line, hd, hp, hdone, hmode⟩)
    | status => exact .inl rfl
  | elapse => exact .inl rfl
  | reset hreset => exact .inr (.inl ⟨hreset, h.sound.default⟩)

lemma adc?_elapse (hb : s.registry.Built adc dac) (us : Nat) :
    (s.undergo (.elapse us)).adc? = some (Adc.advance us (adc, s.rig.ticked us)).1 := by
  have hadvance := Registry.advanceAll_builtin us adc dac (s.rig.ticked us)
  rw [← hb.commands] at hadvance
  change (Registry.advanceAll us s.registry.commands (s.rig.ticked us)).1.findSome? _ = _
  rw [hadvance]
  rfl

/-- A single conversion is over after any time, and the pins stay claimed. -/
lemma adc?_elapse_of_oneshot (h : s.Cyclic inputs setting defaultUs adc dac)
    (hmode : adc.mode = .oneshot) {us : Nat} (hus : 0 < us) :
    (s.undergo (.elapse us)).adc? = some { adc with converter := adc.converter.stop } := by
  rw [adc?_elapse h.built]
  cases ht : adc.converter.timer with
  | none =>
    have hrest : adc.converter.stop = adc.converter := by rw [Converter.stop, ← ht]
    simp only [Adc.advance, ht, hrest]
  | some timer =>
    have hsingle := h.sound.timed timer ht
    rw [hmode] at hsingle
    cases timer with
    | single => simp only [Adc.advance, ht, Timer.advance, if_neg hus.ne', Converter.stop]
    | periodic => cases hsingle

/-- Of the turns only a stop, a reset and the end of a single conversion bring the unit to rest. -/
lemma Turns.ended (h : Turns inputs defaultUs s stimulus adc adc') (hs : adc.Sound defaultUs)
    (hrun : adc.converter.running = true) (hidle : adc'.converter.running = false) :
    s.resets stimulus ∨
      (∃ line, s.dispatched? stimulus = some line ∧ line.asks ["adc", "stop"] = true) ∨
      adc.mode = .oneshot ∧ ∃ us, 0 < us ∧ stimulus = .elapse us := by
  cases h with
  | same =>
    rw [hrun] at hidle
    cases hidle
  | @line line _ hd hdoes =>
    cases hdoes with
    | start => cases hidle
    | stop ha => exact .inr (.inl ⟨line, hd, ha⟩)
    | configure =>
      exact absurd (hrun.symm.trans hidle) (by decide)
    | status =>
      rw [hrun] at hidle
      cases hidle
  | @elapse timer us hstimulus ht =>
    refine .inr (.inr ⟨?_, us, ?_, hstimulus⟩)
    · cases timer with
      | single => exact hs.timed _ ht
      | periodic => cases hidle
    · refine Nat.pos_of_ne_zero fun hzero => ?_
      subst hzero
      cases timer <;> cases hidle
  | reset hreset => exact .inl hreset

lemma sends_status (h : s.Cyclic inputs setting defaultUs adc dac) {text : String}
    (hread : Line.read s.registry.limits text = .ok (some line))
    (ha : line.asks ["adc", "status"] = true) (hs : stimulus ∈ lineStimuli text) :
    s.answer stimulus = .ok () ∧ ∃ counters,
      Sends (adc.stateLines ++ counters) s (s.undergo stimulus) ∧
        ∀ reply ∈ counters, Opens "U64:" reply := by
  have hword := (Line.asks_pair_iff.1 ha).1
  have hexec : ∀ console : Console, console.Working → ∃ body t,
      (∃ counters, body = adc.stateLines ++ counters ∧ ∀ reply ∈ counters, Opens "U64:" reply) ∧
      (Registry.dispatch line).exec (s.registry, { s.rig with console }) = (.ok (), t) ∧
      t.2.setting = ({ s.rig with console } : Rig).setting ∧
      t.2.console.replies = console.replies ++ body := by
    intro console hw
    let rig : Rig := { s.rig with console }
    have hrig : rig.console.Working := hw
    obtain ⟨counters, rig', hstatus, hset, hreplies, hopen⟩ := Adc.exec_status adc hrig
    have hline : (Adc.dispatch line).exec (adc, rig) = (.ok (), adc, rig') := by
      rw [Adc.exec_dispatch_of_asks .status (by decide) ha, hstatus]
    have hdispatch : (Registry.dispatch line).exec (s.registry, rig) = _ :=
      Registry.exec_dispatch_adc h.built.index h.built.commands hword
    rw [hline] at hdispatch
    exact ⟨_, _, ⟨counters, rfl, hopen⟩, hdispatch, hset, hreplies⟩
  obtain ⟨hanswer, body, ⟨counters, rfl, hopen⟩, hsends⟩ :=
    sends_of_read h.inSetting.working hread hexec hs
  exact ⟨hanswer, counters, hsends, hopen⟩

section

variable {console : Console}

lemma crashed_iff (h : s.Cyclic inputs (settingOf config console) defaultUs adc dac)
    (hc : s.rig.crashed = false) (stimulus : Stimulus) :
    (s.undergo stimulus).rig.crashed = true ↔
      ∃ line, s.dispatched? stimulus = some line ∧ line.asks ["adc", "start"] = true ∧
        adc.ReachesConsumers inputs s.rig.pins ∧ s.rig.consuming = false ∧
        ∃ sink ∈ config.pipe.sinks, '\x00' ∈ sink.name.toList := by
  rw [crashed_undergo_iff h.inSetting h.built h.holdings, unspawnable_iff h.inSetting, hc]
  exact or_iff_right Bool.false_ne_true

lemma carriedOut_start_iff (h : s.Cyclic inputs (settingOf config console) defaultUs adc dac)
    (hc : s.rig.crashed = false) (hd : s.dispatched? stimulus = some line)
    (ha : line.asks ["adc", "start"] = true) : s.CarriedOut stimulus ↔
      adc.converter.running = false ∧ inputs ≠ [] ∧
        (adc.claimed = inputs ∨ ∀ pin ∈ inputs, s.rig.pins.owner? pin = none) ∧
        (s.rig.consuming = true ∨ ∀ sink ∈ config.pipe.sinks, '\x00' ∉ sink.name.toList) := by
  rw [CarriedOut, answer_eq_ok_iff h hd (Line.asks_pair_iff.1 ha).1, ← Bool.not_eq_true,
    crashed_iff h hc]
  constructor
  · rintro ⟨⟨adc', hdoes⟩, hsafe⟩
    obtain ⟨hidle, hin, hpins, -⟩ := hdoes.of_start ha
    refine ⟨hidle, hin, hpins, or_iff_not_imp_left.2 fun hrest sink hsink hnull => hsafe ?_⟩
    exact ⟨line, hd, ha, ⟨hidle, hpins⟩, by simpa using hrest, sink, hsink, hnull⟩
  · rintro ⟨hidle, hin, hpins, hsafe⟩
    refine ⟨⟨_, .start ha hidle hin hpins⟩, ?_⟩
    rintro ⟨_, -, -, -, hrest, sink, hsink, hnull⟩
    rcases hsafe with hconsuming | hfree
    · rw [hrest] at hconsuming
      cases hconsuming
    · exact hfree sink hsink hnull

end

lemma carriedOut_stop_iff (h : s.Cyclic inputs setting defaultUs adc dac)
    (hc : s.rig.crashed = false) (hd : s.dispatched? stimulus = some line)
    (ha : line.asks ["adc", "stop"] = true) : s.CarriedOut stimulus ↔ adc.Claimed inputs := by
  rw [carriedOut_iff h hc hd (Line.asks_eq_false ha (by decide)),
    answer_eq_ok_iff h hd (Line.asks_pair_iff.1 ha).1]
  constructor
  · rintro ⟨adc', hdoes⟩
    exact (hdoes.of_stop ha).1
  · intro hcl
    exact ⟨_, .stop ha hcl⟩

lemma carriedOut_configure_iff (h : s.Cyclic inputs setting defaultUs adc dac)
    (hc : s.rig.crashed = false) (hd : s.dispatched? stimulus = some line)
    (hp : ["adc", "configure"] <+: line.command.map fold) : s.CarriedOut stimulus ↔
      adc.converter.running = false ∧ ∃ mode, Adc.Spells defaultUs line mode := by
  rw [carriedOut_iff h hc hd (not_asks_start hp),
    answer_eq_ok_iff h hd (Line.pair_prefix_iff.1 hp).1]
  constructor
  · rintro ⟨adc', hdoes⟩
    obtain ⟨hidle, mode, hmode, -⟩ := hdoes.of_configure hp
    exact ⟨hidle, mode, hmode⟩
  · rintro ⟨hidle, mode, hmode⟩
    exact ⟨_, .configure hp hidle hmode⟩

lemma adc?_of_configure (h : s.Cyclic inputs setting defaultUs adc dac)
    (hd : s.dispatched? stimulus = some line) (hp : ["adc", "configure"] <+: line.command.map fold)
    (hok : s.answer stimulus = .ok ()) {mode : Sampling} (hmode : Adc.Spells defaultUs line mode) :
    (s.undergo stimulus).adc? = some { adc with mode } := by
  rcases follows_of_dispatched h hd (Line.pair_prefix_iff.1 hp).1 with
    ⟨-, adc', hadc, hdoes⟩ | ⟨⟨fault, hfault⟩, -⟩
  · obtain ⟨-, mode', hmode', rfl⟩ := hdoes.of_configure hp
    rw [hadc, spells_unique h.sound hp hmode hmode']
  · rw [hok] at hfault
    cases hfault

lemma lifeCycle_of_cyclic {console : Console}
    (h : s.Cyclic inputs (settingOf config console) config.adc.periodUs adc dac)
    (hc : s.rig.crashed = false) (hlimits : s.registry.limits = config.fetch.limits) :
    s.LifeCycle config inputs adc := by
  have hgiven : ∀ stimulus line, Gives config.fetch.limits stimulus line →
      s.dispatched? stimulus = some line := by
    rintro stimulus line ⟨text, hread, hs⟩
    rw [← hlimits] at hread
    exact dispatched?_of_read h.inSetting.working hread hs
  constructor
  case owned => exact h.holdings.adc_holds
  case start => exact fun _ _ hg ha => carriedOut_start_iff h hc (hgiven _ _ hg) ha
  case crash => exact crashed_iff h hc
  case stop => exact fun _ _ hg ha => carriedOut_stop_iff h hc (hgiven _ _ hg) ha
  case configure => exact fun _ _ hg hp => carriedOut_configure_iff h hc (hgiven _ _ hg) hp
  case configured =>
    exact fun _ _ _ hg hp hdone hmode => adc?_of_configure h (hgiven _ _ hg) hp hdone.1 hmode
  case modes => exact modes_undergo h hc
  case status =>
    rintro stimulus line hg ha
    have hd := hgiven stimulus line hg
    obtain ⟨text, hread, hs⟩ := hg
    rw [← hlimits] at hread
    obtain ⟨hok, hcounters⟩ := sends_status h hread ha hs
    exact ⟨(carriedOut_iff h hc hd (Line.asks_eq_false ha (by decide))).2 hok, hcounters⟩
  case finished => exact fun hmode us hus => adc?_elapse_of_oneshot h hmode hus
  case ended =>
    intro stimulus adc' hadc hrun hidle
    obtain ⟨adc₁, dac₁, hnext, hturns⟩ := turns_undergo h stimulus
    have hsame := (adc?_of_built hnext.built).symm.trans hadc
    cases hsame
    exact hturns.ended h.sound hrun hidle

/-! ## Runs -/

/-- The unit runs, and the mode is the given one. -/
def Samples (mode : Sampling) (s : Station) : Prop :=
  ∃ adc, s.adc? = some adc ∧ adc.converter.running = true ∧ adc.mode = mode

/-- The stimulus is a start that is carried out, from rest and in the given mode. -/
structure StartsIn (mode : Sampling) (s : Station) (stimulus : Stimulus) : Prop where
  line : ∃ line, s.dispatched? stimulus = some line ∧ line.asks ["adc", "start"] = true
  carriedOut : s.CarriedOut stimulus
  rest : ∃ adc, s.adc? = some adc ∧ adc.converter.running = false ∧ adc.mode = mode

/-- The run of the unit began with a start in the script and goes on since then. -/
def Since (mode : Sampling) (s : Station) (script : List Stimulus) : Prop :=
  ∃ before start after, script = before ++ start :: after ∧ StartsIn mode (s.run before) start ∧
    ∀ now, now <+: after → Samples mode (s.run (before ++ start :: now))

lemma run_concat (s : Station) (script : List Stimulus) (stimulus : Stimulus) :
    s.run (script ++ [stimulus]) = (s.run script).undergo stimulus := by
  simp [run]

lemma Since.concat {script : List Stimulus} (h : Since mode s script)
    (hs : Samples mode (s.run (script ++ [stimulus]))) :
    Since mode s (script ++ [stimulus]) := by
  obtain ⟨before, start, after, rfl, hstart, hafter⟩ := h
  have happend : before ++ start :: after ++ [stimulus] =
      before ++ start :: (after ++ [stimulus]) := by
    rw [List.append_assoc, List.cons_append]
  refine ⟨before, start, after ++ [stimulus], happend, hstart, fun now hnow => ?_⟩
  rcases List.prefix_concat_iff.1 hnow with rfl | hnow
  · rwa [← happend]
  · exact hafter now hnow

/-- One more stimulus: the unit goes on in its mode, or it is started. -/
lemma since_concat {script : List Stimulus}
    (h : (s.run script).Cyclic inputs setting defaultUs adc dac)
    (hc : (s.run (script ++ [stimulus])).rig.crashed = false)
    (hsince : adc.converter.running = true → Since adc.mode s script)
    (hturns : Turns inputs defaultUs (s.run script) stimulus adc adc')
    (hadc : (s.run (script ++ [stimulus])).adc? = some adc')
    (hrun : adc'.converter.running = true) : Since adc'.mode s (script ++ [stimulus]) := by
  have hsamples : Samples adc'.mode (s.run (script ++ [stimulus])) := ⟨adc', hadc, hrun, rfl⟩
  cases hturns with
  | same => exact (hsince hrun).concat hsamples
  | @line line _ hd hdoes =>
    have hrule := hdoes
    cases hdoes with
    | start ha hidle =>
      have hok := (answer_eq_ok_iff h hd (Line.asks_pair_iff.1 ha).1).2 ⟨_, hrule⟩
      rw [run_concat] at hc
      refine ⟨script, stimulus, [], rfl, ⟨⟨line, hd, ha⟩, ⟨hok, hc⟩, ?_⟩, fun now hnow => ?_⟩
      · exact ⟨adc, adc?_of_built h.built, hidle, rfl⟩
      · rw [List.prefix_nil.1 hnow]
        exact hsamples
    | stop => cases hrun
    | configure hp hidle =>
      change adc.converter.running = true at hrun
      rw [hidle] at hrun
      cases hrun
    | status => exact (hsince hrun).concat hsamples
  | elapse _ ht =>
    have hbefore : adc.converter.running = true := by
      rw [Converter.running, ht]
      rfl
    exact (hsince hbefore).concat hsamples
  | reset => cases hrun

/-- What has crashed has crashed for good. -/
lemma crashed_run (h : s.InSetting inputs setting) (hb : s.registry.Built adc dac)
    (hold : Holdings inputs adc dac s.rig.pins)
    (hc : (s.undergo stimulus).rig.crashed = false) : s.rig.crashed = false := by
  rw [← Bool.not_eq_true, crashed_undergo_iff h hb hold] at hc
  exact Bool.eq_false_iff.2 fun hbefore => hc (.inl hbefore)

/-- At every point of a run over a working connection that has not crashed the control follows its
life cycle, and the unit, if it runs, was started in the mode that a status reports. -/
theorem lifeCycle_of_run {console : Console} (hw : console.Working)
    (hnew : new config console = .ok s) (script : List Stimulus)
    (hc : (s.run script).rig.crashed = false) :
    ∃ inputs adc, config.adc.inputs.mapM Rig.inputPin = .ok inputs ∧
      (s.run script).adc? = some adc ∧ LifeCycle config inputs adc (s.run script) ∧
      (adc.converter.running = true → Since adc.mode s script) := by
  obtain ⟨inputs, adc₀, dac₀, hinputs, hstart, hidle⟩ := cyclic_new hw hnew
  have hrun : ∃ adc dac, (s.run script).Cyclic inputs (settingOf config console)
      config.adc.periodUs adc dac ∧ ((s.run script).rig.crashed = false →
        adc.converter.running = true → Since adc.mode s script) := by
    clear hc
    induction script using List.reverseRecOn with
    | nil =>
      refine ⟨adc₀, dac₀, hstart, fun _ hrun => ?_⟩
      rw [hidle] at hrun
      cases hrun
    | append_singleton script stimulus ih =>
      obtain ⟨adc, dac, hcyclic, hsince⟩ := ih
      obtain ⟨adc', dac', hnext, hturns⟩ := turns_undergo hcyclic stimulus
      refine ⟨adc', dac', run_concat s script stimulus ▸ hnext, fun hc => ?_⟩
      have hbefore := crashed_run hcyclic.inSetting hcyclic.built hcyclic.holdings
        (run_concat s script stimulus ▸ hc)
      refine since_concat hcyclic hc (hsince hbefore) hturns ?_
      rw [run_concat]
      exact adc?_of_built hnext.built
  obtain ⟨adc, dac, hcyclic, hsince⟩ := hrun
  have hlife := lifeCycle_of_cyclic hcyclic hc (limits_run hnew script)
  exact ⟨inputs, adc, hinputs, adc?_of_built hcyclic.built, hlife, hsince hc⟩

/-- A one-shot is under way: it was started in its mode, and nothing has ended it. -/
theorem lifeCycle_of_pending_oneshot : ∃ s, new {} .fresh = .ok s ∧
    let script : List Stimulus :=
      [.execute "adc:configure:oneshot", .handle "ADC:start", .handle "gpio:set:portc:pin13"]
    (s.run script).rig.crashed = false ∧ ∃ inputs adc, (s.run script).adc? = some adc ∧
      adc.converter.running = true ∧ LifeCycle {} inputs adc (s.run script) ∧
      Since .oneshot s script := by
  have hpending : (new {} .fresh).toOption.any (fun s =>
      let t := s.run
        [.execute "adc:configure:oneshot", .handle "ADC:start", .handle "gpio:set:portc:pin13"]
      !t.rig.crashed && t.adc?.any fun adc =>
        adc.converter.running && adc.mode == .oneshot) = true := by
    decide +kernel
  obtain ⟨s, hnew, hcheck⟩ := exists_new_of_any hpending
  refine ⟨s, hnew, ?_⟩
  intro script
  change (!(s.run script).rig.crashed && (s.run script).adc?.any _) = true at hcheck
  rw [Bool.and_eq_true, Bool.not_eq_true'] at hcheck
  obtain ⟨hc, hany⟩ := hcheck
  obtain ⟨inputs, adc, -, hadc, hlife, hsince⟩ :=
    lifeCycle_of_run ⟨rfl, fun _ => rfl⟩ hnew script hc
  rw [hadc, Option.any_some, Bool.and_eq_true, beq_iff_eq] at hany
  exact ⟨hc, inputs, adc, hadc, hany.1, hlife, hany.2 ▸ hsince hany.1⟩

/-- The converter rests and nobody holds its inputs, but the start crashes over the name of a
sink. -/
theorem not_carriedOut_of_null_name : ∃ s,
    new { pipe := { sinks := [⟨"a\x00b", 1⟩] } } .fresh = .ok s ∧
    ∃ adc, s.adc? = some adc ∧ adc.converter.running = false ∧ s.rig.inputs ≠ [] ∧
      (∀ pin ∈ s.rig.inputs, s.rig.pins.owner? pin = none) ∧
      ¬ s.CarriedOut (.execute "adc:start") := by
  have hcrash : (new { pipe := { sinks := [⟨"a\x00b", 1⟩] } } .fresh).toOption.any (fun s =>
      (s.adc?.any fun adc => !adc.converter.running) && !s.rig.inputs.isEmpty &&
      (s.rig.inputs.all fun pin => s.rig.pins.owner? pin == none) &&
      (s.undergo (.execute "adc:start")).rig.crashed) = true := by
    decide +kernel
  obtain ⟨s, hnew, hcheck⟩ := exists_new_of_any hcrash
  simp only [Bool.and_eq_true, Bool.not_eq_true', List.isEmpty_eq_false_iff, List.all_eq_true,
    beq_iff_eq, Option.any_eq_true] at hcheck
  obtain ⟨⟨⟨⟨adc, hadc, hidle⟩, hin⟩, hfree⟩, hcrashed⟩ := hcheck
  refine ⟨s, hnew, adc, hadc, hidle, hin, hfree, fun hdone => ?_⟩
  rw [hdone.2] at hcrashed
  cases hcrashed

end Station

end Instrument
