import Instrument.Proofs.ConverterCycle

/-!
# Conversion periods

A period reaches the converter in two ways. One that a line gives is checked against the bounds. The
configured one is not, although the unit begins with it, returns to it with every reset, and takes
it up whenever a line leaves the period out. So the period is in range in every run exactly if the
configured one is.
-/

namespace Instrument

open Act Text

/-- A conversion is made once, or with a period between 10 microseconds and 10 seconds. -/
def Sampling.InRange : Sampling → Prop
  | .oneshot => True
  | .continuous periodUs => 10 ≤ periodUs ∧ periodUs ≤ 10000000

variable {defaultUs : Nat} {line : Line} {adc : Adc} {dac : Dac}

/-- A start sets the timer that the mode asks for, or leaves the unit alone. -/
lemma Converter.timer_start (mode : Sampling) (c : Converter) (timer : Timer)
    (ht : ((start mode).exec c).2.timer = some timer) :
    c.timer = some timer ∨ mode = timer.mode := by
  rw [start, exec_update] at ht
  split at ht
  · next c' he =>
    split at he
    · cases he
    · split at he
      · cases he
      · cases he
        cases ht
        exact .inr (Timer.mode_timer mode).symm
  · exact .inl ht

namespace Adc

/-- A mode that is out of range is the configured one. -/
structure Paced (defaultUs : Nat) (adc : Adc) : Prop extends Sound defaultUs adc where
  mode : adc.mode = .continuous defaultUs ∨ adc.mode.InRange

lemma Spells.inRange {mode : Sampling} (h : Spells defaultUs line mode) :
    mode = .continuous defaultUs ∨ mode.InRange := by
  cases h with
  | oneshot => exact .inr trivial
  | standing => exact .inl rfl
  | period hc hd hn hb => exact .inr hb

namespace Paced

lemma of_ofRig (rig : Rig) : (ofRig rig).Paced rig.config.adc.periodUs :=
  ⟨sound_ofRig rig, .inl rfl⟩

/-- Pins may be claimed and given back, and the timer may run in the period of the mode. -/
lemma retimed (h : adc.Paced defaultUs) {converter : Converter} (claimed : List Pin)
    (ht : ∀ timer, converter.timer = some timer → adc.converter.timer = some timer ∨
      adc.mode = timer.mode) :
    Paced defaultUs { adc with converter, claimed } :=
  ⟨⟨h.default, fun timer he => (ht timer he).elim (h.timed timer) id⟩, h.mode⟩

lemma stopped (h : adc.Paced defaultUs) :
    Paced defaultUs { adc with converter := adc.converter.stop, claimed := [] } :=
  h.retimed [] nofun

lemma reset (h : adc.Paced defaultUs) : Paced defaultUs
    { adc with converter := adc.converter.stop, mode := adc.defaultMode, claimed := [] } :=
  ⟨⟨h.default, nofun⟩, .inl h.default⟩

lemma configured (h : adc.Paced defaultUs) (hidle : adc.converter.running = false)
    {mode : Sampling} (hmode : mode = .continuous defaultUs ∨ mode.InRange) :
    Paced defaultUs { adc with mode } := by
  refine ⟨⟨h.default, fun timer ht => ?_⟩, hmode⟩
  change adc.converter.timer = some timer at ht
  rw [Converter.running, ht] at hidle
  cases hidle

lemma advance (h : adc.Paced defaultUs) (us : Nat) (rig : Rig) :
    (Adc.advance us (adc, rig)).1.Paced defaultUs := by
  cases ht : adc.converter.timer with
  | none =>
    simp only [Adc.advance, ht]
    exact h
  | some timer =>
    simp only [Adc.advance, ht]
    refine h.retimed adc.claimed fun timer' ht' => .inr ?_
    exact (h.timed timer ht).trans (Timer.mode_advance ht').symm

end Paced

/-- The condition on the control, whatever has become of the rig. -/
def KeepsPace (defaultUs : Nat) (s : Adc × Rig) : Prop :=
  s.1.Paced defaultUs

lemma keeps_pace_claimInputs : Keeps (KeepsPace defaultUs) claimInputs := by
  rintro ⟨adc, rig⟩ h
  simp only [claimInputs, exec]
  split
  · exact Paced.retimed h _ fun _ => .inl
  · exact h

lemma keeps_pace_startUnits : Keeps (KeepsPace defaultUs) startUnits := by
  rintro ⟨adc, rig⟩ h
  have ht := Converter.timer_start adc.mode adc.converter
  simp only [exec] at ht
  simp only [startUnits, exec]
  split
  · next heq =>
    rw [heq] at ht
    exact Paced.retimed h adc.claimed ht
  · next heq =>
    rw [heq] at ht
    exact Paced.retimed h [] ht

/-- Only a configure line sets a period, and it gives one in range or none. -/
lemma steady_pace (hword : fold (line.command.headD "") = "adc") :
    Steady line (KeepsPace defaultUs) where
  replies _ _ _ h := h
  claim := keeps_pace_claimInputs
  units _ := keeps_pace_startUnits
  stop _ h := Paced.stopped h
  configure _ _ _ h hidle haction hmode := by
    have hp := prefix_of_resolve hword haction
    have hspells := (modeOf_eq_ok_iff (Paced.toSound h).default hp).1 hmode
    exact Paced.configured h hidle hspells.inRange

lemma Paced.dispatch (h : adc.Paced defaultUs) (hword : fold (line.command.headD "") = "adc")
    (rig : Rig) : ((dispatch line).exec (adc, rig)).2.1.Paced defaultUs :=
  (steady_pace hword).dispatch hword (adc, rig) h

end Adc

namespace Station

variable {config : Config} {console : Console} {s : Station}

/-- The commands are in their places, and the period is in range or the configured one. -/
def Paced (defaultUs : Nat) (s : Station) : Prop :=
  ∃ adc dac, s.registry.Built adc dac ∧ adc.Paced defaultUs

lemma paced_undergo (s : Station) (stimulus : Stimulus) (h : s.Paced defaultUs) :
    (s.undergo stimulus).Paced defaultUs := by
  obtain ⟨adc, dac, hb, hp⟩ := h
  obtain ⟨adc', dac', rig', console, heffect, hb', -⟩ := leads_undergo hb stimulus
  refine ⟨adc', dac', hb', ?_⟩
  cases heffect with
  | carried before hset heffect =>
    cases heffect with
    | reply => exact hp
    | reset => exact hp.reset
    | gpio => exact hp
    | adc hl hword => exact hp.dispatch hword _
    | dac => exact hp
  | elapse us => exact hp.advance us _
  | setLevel => exact hp
  | setAnalog => exact hp

lemma paced_new (hnew : new config console = .ok s) :
    s.Paced config.adc.periodUs ∧ ∃ adc, s.adc? = some adc ∧
      adc.mode = .continuous config.adc.periodUs := by
  obtain ⟨rig, hnewRig, hs⟩ := station_new hnew
  obtain ⟨_, _, -, -, hrig⟩ := rig_new hnewRig
  have hconfig : rig.config = config := by rw [hrig]
  have hregistry : s.registry = .builtin rig := by rw [hs]
  have hb : s.registry.Built (.ofRig rig) ⟨false⟩ := by
    rw [hregistry]
    exact ⟨Registry.index_builtin rig, Registry.commands_builtin rig⟩
  rw [← hconfig]
  exact ⟨⟨_, _, hb, .of_ofRig rig⟩, _, adc?_of_built hb, rfl⟩

/-- In every run the unit samples once, or with a period in range, or with the configured period; a
running timer has the period of the mode. As nothing checks the configured period, the period is in
range throughout exactly if that one is. -/
theorem inRange_of_run (hnew : new config console = .ok s) :
    (∀ script, ∃ adc, (s.run script).adc? = some adc ∧
      (adc.mode = .continuous config.adc.periodUs ∨ adc.mode.InRange) ∧
      ∀ timer, adc.converter.timer = some timer → adc.mode = timer.mode) ∧
    ((∀ script adc, (s.run script).adc? = some adc → adc.mode.InRange) ↔
      10 ≤ config.adc.periodUs ∧ config.adc.periodUs ≤ 10000000) := by
  obtain ⟨hpaced, first, hfirst, hmode⟩ := paced_new hnew
  have hrun : ∀ script, ∃ adc, (s.run script).adc? = some adc ∧
      adc.Paced config.adc.periodUs := fun script => by
    obtain ⟨adc, dac, hb, hp⟩ := run_invariant paced_undergo hpaced script
    exact ⟨adc, adc?_of_built hb, hp⟩
  refine ⟨fun script => ?_, fun hall => ?_, fun hrange script adc hadc => ?_⟩
  · obtain ⟨adc, hadc, hp⟩ := hrun script
    exact ⟨adc, hadc, hp.mode, hp.timed⟩
  · have hin := hall [] first hfirst
    rwa [hmode] at hin
  · obtain ⟨adc', hadc', hp⟩ := hrun script
    rw [hadc'] at hadc
    cases hadc
    rcases hp.mode with hmode | hin
    · rw [hmode]
      exact hrange
    · exact hin

/-- A configuration that says nothing of the period. -/
theorem inRange_of_silent_config : ∃ s, new {} .fresh = .ok s ∧
    ∀ script adc, (s.run script).adc? = some adc → adc.mode.InRange := by
  obtain ⟨s, hnew⟩ := exists_of_isOk (r := new {} .fresh) (by decide +kernel)
  exact ⟨s, hnew, (inRange_of_run hnew).2.2 (by decide)⟩

/-- A configured period of 5 microseconds is accepted. A reset brings it back after a slower one,
and the converter runs with it. -/
theorem out_of_range_after_reset : ∃ s, new { adc := { periodUs := 5 } } .fresh = .ok s ∧
    let script : List Stimulus :=
      [.execute "adc:configure:continuous(500)", .reset, .execute "adc:start"]
    ∃ adc, (s.run script).adc? = some adc ∧ adc.converter.running = true ∧ ¬ adc.mode.InRange := by
  have hfast : (new { adc := { periodUs := 5 } } .fresh).toOption.any (fun s =>
      (s.run [.execute "adc:configure:continuous(500)", .reset, .execute "adc:start"]).adc?.any
        fun adc => adc.converter.running && adc.mode == .continuous 5) = true := by
    decide +kernel
  obtain ⟨s, hnew, hcheck⟩ := exists_new_of_any hfast
  refine ⟨s, hnew, ?_⟩
  intro script
  obtain ⟨adc, hadc, hany⟩ := (Option.any_eq_true _ _).1 hcheck
  rw [Bool.and_eq_true, beq_iff_eq] at hany
  refine ⟨adc, hadc, hany.1, ?_⟩
  rw [hany.2]
  exact fun hrange => absurd hrange.1 (by decide)

end Station

end Instrument
