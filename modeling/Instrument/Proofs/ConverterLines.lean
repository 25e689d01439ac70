import Instrument.Proofs.ConverterStart
import Instrument.Proofs.NumeralGrammar
import Instrument.Proofs.SentReplies

/-!
# Lines to the converter

The converter's command rests without pins, or its unit runs, or it still holds the pins of a
one-shot that is over. `Does` has one rule for each thing that a line can make of it. A line
succeeds exactly if a rule applies to it, and a line that fails leaves the command as it was.
-/

namespace Instrument

open Act Text

namespace Line

variable {line : Line}

lemma asks_unique {words words' : List String} (h : line.asks words = true)
    (h' : line.asks words' = true) : words = words' :=
  (asks_iff.1 h).1.symm.trans (asks_iff.1 h').1

lemma asks_eq_false {words words' : List String} (h : line.asks words = true)
    (hne : words ≠ words') : line.asks words' = false :=
  Bool.eq_false_iff.2 fun h' => hne (asks_unique h h')

/-- The line begins with the name of the command and the word of the action. -/
lemma pair_prefix_iff {word action : String} : [word, action] <+: line.command.map fold ↔
    fold (line.command.headD "") = word ∧ line.word? 1 = some action := by
  rw [word?]
  rcases line.command with _ | ⟨first, _ | ⟨second, rest⟩⟩
  · simp
  · simp [List.cons_prefix_cons]
  · simp [List.cons_prefix_cons, eq_comm]

end Line

namespace Adc

variable {inputs : List Pin} {defaultUs : Nat} {line : Line} {adc adc' : Adc} {dac : Dac}
  {rig : Rig} {pins : PinTable}

/-- The mode that a configure line spells out. A continuous one may come without its period, and
then has the one that was configured. -/
inductive Spells (defaultUs : Nat) (line : Line) : Sampling → Prop
  | oneshot (hc : line.command.map fold = ["adc", "configure", "oneshot"]) (hd : line.data = []) :
      Spells defaultUs line .oneshot
  | standing (hc : line.command.map fold = ["adc", "configure", "continuous"])
      (hd : line.data = []) : Spells defaultUs line (.continuous defaultUs)
  | period {token : String} {n : Nat}
      (hc : line.command.map fold = ["adc", "configure", "continuous"]) (hd : line.data = [token])
      (hn : Numeral.Unsigned token.toList n) (hb : 10 ≤ n ∧ n ≤ 10000000) :
      Spells defaultUs line (.continuous n)

/-- The word that stands for a kind of sampling. -/
def kindWord : SampleType → String
  | .oneshot => "oneshot"
  | .continuous => "continuous"

/-- What the checks of a configure line make sure of. -/
lemma checks_iff (kind : SampleType) (hp : ["adc", "configure"] <+: line.command.map fold) :
    Vocabulary.sampleTypes.resolve line.command[2]? = .ok kind ∧ line.expectNoMore 3 = .ok () ↔
      line.command.map fold = ["adc", "configure", kindWord kind] := by
  obtain ⟨hcommand, haction⟩ := Line.pair_prefix_iff.1 hp
  have hkind : Vocabulary.sampleTypes.resolve line.command[2]? = .ok kind ↔
      line.word? 2 = some (kindWord kind) := by
    apply Line.resolve_iff_word? kindWord (by decide)
    cases kind <;> decide
  rw [Line.words_eq_iff, hkind]
  exact ⟨fun h => ⟨hcommand, haction, h⟩, fun h => h.2.2⟩

lemma modeOf_eq_ok_iff (hdefault : adc.defaultMode = .continuous defaultUs)
    (hp : ["adc", "configure"] <+: line.command.map fold) {mode : Sampling} :
    adc.modeOf line = .ok mode ↔ Spells defaultUs line mode := by
  constructor
  · intro h
    unfold modeOf at h
    obtain ⟨kind, hkind, h⟩ := Station.bind_eq_ok h
    obtain ⟨_, hmore, h⟩ := Station.bind_eq_ok h
    have hwords := (checks_iff kind hp).1 ⟨hkind, hmore⟩
    cases kind with
    | oneshot =>
      obtain ⟨data, hdata, h⟩ := Station.bind_eq_ok h
      cases h
      exact .oneshot hwords (Line.expectData_zero_iff.1 hdata).1
    | continuous =>
      dsimp only at h
      rcases hd : line.data with _ | ⟨token, _ | ⟨extra, rest⟩⟩
      · rw [hd] at h
        cases h
        rw [defaultPeriodUs, hdefault]
        exact .standing hwords hd
      · rw [hd] at h
        dsimp only at h
        cases hn : Numeral.within minPeriodUs maxPeriodUs token with
        | error d =>
          rw [hn] at h
          cases h
        | ok n =>
          rw [hn] at h
          cases h
          obtain ⟨hnumber, hbounds⟩ := (Numeral.within_eq_ok_iff (by decide)).1 hn
          exact .period hwords hd hnumber hbounds
      · rw [hd] at h
        cases h
  · intro h
    cases h with
    | oneshot hc hd =>
      have hchecks := (checks_iff .oneshot hp).2 hc
      simp only [modeOf, hchecks, Line.expectData_zero_iff.2 ⟨hd, rfl⟩]
      rfl
    | standing hc hd =>
      have hchecks := (checks_iff .continuous hp).2 hc
      simp only [modeOf, hchecks, hd, defaultPeriodUs, hdefault]
      rfl
    | @period token n hc hd hn hb =>
      have hchecks := (checks_iff .continuous hp).2 hc
      have hwithin : Numeral.within minPeriodUs maxPeriodUs token = .ok n :=
        (Numeral.within_eq_ok_iff (by decide)).2 ⟨hn, hb⟩
      simp only [modeOf, hchecks, hd, hwithin]
      rfl

/-! ## Rules -/

/-- The inputs are claimed: there are some, and the command has noted them. -/
def Claimed (adc : Adc) (inputs : List Pin) : Prop :=
  inputs ≠ [] ∧ adc.claimed = inputs

/-- The control once a stop has succeeded. -/
def stopped (adc : Adc) : Adc :=
  { adc with converter := adc.converter.stop, claimed := [] }

/-- What a line makes of the control. -/
inductive Does (inputs : List Pin) (defaultUs : Nat) (pins : PinTable) (line : Line) (adc : Adc) :
    Adc → Prop
  | start (ha : line.asks ["adc", "start"] = true) (hidle : adc.converter.running = false)
      (hin : inputs ≠ []) (hpins : adc.claimed = inputs ∨ ∀ pin ∈ inputs, pins.owner? pin = none) :
      Does inputs defaultUs pins line adc (adc.started inputs)
  | stop (ha : line.asks ["adc", "stop"] = true) (hcl : adc.Claimed inputs) :
      Does inputs defaultUs pins line adc adc.stopped
  | configure {mode : Sampling} (hp : ["adc", "configure"] <+: line.command.map fold)
      (hidle : adc.converter.running = false) (hmode : Spells defaultUs line mode) :
      Does inputs defaultUs pins line adc { adc with mode }
  | status (ha : line.asks ["adc", "status"] = true) : Does inputs defaultUs pins line adc adc

namespace Does

lemma of_start (h : Does inputs defaultUs pins line adc adc')
    (ha : line.asks ["adc", "start"] = true) : adc.converter.running = false ∧ inputs ≠ [] ∧
      (adc.claimed = inputs ∨ ∀ pin ∈ inputs, pins.owner? pin = none) ∧
      adc' = adc.started inputs := by
  cases h with
  | start _ hidle hin hpins => exact ⟨hidle, hin, hpins, rfl⟩
  | stop ha' => exact absurd (Line.asks_unique ha ha') (by decide)
  | configure hp =>
    rw [(Line.asks_iff.1 ha).1] at hp
    exact absurd hp (by decide)
  | status ha' => exact absurd (Line.asks_unique ha ha') (by decide)

lemma of_stop (h : Does inputs defaultUs pins line adc adc')
    (ha : line.asks ["adc", "stop"] = true) : adc.Claimed inputs ∧ adc' = adc.stopped := by
  cases h with
  | start ha' => exact absurd (Line.asks_unique ha ha') (by decide)
  | stop _ hcl => exact ⟨hcl, rfl⟩
  | configure hp =>
    rw [(Line.asks_iff.1 ha).1] at hp
    exact absurd hp (by decide)
  | status ha' => exact absurd (Line.asks_unique ha ha') (by decide)

lemma of_configure (h : Does inputs defaultUs pins line adc adc')
    (hp : ["adc", "configure"] <+: line.command.map fold) : adc.converter.running = false ∧
      ∃ mode, Spells defaultUs line mode ∧ adc' = { adc with mode } := by
  have hother : ∀ action, line.asks ["adc", action] = true → action = "configure" := by
    intro action ha
    rw [(Line.asks_iff.1 ha).1] at hp
    obtain ⟨rest, hrest⟩ := hp
    cases hrest
    rfl
  cases h with
  | start ha => exact absurd (hother _ ha) (by decide)
  | stop ha => exact absurd (hother _ ha) (by decide)
  | @configure mode _ hidle hmode => exact ⟨hidle, mode, hmode, rfl⟩
  | status ha => exact absurd (hother _ ha) (by decide)

end Does

/-- The line succeeds by a rule, or no rule applies and the control stays as it is. -/
def Follows (does : Adc → Prop) (adc : Adc) (out : Except Fault Unit × Adc × Rig) : Prop :=
  out.1 = .ok () ∧ does out.2.1 ∨
    (∃ fault, out.1 = .error fault) ∧ out.2.1 = adc ∧ ∀ adc', ¬ does adc'

lemma follows_start (hw : rig.console.Working) (h : Holdings inputs adc dac rig.pins)
    (ha : line.asks ["adc", "start"] = true) :
    Follows (Does inputs defaultUs rig.pins line adc) adc (start.exec (adc, rig)) := by
  have hends := start_ends hw h
  generalize start.exec (adc, rig) = out at hends ⊢
  obtain ⟨answer, adc₁, rig₁⟩ := out
  dsimp only at hends
  cases hends with
  | running hrun =>
    refine .inr ⟨⟨_, rfl⟩, rfl, fun adc' hdoes => ?_⟩
    have hidle := (hdoes.of_start ha).1
    rw [hidle] at hrun
    cases hrun
  | taken hp ho hcl =>
    refine .inr ⟨⟨_, rfl⟩, rfl, fun adc' hdoes => ?_⟩
    obtain ⟨-, hin, hpins, -⟩ := hdoes.of_start ha
    rcases hpins with hpins | hpins
    · exact hin (hpins.symm.trans hcl)
    · exact ho (hpins _ hp)
  | inputless _ hnil =>
    refine .inr ⟨⟨_, rfl⟩, rfl, fun adc' hdoes => ?_⟩
    exact (hdoes.of_start ha).2.1 hnil
  | started hidle hin hpins => exact .inl ⟨rfl, .start ha hidle hin hpins⟩

/-- A change of the control that is traced. -/
lemma exec_modify_debug {f : Adc × Rig → Adc × Rig} {s : Adc × Rig} (text : String)
    (hw : (f s).2.console.Working) : ∃ console,
      (modify f >>= fun _ => beside (Rig.debug text) : Act (Adc × Rig) Unit).exec s =
        (.ok (), (f s).1, { (f s).2 with console }) := by
  rw [exec_bind, exec_modify]
  dsimp only
  rw [exec_beside, Rig.debug, Rig.onConsole, exec_zoom, Console.exec_debug hw]
  exact ⟨_, rfl⟩

lemma follows_stop (hw : rig.console.Working) (h : Holdings inputs adc dac rig.pins)
    (ha : line.asks ["adc", "stop"] = true) :
    Follows (Does inputs defaultUs rig.pins line adc) adc (stop.exec (adc, rig)) := by
  rw [stop, exec_bind, exec_get]
  dsimp only
  by_cases hcl : adc.claimed = []
  · -- A unit that runs has inputs, and these are claimed.
    have hidle : adc.converter.running = false := by
      by_contra hrun
      obtain ⟨hclaimed, hin⟩ := h.running (by simpa using hrun)
      exact hin (hclaimed.symm.trans hcl)
    rw [if_pos (by simp [hidle, hcl])]
    refine .inr ⟨⟨_, rfl⟩, rfl, fun adc' hdoes => ?_⟩
    obtain ⟨hin, hclaimed⟩ := (hdoes.of_stop ha).1
    exact hin (hclaimed.symm.trans hcl)
  · have hclaimed := h.noted.resolve_left hcl
    have hsilent := Rig.silent_convert adc.converter adc.converter.pending rig
    obtain ⟨console, hexec⟩ := exec_modify_debug (f := fun s : Adc × Rig => releaseInputs (halt s))
      (s := (adc, rig)) "adc stopped" (Rig.working_of_setting hsilent.setting hw)
    rw [if_neg (by simp [hcl]), hexec]
    exact .inl ⟨rfl, .stop ha ⟨hclaimed ▸ hcl, hclaimed⟩⟩

lemma follows_configure (hw : rig.console.Working)
    (hdefault : adc.defaultMode = .continuous defaultUs)
    (hp : ["adc", "configure"] <+: line.command.map fold) :
    Follows (Does inputs defaultUs rig.pins line adc) adc ((configure line).exec (adc, rig)) := by
  rw [configure, exec_bind, exec_get]
  dsimp only
  by_cases hrun : adc.converter.running = true
  · rw [if_pos hrun]
    refine .inr ⟨⟨_, rfl⟩, rfl, fun adc' hdoes => ?_⟩
    have hidle := (hdoes.of_configure hp).1
    rw [hidle] at hrun
    cases hrun
  · rw [if_neg hrun, exec_bind, exec_check]
    cases hmode : adc.modeOf line with
    | error fault =>
      refine .inr ⟨⟨_, rfl⟩, rfl, fun adc' hdoes => ?_⟩
      obtain ⟨-, mode, hspells, -⟩ := hdoes.of_configure hp
      rw [(modeOf_eq_ok_iff hdefault hp).2 hspells] at hmode
      cases hmode
    | ok mode =>
      have hspells := (modeOf_eq_ok_iff hdefault hp).1 hmode
      obtain ⟨console, hexec⟩ := exec_modify_debug (f := fun s : Adc × Rig =>
        ({ s.1 with mode }, s.2)) (s := (adc, rig)) ("adc mode " ++ mode.text) hw
      dsimp only
      rw [hexec]
      exact .inl ⟨rfl, .configure hp (by simpa using hrun) hspells⟩

/-- The lines with the state of the control, which come before those with the counters. -/
def stateLines (adc : Adc) : List String :=
  ["B:running:" ++ (if adc.converter.running then "1" else "0"), "S:mode:" ++ adc.mode.text]

lemma exec_status (adc : Adc) (hw : rig.console.Working) : ∃ counters rig',
    status.exec (adc, rig) = (.ok (), adc, rig') ∧ rig'.setting = rig.setting ∧
      rig'.console.replies = rig.console.replies ++ (adc.stateLines ++ counters) ∧
      ∀ reply ∈ counters, Opens "U64:" reply := by
  let first := rig.sent ("B:running:" ++ if adc.converter.running then "1" else "0")
  let second := first.sent ("S:mode:" ++ adc.mode.text)
  have hw₁ : first.console.Working := ⟨hw.up, hw.lossless⟩
  have hw₂ : second.console.Working := ⟨hw.up, hw.lossless⟩
  have hfirst : (Rig.onConsole (Console.valueBool "running" adc.converter.running)).exec rig =
      (.ok (), first) := Rig.exec_line hw _
  have hsecond : (Rig.onConsole (Console.valueText "mode" adc.mode.text)).exec first =
      (.ok (), second) := Rig.exec_line hw₁ _
  obtain ⟨_, rig', hreport, hset, counters, hcounters, hopen⟩ := Rig.counts_report hw₂
  refine ⟨counters, rig', ?_, hset, ?_, hopen⟩
  · rw [status, exec_bind, exec_get]
    dsimp only
    rw [exec_bind, exec_beside, hfirst]
    dsimp only
    rw [exec_bind, exec_beside, hsecond]
    dsimp only
    rw [exec_beside, hreport]
  · have hsent : second.console.replies = rig.console.replies ++ adc.stateLines := by
      change ((rig.console.sent _).sent _).replies = _
      rw [Console.replies_sent, Console.replies_sent, List.append_assoc]
      rfl
    rw [hcounters, hsent, List.append_assoc]

lemma follows_status (hw : rig.console.Working) (ha : line.asks ["adc", "status"] = true) :
    Follows (Does inputs defaultUs rig.pins line adc) adc (status.exec (adc, rig)) := by
  obtain ⟨counters, rig', hexec, -⟩ := exec_status adc hw
  rw [hexec]
  exact .inl ⟨rfl, .status ha⟩

lemma exec_dispatch_configure (hp : ["adc", "configure"] <+: line.command.map fold)
    (s : Adc × Rig) : (dispatch line).exec s = (configure line).exec s := by
  obtain ⟨-, hword⟩ := Line.pair_prefix_iff.1 hp
  have haction : Vocabulary.adcActions.resolve line.command[1]? = .ok .configure :=
    Line.resolve_of_word? hword (by decide)
  simp only [dispatch, haction, exec_bind, exec_check]

/-- The action is found only if its word stands in the line. -/
lemma prefix_of_resolve (hw : fold (line.command.headD "") = "adc")
    (haction : Vocabulary.adcActions.resolve line.command[1]? = .ok .configure) :
    ["adc", "configure"] <+: line.command.map fold := by
  obtain ⟨_, hword, hconfigure⟩ := Line.word?_of_resolve
    (p := fun word action => action = .configure → word = "configure") haction (by decide)
  rw [hconfigure rfl] at hword
  exact Line.pair_prefix_iff.2 ⟨hw, hword⟩

/-- A line that spells no action out, or too much of it, fails in the checks. -/
lemma follows_other (hw : fold (line.command.headD "") = "adc")
    (hother : ∀ action ∈ ["start", "stop", "status"], line.asks ["adc", action] = false)
    (hp : ¬ ["adc", "configure"] <+: line.command.map fold) :
    Follows (Does inputs defaultUs rig.pins line adc) adc ((dispatch line).exec (adc, rig)) := by
  simp only [List.forall_mem_cons] at hother
  obtain ⟨hstart, hstop, hstatus, -⟩ := hother
  have hnone : ∀ adc', ¬ Does inputs defaultUs rig.pins line adc adc' := by
    intro adc' hdoes
    cases hdoes with
    | start ha => exact absurd ha (by simp [hstart])
    | stop ha => exact absurd ha (by simp [hstop])
    | configure hp' => exact hp hp'
    | status ha => exact absurd ha (by simp [hstatus])
  have hrefused : ∀ (action : AdcAction) (word : String) (rest : Act (Adc × Rig) Unit),
      Vocabulary.adcActions.resolve line.command[1]? = .ok action →
      (∀ entry ∈ Vocabulary.adcActions.entries, entry.2 = action → fold entry.1 = word) →
      line.asks ["adc", word] = false → Follows (Does inputs defaultUs rig.pins line adc) adc
        ((check (line.expectNoMore 2) >>= fun _ => check (line.expectData 0) >>= fun _ =>
          rest).exec (adc, rig)) := by
    intro action word rest haction hword hasks
    rw [exec_bind, exec_check]
    cases hmore : line.expectNoMore 2 with
    | error fault => exact .inr ⟨⟨_, rfl⟩, rfl, hnone⟩
    | ok _ =>
      dsimp only
      rw [exec_bind, exec_check]
      cases hdata : line.expectData 0 with
      | error fault => exact .inr ⟨⟨_, rfl⟩, rfl, hnone⟩
      | ok data =>
        rw [Line.asks_of_resolve hw haction hword hmore hdata] at hasks
        cases hasks
  rw [dispatch, exec_bind, exec_check]
  cases haction : Vocabulary.adcActions.resolve line.command[1]? with
  | error fault => exact .inr ⟨⟨_, rfl⟩, rfl, hnone⟩
  | ok action =>
    cases action with
    | configure =>
      exact absurd (prefix_of_resolve hw haction) hp
    | start => exact hrefused .start "start" start haction (by decide) hstart
    | stop => exact hrefused .stop "stop" stop haction (by decide) hstop
    | status => exact hrefused .status "status" status haction (by decide) hstatus

/-- A line to the converter follows the rules. -/
lemma follows_dispatch (hw : rig.console.Working) (h : Holdings inputs adc dac rig.pins)
    (hdefault : adc.defaultMode = .continuous defaultUs)
    (hword : fold (line.command.headD "") = "adc") :
    Follows (Does inputs defaultUs rig.pins line adc) adc ((dispatch line).exec (adc, rig)) := by
  by_cases hstart : line.asks ["adc", "start"] = true
  · rw [exec_dispatch_of_asks .start (by decide) hstart]
    exact follows_start hw h hstart
  by_cases hstop : line.asks ["adc", "stop"] = true
  · rw [exec_dispatch_of_asks .stop (by decide) hstop]
    exact follows_stop hw h hstop
  by_cases hstatus : line.asks ["adc", "status"] = true
  · rw [exec_dispatch_of_asks .status (by decide) hstatus]
    exact follows_status hw hstatus
  by_cases hp : ["adc", "configure"] <+: line.command.map fold
  · rw [exec_dispatch_configure hp]
    exact follows_configure hw hdefault hp
  · apply follows_other hword ?_ hp
    simp only [List.forall_mem_cons, Bool.eq_false_iff]
    exact ⟨hstart, hstop, hstatus, nofun⟩

end Adc

end Instrument
