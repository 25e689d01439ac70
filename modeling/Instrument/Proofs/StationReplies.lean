import Instrument.Proofs.CommandReplies
import Instrument.Proofs.StationRuns

/-!
# The manner of the instrument

The registry hands a line on to a command, and the shell hands some of its own on to the registry,
so that both keep the manner of the rig. Nothing that can happen to the instrument over a working
connection changes the setting that it works in.
-/

namespace Instrument

open Act Text Rig

variable {inputs : List Pin} {rig : Rig} {line : Line}

namespace Registry

variable {r : Registry}

def manner : Manner (Registry × Rig) :=
  Rig.manner.beside Registry

lemma tells_command {adc : Adc} {dac : Dac} {command : Command} (hw : rig.console.Working)
    (hl : line.OneLine) (h : Holdings inputs adc dac rig.pins)
    (hc : command ∈ [.version, .status, .gpio, .adc adc, .dac dac]) :
    Tells (Rig.manner.beside Command) (Command.dispatch line) (command, rig) := by
  simp only [List.mem_cons, List.not_mem_nil, or_false] at hc
  rcases hc with rfl | rfl | rfl | rfl | rfl
  · exact (System.tells_version hw hl).beside
  · exact (System.tells_status hw hl).beside
  · exact (Gpio.tells_dispatch hw hl).beside
  · exact (Adc.tells_dispatch hw hl h).lift Command.adc rfl
  · exact (Dac.tells_dispatch hw hl h).lift Command.dac rfl

lemma tells_dispatchAt (hw : rig.console.Working) (hl : line.OneLine)
    (h : Holds inputs (r, rig)) (place : Nat) :
    Tells manner (dispatchAt place line) (r, rig) := by
  obtain ⟨adc, dac, hc, hold⟩ := h
  change r.commands = _ at hc
  cases hp : r.commands[place]? with
  | none =>
    have hexec : (dispatchAt place line).exec (r, rig) = (.ok (), r, rig) := by
      simp only [dispatchAt, exec, hp]
    exact tells_of_ok hexec (Quiet.refl rig).loud
  | some command =>
    have hcommand := tells_command hw hl hold (hc ▸ List.mem_of_getElem? hp)
    -- In the quiet case the command is put back as it was, and that is no change.
    have hsame : { r with commands := r.commands.set place command } = r := by
      obtain ⟨hlt, hget⟩ := List.getElem?_eq_some_iff.1 hp
      rw [← hget, List.set_getElem_self]
    have hline : Tells manner (dispatchAt place line)
        ({ r with commands := r.commands.set place command }, rig) := by
      refine hcommand.lift (fun command => { r with commands := r.commands.set place command }) ?_
      rw [hsame]
      exact exec_dispatchAt hp line rig
    rwa [hsame] at hline

lemma succeeds_infoLines (lines : List String) (hw : rig.console.Working)
    (h : ∀ text ∈ lines, OneLine text) : Succeeds Rig.manner (infoLines lines) rig := by
  induction lines generalizing rig with
  | nil => exact succeeds_pure () rig
  | cons text rest ih =>
    refine (succeeds_info hw (h text List.mem_cons_self)).bind fun _ rig' hl => ?_
    apply ih (working_of_setting hl.setting hw)
    exact fun other hmem => h other (List.mem_cons_of_mem _ hmem)

lemma oneLine_padTo (width : Nat) {text : String} (h : OneLine text) :
    OneLine (padTo width text) := by
  rw [padTo, oneLine_append]
  refine ⟨h, oneLine_of_chars fun c hc => ?_⟩
  rw [String.toList_ofList] at hc
  rw [List.eq_of_mem_replicate hc]
  decide

/-- What the built-in commands say about themselves is written out. -/
lemma oneLine_builtin {adc : Adc} {dac : Dac} :
    ∀ c ∈ [Command.version, .status, .gpio, .adc adc, .dac dac],
      OneLine c.name ∧ OneLine c.description ∧ OneLine c.usage := by
  intro c hc
  simp only [List.mem_cons, List.not_mem_nil, or_false] at hc
  rcases hc with rfl | rfl | rfl | rfl | rfl
  · exact ⟨oneLine_ofList rfl, oneLine_ofList rfl, oneLine_ofList rfl⟩
  · exact ⟨oneLine_ofList rfl, oneLine_ofList rfl, oneLine_ofList rfl⟩
  · refine ⟨oneLine_ofList rfl, oneLine_ofList rfl, ?_⟩
    exact oneLine_append.2 ⟨oneLine_ofList rfl, oneLine_ofList rfl⟩
  · exact ⟨oneLine_ofList rfl, oneLine_ofList rfl, oneLine_ofList rfl⟩
  · exact ⟨oneLine_ofList rfl, oneLine_ofList rfl, oneLine_ofList rfl⟩

lemma oneLine_listing
    (h : ∀ c ∈ r.commands, OneLine c.name ∧ OneLine c.description ∧ OneLine c.usage) :
    ∀ entry ∈ r.listing, OneLine entry.1 ∧ OneLine entry.2 := by
  intro entry hentry
  rw [listing, List.mem_mergeSort, List.mem_append] at hentry
  rcases hentry with hcommand | hown
  · obtain ⟨c, hc, rfl⟩ := List.mem_map.1 hcommand
    exact ⟨(h c hc).1, (h c hc).2.1⟩
  · simp only [List.mem_cons, List.not_mem_nil, or_false] at hown
    rcases hown with rfl | rfl
    · exact ⟨oneLine_ofList rfl, oneLine_ofList rfl⟩
    · exact ⟨oneLine_ofList rfl, oneLine_ofList rfl⟩

lemma succeeds_help (hw : rig.console.Working) (h : Holds inputs (r, rig)) :
    Succeeds Rig.manner r.help rig := by
  obtain ⟨adc, dac, hc, -⟩ := h
  have htexts : ∀ c ∈ r.commands, OneLine c.name ∧ OneLine c.description ∧ OneLine c.usage := by
    rw [show r.commands = _ from hc]
    exact oneLine_builtin
  refine (succeeds_infoLines _ hw fun text htext => ?_).bind fun _ rig' hl =>
    succeeds_infoLines _ (working_of_setting hl.setting hw) fun text htext => ?_
  · obtain ⟨entry, hentry, rfl⟩ := List.mem_map.1 htext
    obtain ⟨hname, hdescription⟩ := oneLine_listing htexts entry hentry
    rw [oneLine_append, oneLine_append]
    exact ⟨⟨oneLine_padTo 10 hname, oneLine_ofList rfl⟩, hdescription⟩
  · obtain ⟨c, hcommand, rfl⟩ := List.mem_map.1 htext
    exact oneLine_append.2 ⟨oneLine_ofList rfl, (htexts c hcommand).2.2⟩

/-- A reset of the built-in commands succeeds, and tells no more than the conversion that it waits
for. -/
lemma exists_exec_reset (h : Holds inputs (r, rig)) :
    ∃ commands rig', reset.exec (r, rig) = (.ok (), { r with commands }, rig') ∧
      Loud rig rig' := by
  obtain ⟨adc, ⟨started⟩, hc, -⟩ := h
  change r.commands = _ at hc
  have hadc : Loud rig (Adc.reset (adc, Gpio.reset rig)).2 :=
    ((loud_pins rig _).trans
      (silent_convert adc.converter adc.converter.pending _).quiet.loud).trans (loud_pins _ _)
  have hexec : reset.exec (r, rig) = ((resetAll r.commands rig).1,
      { r with commands := (resetAll r.commands rig).2.1 },
      { (resetAll r.commands rig).2.2 with
        pins := (resetAll r.commands rig).2.2.pins.resetAll }) := rfl
  rw [hexec, hc, resetAll_builtin]
  cases started with
  | true => exact ⟨_, _, rfl, (hadc.trans (loud_pins _ _)).trans (loud_pins _ _)⟩
  | false => exact ⟨_, _, rfl, hadc.trans (loud_pins _ _)⟩

lemma succeeds_reset (h : Holds inputs (r, rig)) : Succeeds manner reset (r, rig) := by
  obtain ⟨commands, rig', he, hl⟩ := exists_exec_reset h
  exact ⟨(), _, he, hl⟩

lemma tells_dispatch (hw : rig.console.Working) (hl : line.OneLine)
    (h : Holds inputs (r, rig)) : Tells manner (dispatch line) (r, rig) := by
  have hword : OneLine (line.command.headD "") := by
    cases hcommand : line.command with
    | nil => exact oneLine_ofList rfl
    | cons word rest =>
      apply hl.command word
      rw [hcommand]
      exact List.mem_cons_self
  unfold dispatch
  dsimp only
  cases reserved? (line.command.headD "") with
  | none =>
    apply tells_get_bind
    dsimp only
    cases r.find? (line.command.headD "") with
    | none =>
      apply tells_throw
      rw [Fault.oneLine_parse, oneLine_append]
      exact ⟨oneLine_ofList rfl, hword⟩
    | some place => exact tells_dispatchAt hw hl h place
  | some reserved =>
    apply hl.tells_closed 1
    cases reserved with
    | help =>
      apply tells_get_bind
      exact ((succeeds_help hw h).beside (r := r)).tells
    | resetPins =>
      refine ((succeeds_reset h).bind fun _ s hl => ?_).tells
      exact (succeeds_info (working_of_setting hl.setting hw) (oneLine_ofList rfl)).beside

/-- A text that fails leaves the commands and the pins as they were. -/
lemma tells_execute (hw : rig.console.Working) (h : Holds inputs (r, rig)) (text : String) :
    Tells manner (execute text) (r, rig) := by
  apply tells_get_bind
  dsimp only
  cases hread : Line.read r.limits text with
  | error d => exact tells_throw d.oneLine_fault
  | ok line? =>
    cases line? with
    | none => exact (succeeds_pure () _).tells
    | some line =>
      have hl := Line.oneLine_of_read hread
      have htext : OneLine ("fetch: " ++ line.render) :=
        oneLine_append.2 ⟨oneLine_ofList rfl, hl.render⟩
      -- The trace is a note, so it may precede a line that fails.
      obtain ⟨rig', he, hq⟩ := exists_exec_debug hw htext
      have hdebug : (Act.beside (Rig.debug ("fetch: " ++ line.render))).exec (r, rig) =
          (.ok (), r, rig') := by
        rw [exec_beside, he]
      refine tells_bind_of_quiet hdebug ⟨rfl, hq⟩ ?_
      exact tells_dispatch (working_of_setting hq.setting hw) hl (holds_of_pins h rfl hq.pins)

/-- A text succeeds, or nothing has moved and its fault is the last line. -/
lemma parse_cases (hw : rig.console.Working) (h : Holds inputs (r, rig)) (text : String) :
    (∃ r' rig', ((execute text).exec (r, rig)).1 = .ok () ∧
      parse text (r, rig) = (true, r', rig') ∧ Loud rig rig') ∨
    ∃ (fault : Fault) (rig' : Rig), ((execute text).exec (r, rig)).1 = .error fault ∧
      parse text (r, rig) = (false, r, rig'.sent ("E:" ++ fault.message)) ∧
      Quiet rig rig' ∧ fault.OneLine := by
  have ht := tells_execute hw h text
  unfold Tells at ht
  rcases he : (execute text).exec (r, rig) with ⟨fault | _, r', rig'⟩
  · rw [he] at ht
    obtain ⟨⟨hr, hq⟩, hf⟩ := ht
    change r' = r at hr
    subst hr
    refine .inr ⟨fault, rig', rfl, ?_, hq, hf⟩
    have hline : (Act.beside (Rig.onConsole (Console.error fault.message))).exec (r', rig') =
        (.ok (), r', rig'.sent ("E:" ++ fault.message)) := by
      rw [exec_beside, Console.error, exec_line (working_of_setting hq.setting hw)]
    simp only [parse, he, hline]
  · rw [he] at ht
    refine .inl ⟨r', rig', rfl, ?_, ht⟩
    simp only [parse, he]

lemma exec_openFrame (hw : rig.console.Working) :
    (Rig.onConsole Console.openFrame).exec rig = (.ok (), rig.sent "BEGIN:") :=
  exec_line hw _

lemma handle_of_ne_blank (hw : rig.console.Working) {text : String}
    (htext : trim text.toList ≠ []) {ok : Bool} {r' : Registry} {rig' : Rig}
    (hp : parse text (r, rig.sent "BEGIN:") = (ok, r', rig'))
    (hw' : rig'.console.Working) :
    handle text (r, rig) = (ok, r', rig'.sent (if ok then "END:OK" else "END:ERROR")) := by
  have hopen : (Act.beside (Rig.onConsole Console.openFrame)).exec (r, rig) =
      (.ok (), r, rig.sent "BEGIN:") := by
    rw [exec_beside, exec_openFrame hw]
  have hclose : (Act.beside (Rig.onConsole (Console.closeFrame ok))).exec (r', rig') =
      (.ok (), r', rig'.sent (if ok then "END:OK" else "END:ERROR")) := by
    rw [exec_beside, Console.closeFrame, exec_line hw']
  rw [handle, if_neg (mt List.isEmpty_iff.1 htext)]
  simp only [hopen, hp, hclose]

lemma setting_parse (hw : rig.console.Working) (h : Holds inputs (r, rig)) (text : String) :
    (parse text (r, rig)).2.2.setting = rig.setting := by
  rcases parse_cases hw h text with ⟨r', rig', -, hp, hl⟩ | ⟨fault, rig', -, hp, hq, -⟩
  · rw [hp]
    exact hl.setting
  · rw [hp]
    exact hq.setting

lemma setting_handle (hw : rig.console.Working) (h : Holds inputs (r, rig)) (text : String) :
    (handle text (r, rig)).2.2.setting = rig.setting := by
  by_cases htext : trim text.toList = []
  · rw [handle, if_pos (List.isEmpty_iff.2 htext)]
  · have hopen : Holds inputs (r, rig.sent "BEGIN:") := holds_of_pins h rfl rfl
    have hs := setting_parse (working_of_setting (rig.setting_sent "BEGIN:") hw) hopen text
    rcases hp : parse text (r, rig.sent "BEGIN:") with ⟨ok, r', rig'⟩
    rw [hp] at hs
    rw [handle_of_ne_blank hw htext hp (working_of_setting hs ⟨hw.up, hw.lossless⟩)]
    exact hs

end Registry

lemma Adc.silent_advance (us : Nat) (adc : Adc) (rig : Rig) :
    Rig.Silent rig (advance us (adc, rig)).2 := by
  unfold advance
  dsimp only
  cases adc.converter.timer with
  | none => exact .refl rig
  | some timer =>
    exact silent_convert adc.converter (timer.advance us).1 rig

/-! ## The instrument -/

namespace Station

variable {s t u : Station}

structure Quiet (s t : Station) : Prop where
  shell : t.shell = s.shell
  registry : t.registry = s.registry
  rig : Rig.Quiet s.rig t.rig

lemma Quiet.refl (s : Station) : Quiet s s :=
  ⟨rfl, rfl, .refl s.rig⟩

lemma Quiet.trans (h : Quiet s t) (h' : Quiet t u) : Quiet s u :=
  ⟨h'.shell.trans h.shell, h'.registry.trans h.registry, h.rig.trans h'.rig⟩

def manner : Manner Station where
  quiet := Quiet
  loud s t := Rig.Loud s.rig t.rig
  quiet_refl := Quiet.refl
  quiet_trans := Quiet.trans
  loud_trans := Rig.Loud.trans
  loud_of_quiet h := h.rig.loud

lemma succeeds_onRig {act : Act Rig Unit} (h : Succeeds Rig.manner act s.rig) :
    Succeeds manner (onRig act) s := by
  obtain ⟨a, rig, he, hl⟩ := h
  refine ⟨a, { s with rig }, ?_, hl⟩
  rw [onRig, exec_zoom, he]

lemma succeeds_reset (h : Holds inputs s) : Succeeds manner (onRegistry Registry.reset) s := by
  obtain ⟨commands, rig, he, hl⟩ := Registry.exists_exec_reset h
  refine ⟨(), { s with registry := { s.registry with commands }, rig }, ?_, hl⟩
  rw [onRegistry, exec_zoom, he]

lemma succeeds_modify {f : Station → Station} (h : Rig.Loud s.rig (f s).rig) :
    Succeeds manner (modify f) s :=
  ⟨(), f s, rfl, h⟩

lemma succeeds_info (hw : s.rig.console.Working) : Succeeds manner info s := by
  apply succeeds_get_bind
  refine (succeeds_onRig (succeeds_valueText hw (oneLine_ofList rfl)
    fun _ => oneLine_ofList rfl)).bind fun _ s₁ h₁ => ?_
  have hw₁ := working_of_setting h₁.setting hw
  refine (succeeds_onRig (succeeds_valueText hw₁ (oneLine_ofList rfl) ?_)).bind fun _ s₂ h₂ => ?_
  · rw [h₁.setting]
    exact fun hs => hs.tag
  have hw₂ := working_of_setting h₂.setting hw₁
  refine (succeeds_onRig (succeeds_value32 hw₂ (oneLine_ofList rfl) _)).bind fun _ s₃ h₃ => ?_
  exact succeeds_onRig
    (succeeds_value32 (working_of_setting h₃.setting hw₂) (oneLine_ofList rfl) _)

lemma succeeds_setDebug (on : Bool) : Succeeds manner (setDebug on) s :=
  ⟨(), _, rfl, rfl, Console.adds_of_replies_eq rfl⟩

lemma oneLine_helpTable :
    ∀ entry ∈ Shell.helpTable, OneLine entry.1 ∧ OneLine entry.2 := by
  intro entry hentry
  simp only [Shell.helpTable, List.mem_cons, List.not_mem_nil, or_false] at hentry
  rcases hentry with rfl | rfl | rfl | rfl | rfl | rfl | rfl | rfl | rfl | rfl <;>
    exact ⟨oneLine_ofList rfl, oneLine_ofList rfl⟩

lemma succeeds_act (hw : s.rig.console.Working) (h : Holds inputs s) (action : Shell.Action) :
    Succeeds manner (act action) s := by
  cases action with
  | info => exact succeeds_info hw
  | systime =>
    apply succeeds_get_bind
    exact succeeds_onRig (succeeds_value32 hw (oneLine_ofList rfl) _)
  | prompt => exact succeeds_modify (Rig.Quiet.refl s.rig).loud
  | noPrompt => exact succeeds_modify (Rig.Quiet.refl s.rig).loud
  | echo => exact succeeds_modify (Rig.Quiet.refl s.rig).loud
  | noEcho => exact succeeds_modify (Rig.Quiet.refl s.rig).loud
  | debug => exact succeeds_setDebug true
  | noDebug => exact succeeds_setDebug false
  | reset =>
    refine (succeeds_reset h).bind fun _ t hl => ?_
    exact succeeds_onRig (Rig.succeeds_info (working_of_setting hl.setting hw) (oneLine_ofList rfl))
  | help =>
    refine succeeds_onRig (Registry.succeeds_infoLines _ hw fun text htext => ?_)
    obtain ⟨entry, hentry, rfl⟩ := List.mem_map.1 htext
    obtain ⟨hname, hdescription⟩ := oneLine_helpTable entry hentry
    rw [oneLine_append, oneLine_append, oneLine_append]
    exact ⟨⟨⟨oneLine_ofList rfl, Registry.oneLine_padTo 9 hname⟩, oneLine_ofList rfl⟩, hdescription⟩

lemma exec_shellCommand (hw : s.rig.console.Working) (h : Holds inputs s) (text : String) :
    (∃ fault, Shell.actionOf text = .error fault ∧
      (shellCommand text).exec s = (.error fault, s)) ∨
    ∃ t, (shellCommand text).exec s = (.ok (), t) ∧ Rig.Loud s.rig t.rig := by
  cases ha : Shell.actionOf text with
  | error fault =>
    refine .inl ⟨fault, rfl, ?_⟩
    rw [shellCommand, ha]
    rfl
  | ok action =>
    obtain ⟨_, t, he, hl⟩ := succeeds_act hw h action
    refine .inr ⟨t, ?_, hl⟩
    rw [shellCommand, ha]
    exact he

lemma silent_advance (h : Holds inputs s) (us : Nat) : Rig.Silent s.rig (s.advance us).rig := by
  obtain ⟨adc, dac, hc, -⟩ := h
  let rig : Rig := { s.rig with uptimeUs := s.rig.uptimeUs + us }
  have hadvance : (s.advance us).rig = (Adc.advance us (adc, rig)).2 := by
    change (Registry.advanceAll us s.registry.commands rig).2 = _
    rw [show s.registry.commands = _ from hc, Registry.advanceAll_builtin]
  have hclock : Rig.Silent s.rig rig := ⟨rfl, rfl, .refl s.rig.console⟩
  rw [hadvance]
  exact hclock.trans (Adc.silent_advance us adc rig)

/-- Nothing that happens over a working connection changes the setting. -/
lemma setting_undergo (hw : s.rig.console.Working) (h : Holds inputs s) (stimulus : Stimulus) :
    (s.undergo stimulus).rig.setting = s.rig.setting := by
  cases stimulus with
  | execute text =>
    rw [undergo_execute]
    exact (Registry.tells_execute hw h text).loud.setting
  | parse text => exact Registry.setting_parse hw h text
  | handle text => exact Registry.setting_handle hw h text
  | shell text =>
    change ((shellCommand text).exec s).2.rig.setting = s.rig.setting
    rcases exec_shellCommand hw h text with ⟨fault, -, he⟩ | ⟨t, he, hl⟩
    · rw [he]
    · rw [he]
      exact hl.setting
  | reset => exact (succeeds_reset h).tells.loud.setting
  | elapse us => exact (silent_advance h us).setting
  | setLevel pin high => rfl
  | setAnalog pin code => rfl

/-- An instrument over a working connection, in the setting in which it started. -/
structure InSetting (inputs : List Pin) (setting : Setting) (s : Station) : Prop where
  holds : Holds inputs s
  setting_eq : s.rig.setting = setting
  working : s.rig.console.Working

def settingOf (config : Config) (console : Console) : Setting :=
  ⟨config, config.pipe.sinks.map (·.name), console.down, console.terminalDown, console.loses, true⟩

lemma inSetting_new {config : Config} {console : Console} (hw : console.Working)
    (h : new config console = .ok s) :
    ∃ inputs, config.adc.inputs.mapM Rig.inputPin = .ok inputs ∧
      InSetting inputs (settingOf config console) s := by
  obtain ⟨inputs, hi, hs⟩ := holds_new h
  obtain ⟨rig, hr, rfl⟩ := station_new h
  obtain ⟨inputs', pool, -, -, hrig⟩ := rig_new hr
  have hsetting : rig.setting = settingOf config console := by
    rw [hrig]
    simp only [setting, settingOf, Source.sinkNames, Source.new, List.map_map]
    rfl
  have hworking : rig.console.Working := by
    rw [hrig]
    exact ⟨hw.up, hw.lossless⟩
  exact ⟨inputs, hi, hs, hsetting, hworking⟩

/-- Only a name that no thread can have lets the instrument crash. -/
lemma InSetting.exists_of_crashed {config : Config} {console : Console}
    (h : InSetting inputs (settingOf config console) s) (hc : s.rig.crashed = true) :
    ∃ sink ∈ config.pipe.sinks, '\x00' ∈ sink.name.toList := by
  have hnames : s.rig.source.sinkNames = config.pipe.sinks.map (·.name) :=
    congrArg Setting.sinkNames h.setting_eq
  have hdue : (!s.rig.crashed || !s.rig.source.sinkNames.all Consumer.nameable) = true :=
    congrArg Setting.crashDue h.setting_eq
  rw [hc, hnames] at hdue
  simpa [Consumer.nameable] using hdue

lemma inSetting_undergo {setting : Setting} (s : Station) (stimulus : Stimulus)
    (h : InSetting inputs setting s) : InSetting inputs setting (s.undergo stimulus) :=
  have hs := setting_undergo h.working h.holds stimulus
  ⟨holds_undergo s stimulus h.holds, hs.trans h.setting_eq, working_of_setting hs h.working⟩

end Station

end Instrument
