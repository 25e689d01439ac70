import Instrument.Proofs.DispatchedLines
import Instrument.Proofs.LongLines

/-!
# The power-on state

The commands give their pins back before the table is reset as a whole, and some of them may fail.
Neither matters for the pins: a pin that was released before is restored once more, to the same
row and the same pad. So a reset leads from every state to the one that its table and its commands
fix, and leads there again.
-/

namespace Instrument

open Act

namespace PinTable

lemma resetAll_releaseAll (t : PinTable) (pins : List Pin) :
    (t.releaseAll pins).resetAll = t.resetAll := by
  apply ext_pins
  · intro pin
    rw [row?_resetAll, row?_resetAll, row?_releaseAll]
    have htwice : Row.restore ∘ Row.restore = Row.restore := rfl
    split
    · rw [Option.map_map, htwice]
    · rfl
  · intro pin
    rw [pad_resetAll, pad_resetAll, row?_releaseAll, pad_releaseAll]
    split
    · exact restorePad_restorePad (t.row? pin) (t.board.pad pin)
    · rfl
  · exact latched_releaseAll t pins

lemma resetAll_resetAll (t : PinTable) : t.resetAll.resetAll = t.resetAll := by
  apply ext_pins
  · intro pin
    rw [row?_resetAll, row?_resetAll, Option.map_map]
    rfl
  · intro pin
    rw [pad_resetAll, pad_resetAll, row?_resetAll]
    exact restorePad_restorePad (t.row? pin) (t.board.pad pin)
  · exact fun _ => rfl

end PinTable

namespace Rig

/-- A conversion sees no more of the pins than the voltages on them. -/
lemma convert_pins (c : Converter) (n : Nat) {rig : Rig} {pins : PinTable}
    (h : ∀ pin, (pins.board.pad pin).analog = (rig.pins.board.pad pin).analog) :
    Rig.convert c n { rig with pins } = { rig.convert c n with pins } := by
  induction n with
  | zero => rfl
  | succ n ih =>
    have hreading : ({ rig.convert c n with pins } : Rig).reading = (rig.convert c n).reading := by
      funext pin
      rw [reading, reading, pins_convert]
      exact h pin
    rw [convert_succ, convert_succ, ih, hreading]
    unfold settle
    dsimp only
    split <;> rfl

end Rig

namespace Command

/-- The command in its power-on state, which for a probe is another count. -/
def rested : Command → Command
  | adc a => adc { a with converter := a.converter.stop, mode := a.defaultMode, claimed := [] }
  | dac _ => dac ⟨false⟩
  | probe p => probe { p with resets := p.resets + 1 }
  | command => command

def resetAnswer : Command → Except Fault Unit
  | probe p => p.reset.1
  | _ => .ok ()

def finished (rig : Rig) : Command → Rig
  | adc a => rig.convert a.converter a.converter.pending
  | _ => rig

/-- The pins that a reset of the command releases. -/
def surrendered (t : PinTable) : Command → List Pin
  | gpio => t.ownedBy .gpio
  | adc a => a.claimed
  | dac d => if d.started then Dac.pins else []
  | _ => []

def BuiltIn (c : Command) : Prop :=
  ∀ p, c ≠ probe p

lemma exec_reset (c : Command) (rig : Rig) :
    reset.exec (c, rig) = (c.resetAnswer, c.rested,
      { finished rig c with pins := rig.pins.releaseAll (c.surrendered rig.pins) }) := by
  cases c with
  | adc a =>
    have hpins : (rig.convert a.converter a.converter.pending).pins = rig.pins :=
      Rig.pins_convert _ _ _
    simp only [surrendered, finished, ← hpins]
    rfl
  | dac d => rcases d with ⟨_ | _⟩ <;> rfl
  | version => rfl
  | status => rfl
  | gpio => rfl
  | probe p => rfl

lemma finished_pins {rig : Rig} {pins : PinTable} (c : Command)
    (h : ∀ pin, (pins.board.pad pin).analog = (rig.pins.board.pad pin).analog) :
    finished { rig with pins } c = { finished rig c with pins } := by
  cases c with
  | adc a => exact Rig.convert_pins a.converter a.converter.pending h
  | version => rfl
  | status => rfl
  | gpio => rfl
  | dac d => rfl
  | probe p => rfl

lemma pins_finished (rig : Rig) (c : Command) : (finished rig c).pins = rig.pins := by
  cases c with
  | adc a => exact Rig.pins_convert _ _ _
  | version => rfl
  | status => rfl
  | gpio => rfl
  | dac d => rfl
  | probe p => rfl

lemma foldl_finished_pins (commands : List Command) {rig : Rig} {pins : PinTable}
    (h : ∀ pin, (pins.board.pad pin).analog = (rig.pins.board.pad pin).analog) :
    commands.foldl finished { rig with pins } = { commands.foldl finished rig with pins } := by
  induction commands generalizing rig with
  | nil => rfl
  | cons c rest ih =>
    rw [List.foldl_cons, List.foldl_cons, finished_pins c h]
    exact ih fun pin => by rw [pins_finished, h pin]

/-- A command that has been reset has nothing under way. -/
lemma foldl_finished_rested (commands : List Command) (rig : Rig) :
    (commands.map rested).foldl finished rig = rig := by
  induction commands with
  | nil => rfl
  | cons c rest ih =>
    have hhead : finished rig c.rested = rig := by cases c <;> rfl
    rw [List.map_cons, List.foldl_cons, hhead, ih]

lemma rested_rested {c : Command} (h : c.BuiltIn) : c.rested.rested = c.rested := by
  rcases c with _ | _ | _ | a | d | p
  case probe => exact absurd rfl (h p)
  all_goals rfl

lemma builtIn_of_rested {c : Command} (h : c.rested.BuiltIn) : c.BuiltIn := by
  rintro p rfl
  exact h _ rfl

end Command

namespace Registry

variable {r : Registry} {rig : Rig}

/-- Some commands were reset, each once and in turn, and each found the rig as the one before had
left it, whatever that one had answered. -/
inductive Resets : List Command → Rig → List (Except Fault Unit) → List Command → Rig → Prop
  | nil {rig : Rig} : Resets [] rig [] [] rig
  | cons {c c' : Command} {rest rest' : List Command} {rig rig' rig'' : Rig}
      {answer : Except Fault Unit} {answers : List (Except Fault Unit)}
      (head : Command.reset.exec (c, rig) = (answer, c', rig'))
      (tail : Resets rest rig' answers rest' rig'') :
      Resets (c :: rest) rig (answer :: answers) (c' :: rest') rig''

def firstFault : List (Except Fault Unit) → Except Fault Unit
  | [] => .ok ()
  | .ok _ :: rest => firstFault rest
  | .error fault :: _ => .error fault

lemma resets_resetAll (commands : List Command) (rig : Rig) :
    ∃ answers, Resets commands rig answers (resetAll commands rig).2.1
        (resetAll commands rig).2.2 ∧
      (resetAll commands rig).1 = firstFault answers := by
  induction commands generalizing rig with
  | nil => exact ⟨[], .nil, rfl⟩
  | cons c rest ih =>
    rcases hc : Command.reset.exec (c, rig) with ⟨answer, c', rig'⟩
    obtain ⟨answers, htail, hfirst⟩ := ih rig'
    refine ⟨answer :: answers, ?_, ?_⟩
    · simp only [resetAll, hc]
      exact .cons hc htail
    · simp only [resetAll, hc, hfirst]
      cases answer <;> rfl

/-- What the commands do to the pins makes no difference once all pins are reset. -/
lemma Resets.eq_rested {commands commands' : List Command} {answers : List (Except Fault Unit)}
    {rig rig' : Rig} (h : Resets commands rig answers commands' rig') :
    answers = commands.map Command.resetAnswer ∧ commands' = commands.map Command.rested ∧
      ∃ pins, rig' = { commands.foldl Command.finished rig with pins } ∧
        pins.resetAll = rig.pins.resetAll := by
  induction h with
  | nil => exact ⟨rfl, rfl, _, rfl, rfl⟩
  | @cons c c' rest rest' rig rig' rig'' answer answers head tail ih =>
    rw [Command.exec_reset] at head
    cases head
    obtain ⟨rfl, rfl, pins, rfl, hpins⟩ := ih
    refine ⟨rfl, rfl, pins, ?_, hpins.trans (PinTable.resetAll_releaseAll _ _)⟩
    rw [List.foldl_cons, Command.foldl_finished_pins rest fun pin => by
      rw [Command.pins_finished, PinTable.analog_releaseAll]]

lemma exec_reset (r : Registry) (rig : Rig) : reset.exec (r, rig) =
    (firstFault (r.commands.map Command.resetAnswer),
      { r with commands := r.commands.map Command.rested },
      { r.commands.foldl Command.finished rig with pins := rig.pins.resetAll }) := by
  obtain ⟨answers, hresets, hfirst⟩ := resets_resetAll r.commands rig
  obtain ⟨rfl, hcommands, pins, hrig, hpins⟩ := hresets.eq_rested
  have hexec : reset.exec (r, rig) = ((resetAll r.commands rig).1,
      { r with commands := (resetAll r.commands rig).2.1 },
      { (resetAll r.commands rig).2.2 with
        pins := (resetAll r.commands rig).2.2.pins.resetAll }) := rfl
  rw [hexec, hfirst, hcommands, hrig, hpins]

/-- Every pin is at its defaults and its pad in the default mode, the converter's command has
stopped the converter, holds no pins and is in its default mode, and the DAC is not started. -/
structure AtPowerOn (s : Registry × Rig) : Prop where
  rows : ∀ pin row, s.2.pins.row? pin = some row →
    row.mode = row.defaultMode ∧ row.owner = row.defaultOwner ∧
      (s.2.pins.board.pad pin).mode = row.defaultMode
  adc : ∀ a, .adc a ∈ s.1.commands →
    a.converter.running = false ∧ a.claimed = [] ∧ a.mode = a.defaultMode
  dac : ∀ d, .dac d ∈ s.1.commands → d.started = false

lemma atPowerOn_of_reset (r : Registry) (rig : Rig) (t : PinTable) :
    AtPowerOn ({ r with commands := r.commands.map Command.rested },
      { rig with pins := t.resetAll }) where
  rows pin row hrow := by
    obtain ⟨before, -, rfl⟩ :=
      Option.map_eq_some_iff.1 ((PinTable.row?_resetAll _ _).symm.trans hrow)
    exact ⟨rfl, rfl, (PinTable.sound_resetAll _).pads pin _ hrow⟩
  adc a ha := by
    obtain ⟨c, -, hc⟩ := List.mem_map.1 ha
    cases c <;> cases hc
    exact ⟨rfl, rfl, rfl⟩
  dac d hd := by
    obtain ⟨c, -, hc⟩ := List.mem_map.1 hd
    cases c <;> cases hc
    rfl

/-- A second reset moves nothing but the counts of the probes. -/
lemma exec_reset_again (r : Registry) (rig : Rig) :
    let s := (reset.exec (r, rig)).2
    (reset.exec s).2.2 = s.2 ∧
      ∀ (place : Nat) (c : Command), s.1.commands[place]? = some c → c.BuiltIn →
        (reset.exec s).2.1.commands[place]? = some c := by
  simp only [exec_reset]
  refine ⟨by rw [PinTable.resetAll_resetAll, Command.foldl_finished_rested],
    fun place c hplace hc => ?_⟩
  rw [List.getElem?_map, hplace, Option.map_some]
  obtain ⟨before, -, rfl⟩ := List.mem_map.1 (List.mem_of_getElem? hplace)
  rw [Command.rested_rested (Command.builtIn_of_rested hc)]

/-! ## The two ways to ask for a reset -/

variable {line : Line}

/-- The line of the one reserved word resets, whatever the reset answers, and then replies. -/
lemma exec_dispatch_of_asks (h : line.asks ["resetpins"] = true) (r : Registry) (rig : Rig) :
    ∃ console, ((dispatch line).exec (r, rig)).2 =
      ((reset.exec (r, rig)).2.1, { (reset.exec (r, rig)).2.2 with console }) := by
  obtain ⟨hword, hmore, hdata⟩ := (Line.asks_singleton_iff (by decide)).1 h
  have hreserved : reserved? (line.command.headD "") = some .resetPins := by
    simp only [reserved?, hword]
  have hexec : (dispatch line).exec (r, rig) = (reset >>= fun _ =>
      beside (Rig.onConsole (Console.info "all pins reset"))).exec (r, rig) := by
    simp only [dispatch, hreserved, hmore, hdata, exec_bind, exec_check]
  rw [hexec, exec_bind]
  rcases reset.exec (r, rig) with ⟨fault | _, s⟩
  · exact ⟨s.2.console, rfl⟩
  · exact ⟨_, rfl⟩

/-- Over a working connection every text that reads as a line dispatches it. -/
lemma traced?_of_read (hw : rig.console.Working) {text : String}
    (hread : Line.read r.limits text = .ok (some line)) : traced? text (r, rig) = some line := by
  have hdebug : ((Rig.debug ("fetch: " ++ line.render)).exec rig).1 = .ok () := by
    rw [Rig.debug, Rig.onConsole, exec_zoom, Console.exec_debug hw]
  unfold traced?
  simp only [hread]
  rcases hd : (Rig.debug ("fetch: " ++ line.render)).exec rig with ⟨fault | _, rig'⟩
  · rw [hd] at hdebug
    cases hdebug
  · rfl

end Registry

lemma Line.not_blank_of_read {limits : Limits} {text : String} {line : Line}
    (hread : read limits text = .ok (some line)) : Text.trim text.toList ≠ [] := by
  obtain ⟨-, path, inner, hspells⟩ := (readInto_fst_eq_some_iff limits text []).1 hread
  intro hnil
  rw [hnil] at hspells
  exact not_spells_nil hspells

namespace Station

variable {s : Station} {line : Line}

def lineStimuli (text : String) : List Stimulus :=
  [.execute text, .parse text, .handle text]

lemma dispatched?_of_read (hw : s.rig.console.Working) {text : String}
    (hread : Line.read s.registry.limits text = .ok (some line)) {stimulus : Stimulus}
    (hs : stimulus ∈ lineStimuli text) : s.dispatched? stimulus = some line := by
  have hdirect := Registry.traced?_of_read hw hread
  simp only [lineStimuli, List.mem_cons, List.not_mem_nil, or_false] at hs
  rcases hs with rfl | rfl | rfl
  · exact hdirect
  · exact hdirect
  · have hblank := mt List.isEmpty_iff.1 (Line.not_blank_of_read hread)
    rw [dispatched?, hands, if_neg hblank, Registry.exec_openFrame hw]
    exact Registry.traced?_of_read (Rig.working_of_setting (s.rig.setting_sent "BEGIN:") hw) hread

/-- At every point of a run over a working connection a text is carried out as it reads. -/
lemma dispatched?_of_run {config : Config} {console : Console} (hw : console.Working)
    (hnew : new config console = .ok s) (script : List Stimulus) {text : String}
    (hread : Line.read config.fetch.limits text = .ok (some line)) {stimulus : Stimulus}
    (hs : stimulus ∈ lineStimuli text) : (s.run script).dispatched? stimulus = some line := by
  obtain ⟨inputs, -, hnew'⟩ := inSetting_new hw hnew
  have hrun := run_invariant inSetting_undergo hnew' script
  rw [← limits_run hnew script] at hread
  exact dispatched?_of_read hrun.working hread hs

/-- The line and the shell command leave the same commands and the same pins. -/
lemma undergo_resetPins (hw : s.rig.console.Working) {text command : String}
    (hread : Line.read s.registry.limits text = .ok (some line))
    (hline : line.asks ["resetpins"] = true) (hcommand : Shell.actionOf command = .ok .reset)
    {stimulus : Stimulus} (hs : stimulus ∈ lineStimuli text) :
    (s.undergo stimulus).registry = (s.undergo (.shell command)).registry ∧
      (s.undergo stimulus).rig.pins = (s.undergo (.shell command)).rig.pins := by
  obtain ⟨rig, hpins, -, hregistry, hrig⟩ :=
    undergo_of_dispatched (dispatched?_of_read hw hread hs)
  obtain ⟨console, hline⟩ := Registry.exec_dispatch_of_asks hline s.registry rig
  have hshell : (s.undergo (.shell command)).registry =
        (Registry.reset.exec (s.registry, s.rig)).2.1 ∧
      (s.undergo (.shell command)).rig.pins =
        (Registry.reset.exec (s.registry, s.rig)).2.2.pins := by
    have hexec : (shellCommand command).exec s =
        (onRegistry Registry.reset >>=
          fun _ => onConsole (Console.info "reset complete")).exec s := by
      rw [shellCommand, hcommand]
      rfl
    rw [undergo, hexec, exec_bind, onRegistry, exec_zoom]
    rcases Registry.reset.exec (s.registry, s.rig) with ⟨fault | _, t⟩
    · exact ⟨rfl, rfl⟩
    · exact ⟨rfl, rfl⟩
  rw [hregistry, hrig, hshell.1, hshell.2, hline, Registry.exec_reset, Registry.exec_reset,
    ← hpins]
  exact ⟨rfl, rfl⟩

/-- A reset reaches the power-on state from every state, whatever commands there are and whichever
of them fail. Each is reset once, in the order of registration, and the first fault is the answer;
but for the conversions it waits for, a reset leaves the rest of the rig alone, and a second one
only counts on in the probes. Over a working connection a line of the one word
`resetpins` leaves the same commands, pins and board as the shell command. -/
theorem power_on_of_reset (s : Station) :
    let after := Registry.reset.exec (s.registry, s.rig)
    (∃ answers commands rig, Registry.Resets s.registry.commands s.rig answers commands rig ∧
      after = (Registry.firstFault answers, { s.registry with commands },
        { rig with pins := rig.pins.resetAll })) ∧
    after.2 = ({ s.registry with commands := s.registry.commands.map Command.rested },
      { s.registry.commands.foldl Command.finished s.rig with
        pins := s.rig.pins.resetAll }) ∧
    Registry.AtPowerOn after.2 ∧
    ((Registry.reset.exec after.2).2.2 = after.2.2 ∧
      ∀ (place : Nat) (c : Command), after.2.1.commands[place]? = some c → c.BuiltIn →
        (Registry.reset.exec after.2).2.1.commands[place]? = some c) ∧
    ∀ text command line, s.rig.console.Working →
      Line.read s.registry.limits text = .ok (some line) → line.asks ["resetpins"] = true →
      Shell.actionOf command = .ok .reset → ∀ stimulus ∈ lineStimuli text,
        (s.undergo stimulus).registry = (s.undergo (.shell command)).registry ∧
          (s.undergo stimulus).rig.pins = (s.undergo (.shell command)).rig.pins := by
  intro after
  have hafter : after.2 = ({ s.registry with commands := s.registry.commands.map Command.rested },
      { s.registry.commands.foldl Command.finished s.rig with
        pins := s.rig.pins.resetAll }) :=
    congrArg Prod.snd (Registry.exec_reset s.registry s.rig)
  refine ⟨?_, hafter, ?_, Registry.exec_reset_again s.registry s.rig, ?_⟩
  · obtain ⟨answers, hresets, hfirst⟩ := Registry.resets_resetAll s.registry.commands s.rig
    exact ⟨answers, _, _, hresets, Prod.ext hfirst rfl⟩
  · rw [hafter]
    exact Registry.atPowerOn_of_reset s.registry _ s.rig.pins
  · intro text command line hw hread hline hcommand stimulus hs
    exact undergo_resetPins hw hread hline hcommand hs

/-- Both units have started, and a further command fails every reset. -/
theorem power_on_of_failing_probe : ∃ s, new {} .fresh = .ok s ∧
    let probe : Probe := ⟨"busy", [], "", "", none, fun _ => some (.timeout "busy"), 0⟩
    let started := s.run [.handle "dac:start", .handle "adc:start"]
    let t : Station := { started with registry := started.registry.register (.probe probe) }
    Registry.AtPowerOn (Registry.reset.exec (t.registry, t.rig)).2 ∧
      (t.undergo (.handle "ResetPins\r\n")).registry = (t.undergo (.shell "RESET")).registry ∧
      (t.undergo (.handle "ResetPins\r\n")).rig.pins = (t.undergo (.shell "RESET")).rig.pins := by
  have hok : (new {} .fresh).isOk = true := by decide +kernel
  obtain ⟨s, hnew⟩ := exists_of_isOk hok
  refine ⟨s, hnew, ?_⟩
  intro probe started t
  obtain ⟨inputs, -, hs⟩ := inSetting_new ⟨rfl, fun _ => rfl⟩ hnew
  have hrun : started.InSetting inputs _ := run_invariant inSetting_undergo hs _
  have hlimits : t.registry.limits = Config.Fetch.limits {} :=
    (Registry.limits_register _ _).trans (limits_run hnew _)
  have hread : Line.read t.registry.limits "ResetPins\r\n" =
      .ok (some ⟨["ResetPins"], []⟩) := by
    rw [hlimits]
    decide
  obtain ⟨-, -, hpower, -, hsame⟩ := power_on_of_reset t
  exact ⟨hpower, hsame _ "RESET" _ hrun.working hread (by decide) (by decide) _ (by
    simp [lineStimuli])⟩

end Station

end Instrument
