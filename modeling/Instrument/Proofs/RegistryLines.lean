import Instrument.Proofs.HoldingLines
import Instrument.Registry

/-!
# The registry keeps the holdings

The registry of the built-in commands hands a line to one of them, resets all of them, and lets
time pass for all of them. Each touches its own state and the rig, so the holdings of the registry
follow from those of the commands.
-/

namespace Instrument

open Act

/-- The notes of the group commands agree with the table when nobody holds anything. -/
lemma Holdings.resetAll {inputs : List Pin} {adc : Adc} {dac : Dac} {t : PinTable}
    (h : Holdings inputs adc dac t) (hcl : adc.claimed = []) (hs : dac.started = false) :
    Holdings inputs adc dac t.resetAll := by
  refine h.of_owners h.orderly.resetAll fun pin s hgroup => ?_
  rw [h.orderly.owner?_resetAll]
  rcases hgroup with rfl | rfl
  · exact iff_of_false (PinProfile.stock_defaultOwner_ne pin (by decide)) (h.adc_free hcl pin)
  · exact iff_of_false (PinProfile.stock_defaultOwner_ne pin (by decide)) (h.dac_free hs pin)

namespace Registry

/-- The built-in commands are registered in their order, and what the two group commands note
agrees with the pins. -/
def Holds (inputs : List Pin) (s : Registry × Rig) : Prop :=
  ∃ adc dac, s.1.commands = [.version, .status, .gpio, .adc adc, .dac dac] ∧
    Holdings inputs adc dac s.2.pins

variable {inputs : List Pin}

lemma exec_dispatchAt {r : Registry} {place : Nat} {command : Command}
    (hplace : r.commands[place]? = some command) (line : Line) (rig : Rig) :
    (dispatchAt place line).exec (r, rig) =
      (((Command.dispatch line).exec (command, rig)).1,
        { r with commands :=
            r.commands.set place ((Command.dispatch line).exec (command, rig)).2.1 },
        ((Command.dispatch line).exec (command, rig)).2.2) := by
  simp only [dispatchAt, exec, hplace]

lemma exec_dispatch_of_find? {r : Registry} {rig : Rig} {line : Line} {place : Nat}
    (hw : reserved? (line.command.headD "") = none)
    (hf : r.find? (line.command.headD "") = some place) :
    (dispatch line).exec (r, rig) = (dispatchAt place line).exec (r, rig) := by
  simp only [dispatch, hw, exec_bind, exec_get, hf]

/-- Replies, the commands and a reset keep the condition. -/
structure Steady (p : Registry × Rig → Prop) : Prop where
  replies : ∀ act : Act Rig Unit, Rig.OnlyReplies act → Keeps p (beside act)
  dispatchAt : ∀ (place : Nat) (line : Line), Keeps p (dispatchAt place line)
  reset : Keeps p reset

namespace Steady

variable {p : Registry × Rig → Prop} {s : Registry × Rig}

lemma reply (hp : Steady p) (act : Act Console Unit) : Keeps p (beside (Rig.onConsole act)) :=
  hp.replies _ (Rig.onlyReplies_onConsole act)

lemma dispatch (hp : Steady p) (line : Line) : Keeps p (dispatch line) := by
  unfold Registry.dispatch
  dsimp only
  cases reserved? (line.command.headD "") with
  | none =>
    refine keeps_get_bind ?_
    rintro ⟨r, rig⟩ h
    dsimp only
    cases r.find? (line.command.headD "") with
    | none => exact h
    | some place => exact hp.dispatchAt place line (r, rig) h
  | some reserved =>
    refine keeps_bind (keeps_check _) fun _ => keeps_bind (keeps_check _) fun _ => ?_
    cases reserved with
    | help =>
      refine keeps_get_bind ?_
      rintro ⟨r, rig⟩ h
      exact hp.replies _ (onlyReplies_help r) (r, rig) h
    | resetPins => exact keeps_bind hp.reset fun _ => hp.reply _

lemma execute (hp : Steady p) (text : String) : Keeps p (execute text) := by
  refine keeps_get_bind ?_
  rintro ⟨r, rig⟩ h
  dsimp only
  cases Line.read r.limits text with
  | error d => exact h
  | ok line? =>
    cases line? with
    | none => exact h
    | some line =>
      have hdebug : Keeps p (beside (Rig.debug ("fetch: " ++ line.render))) :=
        hp.replies _ (Rig.onlyReplies_debug _)
      exact keeps_bind hdebug (fun _ => hp.dispatch line) (r, rig) h

lemma parse (hp : Steady p) (text : String) (h : p s) : p (parse text s).2 := by
  have hs := hp.execute text s h
  unfold Registry.parse
  rcases he : (Registry.execute text).exec s with ⟨fault | _, s'⟩
  · rw [he] at hs
    exact hp.reply (Console.error fault.message) s' hs
  · rw [he] at hs
    exact hs

lemma handle (hp : Steady p) (text : String) (h : p s) : p (handle text s).2 := by
  unfold Registry.handle
  split
  · exact h
  · have hopen := hp.reply Console.openFrame s h
    rcases hs : (beside (Rig.onConsole Console.openFrame)).exec s with ⟨opened, s'⟩
    rw [hs] at hopen
    have hparse := hp.parse text hopen
    rcases he : Registry.parse text s' with ⟨ok, s''⟩
    rw [he] at hparse
    dsimp only
    rw [he]
    cases opened with
    | error fault => exact hparse
    | ok _ => exact hp.reply (Console.closeFrame ok) s'' hparse

end Steady

lemma holds_of_pins {s s' : Registry × Rig} (h : Holds inputs s)
    (hc : s'.1.commands = s.1.commands) (hp : s'.2.pins = s.2.pins) : Holds inputs s' := by
  obtain ⟨adc, dac, hcommands, hold⟩ := h
  exact ⟨adc, dac, hc.trans hcommands, hp ▸ hold⟩

lemma keeps_dispatchAt (place : Nat) (line : Line) :
    Keeps (Holds inputs) (dispatchAt place line) := by
  rintro ⟨r, rig⟩ ⟨adc, dac, hc, h⟩
  change r.commands = _ at hc
  cases hp : r.commands[place]? with
  | none =>
    have hexec : (dispatchAt place line).exec (r, rig) = (.ok (), r, rig) := by
      simp only [dispatchAt, exec, hp]
    rw [hexec]
    exact ⟨adc, dac, hc, h⟩
  | some command =>
    rw [exec_dispatchAt hp]
    have hmem := hp
    rw [hc] at hmem
    -- The commands stay in their places, so the place says which one takes the line.
    rcases place with _ | _ | _ | _ | _ | place
    · cases hmem
      refine ⟨adc, dac, ?_, (System.onlyReplies_version line).keeps_pins rig h⟩
      rw [hc]
      rfl
    · cases hmem
      refine ⟨adc, dac, ?_, (System.onlyReplies_status line).keeps_pins rig h⟩
      rw [hc]
      rfl
    · cases hmem
      refine ⟨adc, dac, ?_, Gpio.keeps_dispatch line rig h⟩
      rw [hc]
      rfl
    · cases hmem
      refine ⟨((Adc.dispatch line).exec (adc, rig)).2.1, dac, ?_, ?_⟩
      · rw [hc]
        rfl
      · exact Adc.keeps_dispatch line (adc, rig) h
    · cases hmem
      refine ⟨adc, ((Dac.dispatch line).exec (dac, rig)).2.1, ?_, ?_⟩
      · rw [hc]
        rfl
      · exact Dac.keeps_dispatch line (dac, rig) h
    · cases hmem

lemma resetAll_builtin (adc : Adc) (dac : Dac) (rig : Rig) :
    resetAll [.version, .status, .gpio, .adc adc, .dac dac] rig =
      let a := Adc.reset (adc, Gpio.reset rig)
      let d := Dac.reset (dac, a.2)
      (.ok (), [.version, .status, .gpio, .adc a.1, .dac d.1], d.2) :=
  rfl

lemma keeps_reset : Keeps (Holds inputs) reset := by
  rintro ⟨r, rig⟩ ⟨adc, dac, hc, h⟩
  change r.commands = _ at hc
  have hgpio := Gpio.holdings_reset h
  have hadc : Adc.Holds inputs dac (Adc.reset (adc, Gpio.reset rig)) := Adc.holds_reset hgpio
  have hdac : Dac.Holds inputs (Adc.reset (adc, Gpio.reset rig)).1
      (Dac.reset (dac, (Adc.reset (adc, Gpio.reset rig)).2)) := Dac.holds_reset hadc
  have hexec : (reset.exec (r, rig)).2 =
      ({ r with commands := (resetAll r.commands rig).2.1 },
        { (resetAll r.commands rig).2.2 with
          pins := (resetAll r.commands rig).2.2.pins.resetAll }) := rfl
  rw [hexec, hc, resetAll_builtin]
  exact ⟨_, _, rfl, Holdings.resetAll hdac rfl (Dac.started_reset _)⟩

lemma steady_holds : Steady (Holds inputs) where
  replies _ h := keeps_beside fun _ => h.keeps fun _ _ hs => holds_of_pins hs rfl rfl
  dispatchAt := keeps_dispatchAt
  reset := keeps_reset

lemma advanceAll_builtin (us : Nat) (adc : Adc) (dac : Dac) (rig : Rig) :
    advanceAll us [.version, .status, .gpio, .adc adc, .dac dac] rig =
      let a := Adc.advance us (adc, rig)
      ([.version, .status, .gpio, .adc a.1, .dac dac], a.2) :=
  rfl

lemma holds_advanceAll (us : Nat) {r : Registry} {rig : Rig} (h : Holds inputs (r, rig)) :
    Holds inputs ({ r with commands := (advanceAll us r.commands rig).1 },
      (advanceAll us r.commands rig).2) := by
  obtain ⟨adc, dac, hc, hold⟩ := h
  change r.commands = _ at hc
  have hadc : Adc.Holds inputs dac (Adc.advance us (adc, rig)) := Adc.holds_advance us hold
  rw [hc, advanceAll_builtin]
  exact ⟨_, dac, rfl, hadc⟩

lemma fold_names : Text.fold "version" = "version" ∧ Text.fold "status" = "status" ∧
    Text.fold "gpio" = "gpio" ∧ Text.fold "adc" = "adc" ∧ Text.fold "dac" = "dac" := by
  decide

/-- No two of the built-in commands have one name, so none takes another's place. -/
lemma commands_builtin (rig : Rig) :
    (builtin rig).commands = [.version, .status, .gpio, .adc (.ofRig rig), .dac ⟨false⟩] := by
  obtain ⟨hversion, hstatus, hgpio, hadc, hdac⟩ := fold_names
  simp [builtin, register, find?, place?, empty, Command.name, Command.aliases, point, hversion,
    hstatus, hgpio, hadc, hdac]

end Registry

end Instrument
