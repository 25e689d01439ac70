import Instrument.Proofs.FoldedCommands
import Instrument.Proofs.PowerOn

/-!
# Case does not matter

A line or a shell command and its folding are carried out in the same way: they end alike, and but
for the words in which the host is told of it they leave the same instrument behind. So do two
texts that have one folding. The commands are those that are built in; a further command may look
at its words as they are written.
-/

namespace Instrument

open Act Text

namespace Command

/-- The same built-in command over rigs that are alike. -/
structure Twin (s s' : Command × Rig) : Prop where
  beside : Beside Eq Rig.Twin s s'
  builtIn : s.1.BuiltIn

lemma twins_dispatch (line : Line) : Twins Twin (dispatch line) (dispatch line.folded) := by
  rintro ⟨command, rig⟩ ⟨_, rig'⟩ ⟨⟨rfl, h⟩, hbuiltin⟩
  cases command with
  | version =>
    obtain ⟨hend, hrig⟩ := System.twins_version line rig rig' h
    exact ⟨hend, ⟨rfl, hrig⟩, hbuiltin⟩
  | status =>
    obtain ⟨hend, hrig⟩ := System.twins_status line rig rig' h
    exact ⟨hend, ⟨rfl, hrig⟩, hbuiltin⟩
  | gpio =>
    obtain ⟨hend, hrig⟩ := Gpio.twins_dispatch line rig rig' h
    exact ⟨hend, ⟨rfl, hrig⟩, hbuiltin⟩
  | adc a =>
    obtain ⟨hend, hadc, hrig⟩ := Adc.twins_dispatch line (a, rig) (a, rig') ⟨rfl, h⟩
    exact ⟨hend, ⟨congrArg adc hadc, hrig⟩, nofun⟩
  | dac d =>
    obtain ⟨hend, hdac, hrig⟩ := Dac.twins_dispatch line (d, rig) (d, rig') ⟨rfl, h⟩
    exact ⟨hend, ⟨congrArg dac hdac, hrig⟩, nofun⟩
  | probe p => exact absurd rfl (hbuiltin p)

lemma twin_foldl_finished (commands : List Command) {rig rig' : Rig} (h : Rig.Twin rig rig') :
    Rig.Twin (commands.foldl finished rig) (commands.foldl finished rig') := by
  induction commands generalizing rig rig' with
  | nil => exact h
  | cons c rest ih =>
    refine ih ?_
    cases c with
    | adc a => exact Rig.twin_convert h a.converter a.converter.pending
    | _ => exact h

lemma builtIn_rested {c : Command} (h : c.BuiltIn) : c.rested.BuiltIn := by
  cases c with
  | probe p => exact absurd rfl (h p)
  | _ => exact nofun

end Command

namespace Registry

/-- The same registry of built-in commands. -/
structure Alike (r r' : Registry) : Prop where
  eq : r = r'
  builtIn : ∀ c ∈ r.commands, c.BuiltIn

/-- The same registry of built-in commands over rigs that are alike. -/
abbrev Twin : Registry × Rig → Registry × Rig → Prop :=
  Beside Alike Rig.Twin

lemma twins_reply (text text' : String) : Twins Twin (beside (Rig.onConsole (Console.line text)))
    (beside (Rig.onConsole (Console.line text'))) :=
  twins_beside (Rig.twins_reply text text')

lemma twins_infoLines (texts : List String) :
    Twins Rig.Twin (infoLines texts) (infoLines texts) := by
  induction texts with
  | nil => exact twins_pure ()
  | cons text rest ih => exact twins_bind (Rig.twins_reply _ _) fun _ => ih

lemma twins_reset : Twins Twin reset reset := by
  rintro ⟨r, rig⟩ ⟨_, rig'⟩ ⟨⟨rfl, hbuiltin⟩, h⟩
  obtain ⟨log, hlog⟩ := Command.twin_foldl_finished r.commands h
  have hpins : rig'.pins = rig.pins := by
    obtain ⟨_, rfl⟩ := h
    rfl
  rw [exec_reset, exec_reset, hlog, hpins]
  refine ⟨rfl, ⟨rfl, fun c hc => ?_⟩, log, rfl⟩
  obtain ⟨before, hbefore, rfl⟩ := List.mem_map.1 hc
  exact Command.builtIn_rested (hbuiltin before hbefore)

lemma twins_dispatchAt (place : Nat) (line : Line) :
    Twins Twin (dispatchAt place line) (dispatchAt place line.folded) := by
  rintro ⟨r, rig⟩ ⟨_, rig'⟩ ⟨⟨rfl, hbuiltin⟩, h⟩
  cases hplace : r.commands[place]? with
  | none =>
    simp only [dispatchAt, exec, hplace]
    exact ⟨rfl, ⟨rfl, hbuiltin⟩, h⟩
  | some command =>
    have htwin : Command.Twin (command, rig) (command, rig') :=
      ⟨⟨rfl, h⟩, hbuiltin command (List.mem_of_getElem? hplace)⟩
    obtain ⟨hend, ⟨hcommand, hrig⟩, hdispatched⟩ := Command.twins_dispatch line _ _ htwin
    rw [exec_dispatchAt hplace, exec_dispatchAt hplace, ← hcommand]
    refine ⟨hend, ⟨rfl, fun c hc => ?_⟩, hrig⟩
    rcases List.mem_or_eq_of_mem_set hc with hkept | rfl
    · exact hbuiltin c hkept
    · exact hdispatched

lemma reserved?_fold (word : String) : reserved? (fold word) = reserved? word := by
  rw [reserved?, fold_fold, reserved?]

lemma find?_fold (r : Registry) (word : String) : r.find? (fold word) = r.find? word := by
  rw [find?, fold_fold, find?]

lemma twins_dispatch (line : Line) : Twins Twin (dispatch line) (dispatch line.folded) := by
  unfold dispatch
  dsimp only
  rw [line.headD_folded, reserved?_fold]
  cases reserved? (line.command.headD "") with
  | none =>
    refine twins_get_bind ?_
    rintro ⟨r, rig⟩ ⟨_, rig'⟩ ⟨⟨rfl, -⟩, -⟩
    dsimp only
    rw [find?_fold]
    cases r.find? (line.command.headD "") with
    | none => exact twins_throw rfl
    | some place => exact twins_dispatchAt place line
  | some reserved =>
    cases reserved with
    | help =>
      refine line.twins_closed 1 (twins_get_bind ?_)
      rintro ⟨r, rig⟩ ⟨_, rig'⟩ ⟨⟨rfl, -⟩, -⟩
      exact twins_beside (twins_bind (twins_infoLines _) fun _ => twins_infoLines _)
    | resetPins =>
      exact line.twins_closed 1 (twins_bind twins_reset fun _ => twins_reply _ _)

lemma twins_execute (text : String) : Twins Twin (execute text) (execute (fold text)) := by
  refine twins_get_bind ?_
  rintro ⟨r, rig⟩ ⟨_, rig'⟩ ⟨⟨rfl, -⟩, -⟩
  dsimp only
  rw [Line.read_fold]
  rcases Line.read r.limits text with d | _ | line
  · exact twins_throw rfl
  · exact twins_pure ()
  · exact twins_bind (twins_beside (Rig.twins_debug _ _)) fun _ => twins_dispatch line

variable {s s' : Registry × Rig}

lemma twin_parse (text : String) (h : Twin s s') :
    (parse text s).1 = (parse (fold text) s').1 ∧
      Twin (parse text s).2 (parse (fold text) s').2 := by
  obtain ⟨hend, htwin⟩ := twins_execute text s s' h
  unfold parse
  rcases hexec : (execute text).exec s with ⟨r, t⟩
  rcases hexec' : (execute (fold text)).exec s' with ⟨r', t'⟩
  rw [hexec, hexec'] at hend htwin
  change SameEnd r r' at hend
  rcases hend.cases with ⟨fault, fault', rfl, rfl, -⟩ | ⟨_, rfl, rfl⟩
  · exact ⟨rfl, (twins_reply _ _ t t' htwin).2⟩
  · exact ⟨rfl, htwin⟩

lemma isEmpty_trim_fold (text : String) :
    (trim (fold text).toList).isEmpty = (trim text.toList).isEmpty := by
  rw [toList_fold, trim_lower, lower, List.isEmpty_map]

lemma twin_handle (text : String) (h : Twin s s') :
    (handle text s).1 = (handle (fold text) s').1 ∧
      Twin (handle text s).2 (handle (fold text) s').2 := by
  have hframe : Twins Twin (beside (Rig.onConsole Console.openFrame))
      (beside (Rig.onConsole Console.openFrame)) := twins_reply _ _
  obtain ⟨hopened, hopen⟩ := hframe s s' h
  unfold handle
  rw [isEmpty_trim_fold]
  split
  · exact ⟨rfl, h⟩
  · rcases ho : (beside (Rig.onConsole Console.openFrame)).exec s with ⟨opened, t⟩
    rcases ho' : (beside (Rig.onConsole Console.openFrame)).exec s' with ⟨opened', t'⟩
    rw [ho, ho'] at hopened hopen
    obtain ⟨hok, hparse⟩ := twin_parse text hopen
    rcases hp : parse text t with ⟨ok, u⟩
    rcases hp' : parse (fold text) t' with ⟨ok', u'⟩
    rw [hp, hp'] at hok hparse
    change ok = ok' at hok
    subst hok
    simp only [hp, hp']
    change SameEnd opened opened' at hopened
    -- A frame that could not be opened is not closed either.
    rcases hopened.cases with ⟨fault, fault', rfl, rfl, -⟩ | ⟨_, rfl, rfl⟩
    · exact ⟨rfl, hparse⟩
    · exact ⟨rfl, (twins_reply _ _ u u' hparse).2⟩

end Registry

namespace Shell

lemma sameEnd_actionOf (text : String) : SameEnd (actionOf text) (actionOf (fold text)) := by
  have hwords : (words (fold text).toList).map String.ofList =
      ((words text.toList).map String.ofList).map fold := by
    rw [toList_fold, words, words, pieces_lower caseless_isBlank, Line.map_ofList_lower]
  unfold actionOf
  rw [hwords]
  rcases (words text.toList).map String.ofList with _ | ⟨name, _ | ⟨_, _⟩⟩
  · dsimp only [List.map, List.headD]
    cases actions.find? "" <;> rfl
  · dsimp only [List.map, List.headD]
    rw [Vocabulary.find?_fold]
    cases actions.find? name <;> rfl
  · dsimp only [List.map]
    rw [fold_fold]
    rfl

end Shell

namespace Station

/-- The same shell over registries that are alike. -/
structure Twin (s t : Station) : Prop where
  shell : s.shell = t.shell
  registry : Registry.Twin (s.registry, s.rig) (t.registry, t.rig)

lemma twins_onRegistry {act act' : Act (Registry × Rig) Unit}
    (h : Twins Registry.Twin act act') : Twins Twin (onRegistry act) (onRegistry act') :=
  twins_zoom h (fun _ _ hs => hs.registry) fun _ _ _ _ hs ht => ⟨hs.shell, ht⟩

lemma twins_onRig {act act' : Act Rig Unit} (h : Twins Rig.Twin act act') :
    Twins Twin (onRig act) (onRig act') :=
  twins_zoom h (fun _ _ hs => hs.registry.2) fun _ _ _ _ hs hrig =>
    ⟨hs.shell, hs.registry.1, hrig⟩

lemma twins_reply (text text' : String) :
    Twins Twin (onConsole (Console.line text)) (onConsole (Console.line text')) :=
  twins_onRig (Rig.twins_reply text text')

lemma twins_setShell (f : Shell → Shell) : Twins Twin (setShell f) (setShell f) :=
  twins_modify fun _ _ h => ⟨congrArg f h.shell, h.registry⟩

lemma twins_setDebug (on : Bool) : Twins Twin (setDebug on) (setDebug on) := by
  refine twins_onRig (Rig.twins_onConsole (twins_modify ?_))
  rintro c _ ⟨log, rfl⟩
  exact ⟨log, rfl⟩

lemma twins_info : Twins Twin info info := by
  refine twins_get_bind ?_
  rintro ⟨shell, registry, rig⟩ ⟨_, _, _⟩ ⟨-, -, log, rfl⟩
  exact twins_bind (twins_reply _ _) fun _ => twins_bind (twins_reply _ _) fun _ =>
    twins_bind (twins_reply _ _) fun _ => twins_reply _ _

lemma twins_act (action : Shell.Action) : Twins Twin (act action) (act action) := by
  cases action with
  | info => exact twins_info
  | systime => exact twins_get_bind fun _ _ _ => twins_reply _ _
  | reset => exact twins_bind (twins_onRegistry Registry.twins_reset) fun _ => twins_reply _ _
  | help => exact twins_onRig (Registry.twins_infoLines _)
  | debug => exact twins_setDebug true
  | noDebug => exact twins_setDebug false
  | prompt => exact twins_setShell _
  | noPrompt => exact twins_setShell _
  | echo => exact twins_setShell _
  | noEcho => exact twins_setShell _

lemma twins_shellCommand (text : String) :
    Twins Twin (shellCommand text) (shellCommand (fold text)) :=
  twins_bind (twins_check (Shell.sameEnd_actionOf text)) twins_act

/-! ## Stimuli -/

/-- The stimulus with its text in lower case. -/
def Stimulus.folded : Stimulus → Stimulus
  | .execute text => .execute (fold text)
  | .parse text => .parse (fold text)
  | .handle text => .handle (fold text)
  | .shell text => .shell (fold text)
  | stimulus => stimulus

/-- The instrument with another log of what the host was told. -/
def withLog (s : Station) (log : Queue Event) : Station :=
  { s with rig := { s.rig with console := { s.rig.console with log } } }

lemma Twin.exists_log {s t : Station} (h : Twin s t) : ∃ log, t = s.withLog log := by
  obtain ⟨shell, registry, rig⟩ := s
  obtain ⟨_, _, _⟩ := t
  obtain ⟨rfl, ⟨rfl, -⟩, log, rfl⟩ := h
  exact ⟨log, rfl⟩

lemma eq_withLog_of_withLog_eq {s t : Station} {log log' : Queue Event}
    (h : s.withLog log = t.withLog log') : t = s.withLog t.rig.console.log := by
  calc t = (t.withLog log').withLog t.rig.console.log := rfl
    _ = (s.withLog log).withLog t.rig.console.log := by rw [h]
    _ = s.withLog t.rig.console.log := rfl

variable {inputs : List Pin} {s : Station}

lemma twin_refl (h : Holds inputs s) : Twin s s := by
  obtain ⟨adc, dac, hcommands, -⟩ := h
  refine ⟨rfl, ⟨rfl, fun c hc => ?_⟩, s.rig.console.log, rfl⟩
  rw [hcommands] at hc
  simp only [List.mem_cons, List.not_mem_nil, or_false] at hc
  rcases hc with rfl | rfl | rfl | rfl | rfl <;> exact nofun

lemma twin_undergo (h : Holds inputs s) (x : Stimulus) :
    Twin (s.undergo x) (s.undergo x.folded) := by
  have hs := twin_refl h
  cases x with
  | execute text => exact (twins_onRegistry (Registry.twins_execute text) s s hs).2
  | parse text =>
    have htwin := (Registry.twin_parse text hs.registry).2
    rcases hp : Registry.parse text (s.registry, s.rig) with ⟨ok, registry, rig⟩
    rcases hp' : Registry.parse (fold text) (s.registry, s.rig) with ⟨ok', registry', rig'⟩
    rw [hp, hp'] at htwin
    simp only [Stimulus.folded, undergo, hp, hp']
    exact ⟨rfl, htwin⟩
  | handle text =>
    have htwin := (Registry.twin_handle text hs.registry).2
    rcases hp : Registry.handle text (s.registry, s.rig) with ⟨ok, registry, rig⟩
    rcases hp' : Registry.handle (fold text) (s.registry, s.rig) with ⟨ok', registry', rig'⟩
    rw [hp, hp'] at htwin
    simp only [Stimulus.folded, undergo, hp, hp']
    exact ⟨rfl, htwin⟩
  | shell text => exact (twins_shellCommand text s s hs).2
  | _ => exact twin_refl (holds_undergo s _ h)

lemma sameEnd_answer (h : Holds inputs s) (x : Stimulus) :
    SameEnd (s.answer x) (s.answer x.folded) := by
  have hs := twin_refl h
  cases x with
  | execute text => exact (Registry.twins_execute text _ _ hs.registry).1
  | parse text => exact (Registry.twins_execute text _ _ hs.registry).1
  | handle text =>
    have hopen := (Registry.twins_reply "BEGIN:" "BEGIN:" _ _ hs.registry).2
    unfold answer hands
    dsimp only [Stimulus.folded]
    rw [Registry.isEmpty_trim_fold]
    by_cases htext : (trim text.toList).isEmpty
    · rw [if_pos htext, if_pos htext]
      rfl
    · rw [if_neg htext, if_neg htext]
      exact (Registry.twins_execute text _ _ hopen).1
  | shell text => exact (twins_shellCommand text s s hs).1
  | _ => rfl

/-- After any run of the instrument, over a connection that may lose any line, two stimuli that
differ in case are answered alike, with success or with one kind of fault, and leave the same
instrument: only what the host was told may differ. -/
theorem alike_of_folded {config : Config} {console : Console} (hnew : new config console = .ok s)
    (script : List Stimulus) {x y : Stimulus} (hxy : x.folded = y.folded) :
    SameEnd ((s.run script).answer x) ((s.run script).answer y) ∧
      ∃ log, (s.run script).undergo y = ((s.run script).undergo x).withLog log := by
  obtain ⟨inputs, -, hs⟩ := holds_new hnew
  have hrun : Holds inputs (s.run script) := run_invariant holds_undergo hs script
  constructor
  · have hx := sameEnd_answer hrun x
    have hy := sameEnd_answer hrun y
    rw [hxy] at hx
    exact hx.trans hy.symm
  · obtain ⟨logX, hx⟩ := (twin_undergo hrun x).exists_log
    obtain ⟨logY, hy⟩ := (twin_undergo hrun y).exists_log
    rw [hxy] at hx
    exact ⟨_, eq_withLog_of_withLog_eq (hx.symm.trans hy)⟩

/-- One code is latched on one channel, whether the line is written in capitals or not. -/
theorem alike_of_capital_write : ∃ s, new {} .fresh = .ok s ∧
    let t := s.run [.handle "dac:start", .shell "NoPrompt"]
    let x : Stimulus := .execute "DAC:Write:CH1(0X7FF)"
    let y : Stimulus := .execute "dac:write:ch1(0x7ff)"
    (t.answer y).isOk = true ∧ x.folded = y.folded ∧ SameEnd (t.answer x) (t.answer y) ∧
      ∃ log, t.undergo y = (t.undergo x).withLog log := by
  have hlatched : (new {} .fresh).toOption.any (fun s =>
      ((s.run [.handle "dac:start", .shell "NoPrompt"]).answer
        (.execute "dac:write:ch1(0x7ff)")).isOk) = true := by
    decide +kernel
  obtain ⟨s, hnew, hok⟩ := exists_new_of_any hlatched
  have hfolded : (Stimulus.execute "DAC:Write:CH1(0X7FF)").folded =
      (Stimulus.execute "dac:write:ch1(0x7ff)").folded :=
    congrArg Stimulus.execute (by decide)
  exact ⟨s, hnew, hok, hfolded, alike_of_folded hnew _ hfolded⟩

end Station

end Instrument
