import Instrument.Proofs.PowerOn
import Instrument.Proofs.StartToStop

/-!
# What a stimulus comes to

Over a connection that may lose lines a stimulus still comes to one of a few things: it is only
replied to, everything is reset, one of the commands carries out a line, time passes for the
converter, or somebody touches the pads. Invariants of runs look at these and at no text; what the
lines of the converter keep is put together from what their steps keep.
-/

namespace Instrument

open Act Text

namespace Registry

variable {adc : Adc} {dac : Dac} {r : Registry} {rig : Rig} {line : Line}

/-- The built-in commands are in their places, where their words find them. -/
structure Built (adc : Adc) (dac : Dac) (r : Registry) : Prop where
  index : r.index = builtinIndex
  commands : r.commands = [.version, .status, .gpio, .adc adc, .dac dac]

/-- What can become of the two commands with a state of their own and of the rig, where `line?` is
the line to be carried out and `resets` says whether a reset was asked for. -/
inductive Effect (line? : Option Line) (resets : Prop) (adc : Adc) (dac : Dac) (rig : Rig) :
    Adc → Dac → Rig → Prop
  | reply (console : Console) : Effect line? resets adc dac rig adc dac { rig with console }
  | reset (console : Console) (h : resets) : Effect line? resets adc dac rig
      { adc with converter := adc.converter.stop, mode := adc.defaultMode, claimed := [] } ⟨false⟩
      { rig.convert adc.converter adc.converter.pending with
        pins := rig.pins.resetAll, console }
  | gpio {line : Line} (hl : line? = some line) (h : fold (line.command.headD "") = "gpio") :
      Effect line? resets adc dac rig adc dac ((Gpio.dispatch line).exec rig).2
  | adc {line : Line} (hl : line? = some line) (h : fold (line.command.headD "") = "adc") :
      Effect line? resets adc dac rig ((Adc.dispatch line).exec (adc, rig)).2.1 dac
        ((Adc.dispatch line).exec (adc, rig)).2.2
  | dac {line : Line} (hl : line? = some line) (h : fold (line.command.headD "") = "dac") :
      Effect line? resets adc dac rig adc ((Dac.dispatch line).exec (dac, rig)).2.1
        ((Dac.dispatch line).exec (dac, rig)).2.2

lemma Effect.mono {line? : Option Line} {p q : Prop} {adc' : Adc} {dac' : Dac} {rig' : Rig}
    (h : Effect line? p adc dac rig adc' dac' rig') (hpq : p → q) :
    Effect line? q adc dac rig adc' dac' rig' := by
  cases h with
  | reply console => exact .reply console
  | reset console hp => exact .reset console (hpq hp)
  | gpio hl hw => exact .gpio hl hw
  | adc hl hw => exact .adc hl hw
  | dac hl hw => exact .dac hl hw

/-- The line leads to a registry of the built-in commands and to a rig. -/
def Leads (line : Line) (adc : Adc) (dac : Dac) (rig : Rig) (s : Registry × Rig) : Prop :=
  ∃ adc' dac', s.1.Built adc' dac' ∧
    Effect (some line) (line.asks ["resetpins"] = true) adc dac rig adc' dac' s.2

lemma leads_reply (hb : r.Built adc dac) {α : Type} {act : Act Rig α} (h : Rig.OnlyReplies act) :
    Leads line adc dac rig (r, (act.exec rig).2) := by
  obtain ⟨console, he⟩ := h rig
  rw [he]
  exact ⟨adc, dac, hb, .reply console⟩

/-- A command without a state of its own is put back as it was. -/
lemma exec_dispatchAt_of_same {place : Nat} {command : Command}
    (hplace : r.commands[place]? = some command) {answer : Except Fault Unit} {rig' : Rig}
    (h : (Command.dispatch line).exec (command, rig) = (answer, command, rig')) :
    (dispatchAt place line).exec (r, rig) = (answer, r, rig') := by
  have hsame : { r with commands := r.commands.set place command } = r := by
    obtain ⟨hlt, hget⟩ := List.getElem?_eq_some_iff.1 hplace
    rw [← hget, List.set_getElem_self]
  rw [exec_dispatchAt hplace, h, hsame]

lemma exec_dispatch_gpio (hb : r.Built adc dac) (h : fold (line.command.headD "") = "gpio") :
    (dispatch line).exec (r, rig) =
      (((Gpio.dispatch line).exec rig).1, r, ((Gpio.dispatch line).exec rig).2) := by
  have hplace : r.commands[2]? = some .gpio := by rw [hb.commands]; rfl
  rw [exec_dispatch_of_mem hb.index (h ▸ (by decide : ("gpio", 2) ∈ builtinIndex))]
  exact exec_dispatchAt_of_same hplace rfl

/-- The place that the index gives a word tells which command carries the line out. -/
lemma leads_of_mem (hb : r.Built adc dac) {place : Nat}
    (hm : (fold (line.command.headD ""), place) ∈ builtinIndex) :
    Leads line adc dac rig ((dispatch line).exec (r, rig)).2 := by
  have hdispatch := exec_dispatch_of_mem (r := r) hb.index hm rig
  simp only [builtinIndex, List.mem_cons, List.not_mem_nil, or_false, Prod.mk.injEq] at hm
  rcases hm with ⟨hw, -⟩ | ⟨hw, -⟩ | ⟨hw, -⟩ | ⟨-, rfl⟩ | ⟨-, rfl⟩
  · rw [exec_dispatch_dac hb.index hb.commands hw]
    exact ⟨adc, _, ⟨hb.index, rfl⟩, .dac rfl hw⟩
  · rw [exec_dispatch_adc hb.index hb.commands hw]
    exact ⟨_, dac, ⟨hb.index, rfl⟩, .adc rfl hw⟩
  · rw [exec_dispatch_gpio hb hw]
    exact ⟨adc, dac, hb, .gpio rfl hw⟩
  · have hplace : r.commands[1]? = some .status := by rw [hb.commands]; rfl
    rw [hdispatch, exec_dispatchAt_of_same hplace rfl]
    exact leads_reply hb (System.onlyReplies_status line)
  · have hplace : r.commands[0]? = some .version := by rw [hb.commands]; rfl
    rw [hdispatch, exec_dispatchAt_of_same hplace rfl]
    exact leads_reply hb (System.onlyReplies_version line)

lemma built_reset (hb : r.Built adc dac) : (reset.exec (r, rig)).2.1.Built
    { adc with converter := adc.converter.stop, mode := adc.defaultMode, claimed := [] }
    ⟨false⟩ := by
  rw [exec_reset, hb.commands]
  exact ⟨hb.index, rfl⟩

lemma rig_reset (hb : r.Built adc dac) : (reset.exec (r, rig)).2.2 =
    { rig.convert adc.converter adc.converter.pending with pins := rig.pins.resetAll } := by
  rw [exec_reset, hb.commands]
  rfl

lemma leads_dispatch (hb : r.Built adc dac) :
    Leads line adc dac rig ((dispatch line).exec (r, rig)).2 := by
  cases hw : reserved? (line.command.headD "") with
  | none =>
    cases hf : r.find? (line.command.headD "") with
    | some place => exact leads_of_mem hb (mem_builtinIndex_of_find? hb.index hf)
    | none =>
      have hexec : ((dispatch line).exec (r, rig)).2 = (r, rig) := by
        simp only [dispatch, hw, exec_bind, exec_get, hf, exec_throw]
      rw [hexec]
      exact ⟨adc, dac, hb, .reply rig.console⟩
  | some reserved =>
    cases hmore : line.expectNoMore 1 with
    | error fault =>
      have hexec : ((dispatch line).exec (r, rig)).2 = (r, rig) := by
        simp only [dispatch, hw, exec_bind, exec_check, hmore]
      rw [hexec]
      exact ⟨adc, dac, hb, .reply rig.console⟩
    | ok _ =>
      cases hdata : line.expectData 0 with
      | error fault =>
        have hexec : ((dispatch line).exec (r, rig)).2 = (r, rig) := by
          simp only [dispatch, hw, exec_bind, exec_check, hmore, hdata]
        rw [hexec]
        exact ⟨adc, dac, hb, .reply rig.console⟩
      | ok data =>
        obtain ⟨-, rfl⟩ := Line.expectData_zero_iff.1 hdata
        cases reserved with
        | help =>
          have hexec : ((dispatch line).exec (r, rig)).2 = (r, (r.help.exec rig).2) := by
            simp only [dispatch, hw, exec_bind, exec_check, exec_get, hmore, hdata, exec_beside]
          rw [hexec]
          exact leads_reply hb (onlyReplies_help r)
        | resetPins =>
          have hasks := (Line.asks_singleton_iff (by decide)).2 ⟨fold_of_reserved? hw, hmore, hdata⟩
          obtain ⟨console, he⟩ := exec_dispatch_of_asks hasks r rig
          rw [he, rig_reset hb]
          exact ⟨_, _, built_reset hb, .reset console hasks⟩

end Registry

namespace Adc

variable {line : Line} {p : Adc × Rig → Prop}

/-- What the line is made of keeps the condition: replies, a claim, a start of the unit, its stop,
and a new mode while it rests. -/
structure Steady (line : Line) (p : Adc × Rig → Prop) : Prop where
  replies : ∀ act : Act Rig Unit, Rig.OnlyReplies act → Keeps p (beside act)
  claim : Keeps p claimInputs
  units : line.asks ["adc", "start"] = true → Keeps p startUnits
  stop : ∀ s, p s → p (releaseInputs (halt s))
  configure : ∀ adc rig mode, p (adc, rig) → adc.converter.running = false →
    Vocabulary.adcActions.resolve line.command[1]? = .ok .configure →
      adc.modeOf line = .ok mode → p ({ adc with mode }, rig)

namespace Steady

lemma debug (hp : Steady line p) (text : String) : Keeps p (beside (Rig.debug text)) :=
  hp.replies _ (Rig.onlyReplies_debug text)

lemma keeps_start (hp : Steady line p) (ha : line.asks ["adc", "start"] = true) :
    Keeps p start := by
  refine keeps_get_bind ?_
  rintro ⟨adc, rig⟩ h
  dsimp only
  split
  · exact h
  · -- The branch on the claimed inputs holds everything that follows it.
    have hunits : Keeps p (startUnits >>= fun _ =>
        beside (Rig.debug ("adc started (" ++ adc.mode.text ++ ")"))) :=
      keeps_bind (hp.units ha) fun _ => hp.debug _
    split
    · exact keeps_bind hp.claim (fun _ => hunits) (adc, rig) h
    · exact hunits (adc, rig) h

lemma keeps_stop (hp : Steady line p) : Keeps p Adc.stop := by
  refine keeps_get_bind ?_
  rintro ⟨adc, rig⟩ h
  dsimp only
  split
  · exact h
  · exact keeps_bind (keeps_modify hp.stop) (fun _ => hp.debug _) (adc, rig) h

lemma keeps_configure (hp : Steady line p)
    (haction : Vocabulary.adcActions.resolve line.command[1]? = .ok .configure) :
    Keeps p (Adc.configure line) := by
  refine keeps_get_bind ?_
  rintro ⟨adc, rig⟩ h
  dsimp only
  split
  · exact h
  · next hidle =>
    rw [exec_bind, exec_check]
    cases hmode : adc.modeOf line with
    | error fault => exact h
    | ok mode =>
      have hnext := hp.configure adc rig mode h (by simpa using hidle) haction hmode
      dsimp only
      rw [exec_bind, exec_modify]
      exact hp.debug _ _ hnext

lemma keeps_status (hp : Steady line p) : Keeps p status := by
  have hreply := fun act => hp.replies _ (Rig.onlyReplies_onConsole act)
  refine keeps_get_bind ?_
  rintro ⟨adc, rig⟩ h
  refine keeps_bind (hreply _) (fun _ => keeps_bind (hreply _) fun _ => ?_) (adc, rig) h
  exact hp.replies _ Rig.onlyReplies_report

lemma dispatch (hp : Steady line p) (hword : fold (line.command.headD "") = "adc") :
    Keeps p (Adc.dispatch line) := by
  refine keeps_check_bind fun action haction => ?_
  have hclosed : ∀ {rest : Act (Adc × Rig) Unit}, Keeps p rest → Keeps p (do
      check (line.expectNoMore 2)
      let _ ← check (line.expectData 0)
      rest) := fun hrest =>
    keeps_bind (keeps_check _) fun _ => keeps_bind (keeps_check _) fun _ => hrest
  cases action with
  | configure => exact hp.keeps_configure haction
  | start =>
    refine keeps_check_bind fun _ hmore => keeps_check_bind fun data hdata => ?_
    exact hp.keeps_start (Line.asks_of_resolve hword haction (by decide) hmore hdata)
  | stop => exact hclosed hp.keeps_stop
  | status => exact hclosed hp.keeps_status

end Steady

end Adc

/-! ## Stimuli -/

/-- The rig by a clock that has moved on. -/
def Rig.ticked (rig : Rig) (us : Nat) : Rig :=
  { rig with uptimeUs := rig.uptimeUs + us }

namespace Station

variable {s : Station} {adc : Adc} {dac : Dac}

/-- The stimulus has everything reset. -/
def resets (s : Station) : Stimulus → Prop
  | .reset => True
  | .shell text => Shell.actionOf text = .ok .reset
  | stimulus => ∃ line, s.dispatched? stimulus = some line ∧ line.asks ["resetpins"] = true

/-- What can become of the two commands and of the rig, replies apart. -/
inductive Effect (s : Station) (adc : Adc) (dac : Dac) : Stimulus → Adc → Dac → Rig → Prop
  | carried {stimulus : Stimulus} {adc' : Adc} {dac' : Dac} {rig' : Rig} (console : Console)
      (hs : ({ s.rig with console } : Rig).setting = s.rig.setting)
      (h : Registry.Effect (s.dispatched? stimulus) (s.resets stimulus) adc dac
        { s.rig with console } adc' dac' rig') : Effect s adc dac stimulus adc' dac' rig'
  | elapse (us : Nat) : Effect s adc dac (.elapse us) (Adc.advance us (adc, s.rig.ticked us)).1 dac
      (Adc.advance us (adc, s.rig.ticked us)).2
  | setLevel (pin : Pin) (high : Bool) : Effect s adc dac (.setLevel pin high) adc dac
      (s.onBoard (·.setLevel pin high)).rig
  | setAnalog (pin : Pin) (code : UInt16) : Effect s adc dac (.setAnalog pin code) adc dac
      (s.onBoard (·.setAnalog pin code)).rig

/-- The stimulus leads from `s` to `t`. -/
def Leads (s : Station) (adc : Adc) (dac : Dac) (stimulus : Stimulus) (t : Station) : Prop :=
  ∃ adc' dac' rig' console, Effect s adc dac stimulus adc' dac' rig' ∧
    t.registry.Built adc' dac' ∧ t.rig = { rig' with console }

lemma leads_reply (hb : s.registry.Built adc dac) {stimulus : Stimulus} {t : Station}
    (hregistry : t.registry = s.registry) (hrig : ∃ console, t.rig = { s.rig with console }) :
    Leads s adc dac stimulus t := by
  obtain ⟨console, he⟩ := hrig
  refine ⟨adc, dac, s.rig, console, ?_, hregistry ▸ hb, he⟩
  exact .carried s.rig.console rfl (.reply s.rig.console)

lemma leads_of_hands (hb : s.registry.Built adc dac) {stimulus : Stimulus} {text : String}
    {registry : Registry} {rig : Rig} (h : s.hands stimulus = some (text, registry, rig))
    (hresets : ∀ line, s.dispatched? stimulus = some line → line.asks ["resetpins"] = true →
      s.resets stimulus) : Leads s adc dac stimulus (s.undergo stimulus) := by
  cases hd : s.dispatched? stimulus with
  | some line =>
    obtain ⟨before, after, hset, -, hu⟩ := exists_undergo_of_dispatched hd
    have hleads : Registry.Leads line adc dac { s.rig with console := before }
        ((Registry.dispatch line).exec (s.registry, { s.rig with console := before })).2 :=
      Registry.leads_dispatch hb
    obtain ⟨adc', dac', hb', heffect⟩ := hleads
    rw [hu]
    refine ⟨adc', dac', _, after, .carried before hset ?_, hb', rfl⟩
    rw [hd]
    exact heffect.mono (hresets line hd)
  | none =>
    obtain ⟨rfl, -, before, after, rfl, -, hu⟩ := exists_undergo_of_hands h
    rw [dispatched?, h] at hd
    change Registry.traced? text (s.registry, { s.rig with console := before }) = none at hd
    rcases Registry.exec_execute text s.registry { s.rig with console := before } with
      ⟨-, answer, console, he⟩ | ⟨line, console, hsome, -⟩
    · rw [he] at hu
      rw [hu]
      exact leads_reply hb rfl ⟨after, rfl⟩
    · rw [hd] at hsome
      cases hsome

/-- Only one of the shell commands reaches beyond the shell and the connection. -/
lemma exec_act_of_ne_reset {action : Shell.Action} (h : action ≠ .reset) (s : Station) :
    ((act action).exec s).2.registry = s.registry ∧
      ∃ console, ((act action).exec s).2.rig = { s.rig with console } := by
  let p : Station → Prop := fun t =>
    t.registry = s.registry ∧ ∃ console, t.rig = { s.rig with console }
  have hreply : ∀ {act : Act Rig Unit}, Rig.OnlyReplies act → Keeps p (onRig act) := by
    rintro act hact t ⟨hregistry, console, hrig⟩
    obtain ⟨console', he⟩ := hact t.rig
    refine ⟨hregistry, console', ?_⟩
    rw [onRig, exec_zoom, he, hrig]
  have hconsole : ∀ act : Act Console Unit, Keeps p (onConsole act) := fun act =>
    hreply (Rig.onlyReplies_onConsole act)
  have hs : p s := ⟨rfl, s.rig.console, rfl⟩
  cases action with
  | reset => exact absurd rfl h
  | info =>
    refine keeps_get_bind (p := p) (fun t ht => ?_) s hs
    refine keeps_bind (hconsole _) (fun _ => keeps_bind (hconsole _) fun _ => ?_) t ht
    exact keeps_bind (hconsole _) fun _ => hconsole _
  | systime => exact keeps_get_bind (p := p) (fun t ht => hconsole _ t ht) s hs
  | prompt => exact hs
  | noPrompt => exact hs
  | echo => exact hs
  | noEcho => exact hs
  | debug => exact hconsole _ s hs
  | noDebug => exact hconsole _ s hs
  | help => exact hreply (Registry.onlyReplies_infoLines _) s hs

lemma leads_shell (hb : s.registry.Built adc dac) (text : String) :
    Leads s adc dac (.shell text) (s.undergo (.shell text)) := by
  have hundergo : s.undergo (.shell text) = ((check (Shell.actionOf text) >>= act).exec s).2 := rfl
  rw [hundergo, exec_bind, exec_check]
  cases haction : Shell.actionOf text with
  | error fault => exact leads_reply hb rfl ⟨s.rig.console, rfl⟩
  | ok action =>
    by_cases hreset : action = .reset
    · subst hreset
      have hexec : ((act .reset).exec s).2.registry =
            (Registry.reset.exec (s.registry, s.rig)).2.1 ∧
          ∃ console, ((act .reset).exec s).2.rig =
            { (Registry.reset.exec (s.registry, s.rig)).2.2 with console } := by
        rw [act, exec_bind, onRegistry, exec_zoom]
        rcases Registry.reset.exec (s.registry, s.rig) with ⟨fault | _, t⟩
        · exact ⟨rfl, t.2.console, rfl⟩
        · exact ⟨rfl, _, rfl⟩
      obtain ⟨hregistry, console, hrig⟩ := hexec
      rw [Registry.rig_reset hb] at hrig
      refine ⟨_, _, _, console, .carried s.rig.console rfl (.reset s.rig.console haction), ?_, hrig⟩
      rw [hregistry]
      exact Registry.built_reset hb
    · obtain ⟨hregistry, hrig⟩ := exec_act_of_ne_reset hreset s
      exact leads_reply hb hregistry hrig

/-- Every stimulus comes to one of the effects. -/
lemma leads_undergo (hb : s.registry.Built adc dac) (stimulus : Stimulus) :
    Leads s adc dac stimulus (s.undergo stimulus) := by
  cases stimulus with
  | execute text => exact leads_of_hands hb rfl fun line hd ha => ⟨line, hd, ha⟩
  | parse text => exact leads_of_hands hb rfl fun line hd ha => ⟨line, hd, ha⟩
  | handle text =>
    by_cases htext : (trim text.toList).isEmpty = true
    · have hundergo : s.undergo (.handle text) = s := by
        simp only [undergo, Registry.handle, if_pos htext]
      rw [hundergo]
      exact leads_reply hb rfl ⟨s.rig.console, rfl⟩
    · have hh : s.hands (.handle text) = some (text, s.registry,
          ((Rig.onConsole Console.openFrame).exec s.rig).2) := by
        simp only [hands, if_neg htext]
      exact leads_of_hands hb hh fun line hd ha => ⟨line, hd, ha⟩
  | shell text => exact leads_shell hb text
  | reset =>
    let told := (s.rig.convert adc.converter adc.converter.pending).console
    refine ⟨_, _, _, told, .carried s.rig.console rfl (.reset told trivial),
      Registry.built_reset hb, ?_⟩
    exact Registry.rig_reset hb
  | elapse us =>
    let advanced := Registry.advanceAll us s.registry.commands (s.rig.ticked us)
    have hundergo : s.undergo (.elapse us) =
        { s with registry := { s.registry with commands := advanced.1 }, rig := advanced.2 } := rfl
    have hadvanced : advanced = ([.version, .status, .gpio,
        .adc (Adc.advance us (adc, s.rig.ticked us)).1, .dac dac],
        (Adc.advance us (adc, s.rig.ticked us)).2) := by
      change Registry.advanceAll us s.registry.commands (s.rig.ticked us) = _
      rw [hb.commands, Registry.advanceAll_builtin]
    rw [hundergo, hadvanced]
    exact ⟨_, dac, _, _, .elapse us, ⟨hb.index, rfl⟩, rfl⟩
  | setLevel pin high => exact ⟨adc, dac, _, s.rig.console, .setLevel pin high, hb, rfl⟩
  | setAnalog pin code => exact ⟨adc, dac, _, s.rig.console, .setAnalog pin code, hb, rfl⟩

end Station

end Instrument
