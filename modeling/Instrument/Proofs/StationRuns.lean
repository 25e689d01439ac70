import Instrument.Proofs.RegistryLines
import Instrument.Shell

/-!
# Runs of the instrument

The host gives lines and shell commands and resets the registry; time passes; and whatever is wired
to the pins changes what they read. A run is any sequence of these, over a connection that may lose
any line. What every stimulus keeps holds after every run.
-/

namespace Instrument.Station

open Act

/-- What can happen to the instrument. -/
inductive Stimulus where
  | execute (text : String)
  | parse (text : String)
  | handle (text : String)
  | shell (text : String)
  | reset
  | elapse (us : Nat)
  | setLevel (pin : Pin) (high : Bool)
  | setAnalog (pin : Pin) (code : UInt16)

/-- Changes the board from outside. -/
def onBoard (f : Board → Board) (s : Station) : Station :=
  { s with rig := { s.rig with pins := { s.rig.pins with board := f s.rig.pins.board } } }

/-- The instrument after a stimulus, whether it could be carried out or not. -/
def undergo (s : Station) : Stimulus → Station
  | .execute text => ((onRegistry (Registry.execute text)).exec s).2
  | .parse text =>
    let (_, registry, rig) := Registry.parse text (s.registry, s.rig)
    { s with registry, rig }
  | .handle text =>
    let (_, registry, rig) := Registry.handle text (s.registry, s.rig)
    { s with registry, rig }
  | .shell text => ((shellCommand text).exec s).2
  | .reset => ((onRegistry Registry.reset).exec s).2
  | .elapse us => s.advance us
  | .setLevel pin high => s.onBoard (·.setLevel pin high)
  | .setAnalog pin code => s.onBoard (·.setAnalog pin code)

lemma undergo_execute (s : Station) (text : String) : s.undergo (.execute text) =
    { s with
      registry := ((Registry.execute text).exec (s.registry, s.rig)).2.1
      rig := ((Registry.execute text).exec (s.registry, s.rig)).2.2 } := by
  rw [undergo, onRegistry, exec_zoom]

lemma undergo_parse (s : Station) (text : String) : s.undergo (.parse text) =
    { s with
      registry := (Registry.parse text (s.registry, s.rig)).2.1
      rig := (Registry.parse text (s.registry, s.rig)).2.2 } := by
  rw [undergo]

lemma undergo_handle (s : Station) (text : String) : s.undergo (.handle text) =
    { s with
      registry := (Registry.handle text (s.registry, s.rig)).2.1
      rig := (Registry.handle text (s.registry, s.rig)).2.2 } := by
  rw [undergo]

def run (s : Station) (script : List Stimulus) : Station :=
  script.foldl undergo s

lemma run_invariant {p : Station → Prop} (hstep : ∀ s stimulus, p s → p (s.undergo stimulus))
    {s : Station} (h : p s) (script : List Stimulus) : p (s.run script) := by
  induction script generalizing s with
  | nil => exact h
  | cons stimulus rest ih => exact ih (hstep s stimulus h)

section Steady

variable {p : Registry × Rig → Prop}

lemma keeps_onRegistry {α : Type} {act : Act (Registry × Rig) α} (h : Keeps p act) :
    Keeps (fun s : Station => p (s.registry, s.rig)) (onRegistry act) :=
  fun s hs => h (s.registry, s.rig) hs

lemma keeps_onRig (hp : Registry.Steady p) {act : Act Rig Unit} (h : Rig.OnlyReplies act) :
    Keeps (fun s : Station => p (s.registry, s.rig)) (onRig act) :=
  fun s hs => hp.replies act h (s.registry, s.rig) hs

lemma keeps_reply (hp : Registry.Steady p) (act : Act Console Unit) :
    Keeps (fun s : Station => p (s.registry, s.rig)) (onConsole act) :=
  keeps_onRig hp (Rig.onlyReplies_onConsole act)

lemma keeps_act (hp : Registry.Steady p) (action : Shell.Action) :
    Keeps (fun s : Station => p (s.registry, s.rig)) (act action) := by
  have hreply := fun act => keeps_reply hp act
  cases action with
  | info =>
    exact keeps_get_bind fun s h => keeps_bind (hreply _) (fun _ => keeps_bind (hreply _) fun _ =>
      keeps_bind (hreply _) fun _ => hreply _) s h
  | systime => exact keeps_get_bind fun s h => hreply _ s h
  | reset => exact keeps_bind (keeps_onRegistry hp.reset) fun _ => hreply _
  | help => exact keeps_onRig hp (Registry.onlyReplies_infoLines _)
  | debug => exact hreply _
  | noDebug => exact hreply _
  | prompt => exact keeps_modify fun _ h => h
  | noPrompt => exact keeps_modify fun _ h => h
  | echo => exact keeps_modify fun _ h => h
  | noEcho => exact keeps_modify fun _ h => h

/-- What lines and resets keep is kept by every stimulus, if time and the board keep it too. -/
lemma undergo_of_steady (hp : Registry.Steady p)
    (htime : ∀ (us : Nat) (s : Station), p (s.registry, s.rig) →
      p ((s.advance us).registry, (s.advance us).rig))
    (hboard : ∀ f : Board → Board, (∀ t : PinTable, t.Step { t with board := f t.board }) →
      ∀ s : Station, p (s.registry, s.rig) → p ((s.onBoard f).registry, (s.onBoard f).rig))
    (s : Station) (stimulus : Stimulus) (h : p (s.registry, s.rig)) :
    p ((s.undergo stimulus).registry, (s.undergo stimulus).rig) := by
  cases stimulus with
  | execute text =>
    have hs := hp.execute text (s.registry, s.rig) h
    rw [undergo_execute]
    generalize (Registry.execute text).exec (s.registry, s.rig) = result at hs ⊢
    exact hs
  | parse text =>
    have hs : p (Registry.parse text (s.registry, s.rig)).2 := hp.parse text h
    rw [undergo_parse]
    generalize Registry.parse text (s.registry, s.rig) = result at hs ⊢
    exact hs
  | handle text =>
    have hs : p (Registry.handle text (s.registry, s.rig)).2 := hp.handle text h
    rw [undergo_handle]
    generalize Registry.handle text (s.registry, s.rig) = result at hs ⊢
    exact hs
  | shell text => exact keeps_bind (keeps_check _) (keeps_act hp) s h
  | reset => exact keeps_onRegistry hp.reset s h
  | elapse us => exact htime us s h
  | setLevel pin high =>
    exact hboard (·.setLevel pin high)
      (fun t => t.step_updatePad pin ({ · with level := high }) fun _ => rfl) s h
  | setAnalog pin code =>
    exact hboard (·.setAnalog pin code)
      (fun t => t.step_updatePad pin ({ · with analog := min code fullScale }) fun _ => rfl) s h

end Steady

/-- The holdings of the registry, whatever the shell shows. -/
def Holds (inputs : List Pin) (s : Station) : Prop :=
  Registry.Holds inputs (s.registry, s.rig)

variable {inputs : List Pin}

lemma holds_undergo (s : Station) (stimulus : Stimulus) (h : Holds inputs s) :
    Holds inputs (s.undergo stimulus) := by
  refine undergo_of_steady Registry.steady_holds (fun us s h => ?_) (fun f hf s h => ?_) s
    stimulus h
  · have hclock : Registry.Holds inputs
        (s.registry, { s.rig with uptimeUs := s.rig.uptimeUs + us }) :=
      Registry.holds_of_pins h rfl rfl
    exact Registry.holds_advanceAll us hclock
  · obtain ⟨adc, dac, hc, hold⟩ := h
    exact ⟨adc, dac, hc, hold.onBoard (hf s.rig.pins)⟩

/-! ## The instrument that starts -/

lemma bind_eq_ok {α β : Type} {x : Except Fault α} {f : α → Except Fault β} {b : β}
    (h : x >>= f = .ok b) : ∃ a, x = .ok a ∧ f a = .ok b := by
  cases x with
  | error fault => cases h
  | ok a => exact ⟨a, rfl, h⟩

lemma check_eq_ok {config config' : Config} (h : config.check = .ok config') :
    config' = config := by
  unfold Config.check at h
  split at h
  · cases h
  · cases h
    rfl

/-- The rig that an accepted configuration describes. -/
lemma rig_new {config : Config} {console : Console} {rig : Rig}
    (h : Rig.new config console = .ok rig) :
    ∃ inputs pool, config.adc.inputs.mapM Rig.inputPin = .ok inputs ∧
      Rig.notAnalog? .stock inputs = none ∧
      rig = {
        config, inputs
        pins := .stock
        source := .new pool (config.pipe.sinks.map fun sink => .new sink.name sink.capacity)
        console := { console with debugging := config.fetch.debug }
        consuming := false
        crashed := false
        uptimeUs := 0 } := by
  obtain ⟨config', hc, h⟩ := bind_eq_ok h
  cases check_eq_ok hc
  obtain ⟨inputs, hi, h⟩ := bind_eq_ok h
  dsimp only at h
  cases hn : Rig.notAnalog? .stock inputs with
  | some pin =>
    rw [hn] at h
    cases h
  | none =>
    rw [hn] at h
    obtain ⟨pool, -, h⟩ := bind_eq_ok h
    cases h
    exact ⟨inputs, pool, hi, hn, rfl⟩

/-- The commands that are built in need no setting up. -/
lemma exec_init_builtin (shell : Shell) (rig : Rig) :
    (onRegistry Registry.init).exec ⟨shell, .builtin rig, rig⟩ =
      (.ok (), ⟨shell, .builtin rig, rig⟩) := by
  rw [onRegistry, exec_zoom]
  simp only [Registry.init, exec, Registry.commands_builtin]
  rfl

lemma station_new {config : Config} {console : Console} {s : Station}
    (h : new config console = .ok s) :
    ∃ rig, Rig.new config console = .ok rig ∧
      s = ⟨.new rig.config.shell, .builtin rig, rig⟩ := by
  obtain ⟨rig, hr, h⟩ := bind_eq_ok h
  refine ⟨rig, hr, ?_⟩
  dsimp only at h
  rw [exec_init_builtin] at h
  cases h
  rfl

lemma exists_error_of_isOk {α : Type} {r : Except Fault α} (h : r.isOk = false) :
    ∃ fault, r = .error fault := by
  cases r with
  | error fault => exact ⟨fault, rfl⟩
  | ok a => cases h

lemma exists_of_isOk {α : Type} {r : Except Fault α} (h : r.isOk = true) : ∃ a, r = .ok a := by
  cases r with
  | error fault => cases h
  | ok a => exact ⟨a, rfl⟩

/-- An instrument that is found to start and to pass a check. -/
lemma exists_new_of_any {config : Config} {console : Console} {check : Station → Bool}
    (h : (new config console).toOption.any check = true) :
    ∃ s, new config console = .ok s ∧ check s = true := by
  cases hnew : new config console with
  | error fault =>
    rw [hnew] at h
    cases h
  | ok s =>
    rw [hnew] at h
    exact ⟨s, rfl, h⟩

lemma wired_of_notAnalog? {inputs : List Pin} (h : Rig.notAnalog? .stock inputs = none) :
    ∀ pin ∈ inputs, (PinProfile.stock pin).capability.contains .adc = true := by
  intro pin hp
  have hpin := List.find?_eq_none.1 h pin hp
  obtain ⟨row, hrow, hstock⟩ := PinTable.orderly_stock.exists_row pin
  rw [← hstock]
  change row.capability.contains .adc = true
  simpa [hrow] using hpin

lemma holds_new {config : Config} {console : Console} {s : Station}
    (h : new config console = .ok s) :
    ∃ inputs, config.adc.inputs.mapM Rig.inputPin = .ok inputs ∧ Holds inputs s := by
  obtain ⟨rig, hr, rfl⟩ := station_new h
  obtain ⟨inputs, pool, hi, hn, hrig⟩ := rig_new hr
  have hinputs : rig.inputs = inputs := by rw [hrig]
  have hpins : rig.pins = .stock := by rw [hrig]
  refine ⟨inputs, hi, .ofRig rig, ⟨false⟩, Registry.commands_builtin rig, ?_⟩
  change Holdings _ _ _ rig.pins
  rw [hpins]
  exact .stock (wired_of_notAnalog? hn) hinputs rfl rfl

end Instrument.Station
