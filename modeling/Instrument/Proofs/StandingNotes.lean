import Instrument.Proofs.DispatchedLines

/-!
# What the commands note

The converter's and the DAC's command keep their notes in the registry, and only lines that reach
them change these. So a condition on the notes stands as long as the lines that are dispatched
admit it, whatever happens to the pins and whichever replies are lost.
-/

namespace Instrument

open Act Text

variable {q : Adc → Dac → Prop} {r : Registry} {rig : Rig} {line : Line} {adc : Adc} {dac : Dac}

/-- The condition on the notes survives a reset. -/
def AdmitsReset (q : Adc → Dac → Prop) : Prop :=
  ∀ adc dac rig rig', q adc dac → q (Adc.reset (adc, rig)).1 (Dac.reset (dac, rig')).1

/-- The condition on the notes survives the line, whichever command it reaches. -/
structure Admits (q : Adc → Dac → Prop) (line : Line) : Prop where
  adc : fold (line.command.headD "") = "adc" →
    ∀ dac, Keeps (fun s : Adc × Rig => q s.1 dac) (Adc.dispatch line)
  dac : fold (line.command.headD "") = "dac" →
    ∀ adc, Keeps (fun s : Dac × Rig => q adc s.1) (Dac.dispatch line)
  reset : line.asks ["resetpins"] = true → AdmitsReset q

namespace Registry

/-- The words of the built-in commands, with the places of these. -/
def builtinIndex : List (String × Nat) :=
  [("dac", 4), ("adc", 3), ("gpio", 2), ("status", 1), ("version", 0)]

lemma index_builtin (rig : Rig) : (builtin rig).index = builtinIndex := by
  obtain ⟨hversion, hstatus, hgpio, hadc, hdac⟩ := fold_names
  simp [builtin, register, find?, place?, empty, Command.name, Command.aliases, point, hversion,
    hstatus, hgpio, hadc, hdac, builtinIndex]

/-- The built-in commands are in their places, where their words find them, and the condition holds
of what they note. -/
structure Stands (q : Adc → Dac → Prop) (r : Registry) : Prop where
  index : r.index = builtinIndex
  noted : ∃ adc dac, r.commands = [.version, .status, .gpio, .adc adc, .dac dac] ∧ q adc dac

lemma mem_builtinIndex_of_find? (hi : r.index = builtinIndex) {word : String} {place : Nat}
    (hf : r.find? word = some place) : (fold word, place) ∈ builtinIndex := by
  rw [find?, place?, hi, Option.map_eq_some_iff] at hf
  obtain ⟨entry, hentry, rfl⟩ := hf
  have hword : entry.1 = fold word := by simpa using List.find?_some hentry
  rw [← hword]
  exact List.mem_of_find?_eq_some hentry

/-- The words of the built-in commands are not reserved. -/
lemma exec_dispatch_of_mem (hi : r.index = builtinIndex) {place : Nat}
    (hm : (fold (line.command.headD ""), place) ∈ builtinIndex) (rig : Rig) :
    (dispatch line).exec (r, rig) = (dispatchAt place line).exec (r, rig) := by
  have hword : ∀ entry ∈ builtinIndex, place? builtinIndex entry.1 = some entry.2 ∧
      entry.1 ≠ "help" ∧ entry.1 ≠ "?" ∧ entry.1 ≠ "resetpins" := by
    decide
  obtain ⟨hplace, hhelp, hmark, hreset⟩ := hword _ hm
  apply exec_dispatch_of_find?
  · unfold reserved?
    split
    · next h => exact absurd h hhelp
    · next h => exact absurd h hmark
    · next h => exact absurd h hreset
    · rfl
  · rw [find?, hi]
    exact hplace

lemma fold_of_reserved? {word : String} (h : reserved? word = some .resetPins) :
    fold word = "resetpins" := by
  unfold reserved? at h
  split at h
  · cases h
  · cases h
  · assumption
  · cases h

lemma stands_dispatchAt (hs : r.Stands q) {place : Nat}
    (hadc : place = 3 → ∀ dac, Keeps (fun s : Adc × Rig => q s.1 dac) (Adc.dispatch line))
    (hdac : place = 4 → ∀ adc, Keeps (fun s : Dac × Rig => q adc s.1) (Dac.dispatch line))
    (rig : Rig) : ((dispatchAt place line).exec (r, rig)).2.1.Stands q := by
  obtain ⟨hi, adc, dac, hc, hq⟩ := hs
  cases hp : r.commands[place]? with
  | none =>
    have hexec : (dispatchAt place line).exec (r, rig) = (.ok (), r, rig) := by
      simp only [dispatchAt, exec, hp]
    rw [hexec]
    exact ⟨hi, adc, dac, hc, hq⟩
  | some command =>
    rw [exec_dispatchAt hp]
    have hmem := hp
    rw [hc] at hmem
    -- Only the commands in the last two places keep notes, each its own.
    rcases place with _ | _ | _ | _ | _ | place
    · cases hmem
      exact ⟨hi, adc, dac, by rw [hc]; rfl, hq⟩
    · cases hmem
      exact ⟨hi, adc, dac, by rw [hc]; rfl, hq⟩
    · cases hmem
      exact ⟨hi, adc, dac, by rw [hc]; rfl, hq⟩
    · cases hmem
      exact ⟨hi, _, dac, by rw [hc]; rfl, hadc rfl dac (adc, rig) hq⟩
    · cases hmem
      exact ⟨hi, adc, _, by rw [hc]; rfl, hdac rfl adc (dac, rig) hq⟩
    · cases hmem

lemma stands_reset (ha : AdmitsReset q) (hs : r.Stands q) (rig : Rig) :
    (reset.exec (r, rig)).2.1.Stands q := by
  obtain ⟨hi, adc, dac, hc, hq⟩ := hs
  have hexec : (reset.exec (r, rig)).2.1 =
      { r with commands := (resetAll r.commands rig).2.1 } := rfl
  rw [hexec, hc, resetAll_builtin]
  exact ⟨hi, _, _, rfl, ha adc dac _ _ hq⟩

lemma stands_dispatch (ha : Admits q line) :
    Keeps (fun s : Registry × Rig => s.1.Stands q) (dispatch line) := by
  unfold dispatch
  dsimp only
  cases hw : reserved? (line.command.headD "") with
  | none =>
    refine keeps_get_bind ?_
    rintro ⟨r, rig⟩ hs
    dsimp only
    cases hf : r.find? (line.command.headD "") with
    | none => exact hs
    | some place =>
      have hm := mem_builtinIndex_of_find? hs.index hf
      have hword : ∀ entry ∈ builtinIndex,
          (entry.2 = 3 → entry.1 = "adc") ∧ (entry.2 = 4 → entry.1 = "dac") := by
        decide
      obtain ⟨hadc, hdac⟩ := hword _ hm
      exact stands_dispatchAt hs (fun hp => ha.adc (hadc hp)) (fun hp => ha.dac (hdac hp)) rig
  | some reserved =>
    refine keeps_check_bind fun _ hmore => keeps_check_bind fun data hdata => ?_
    cases reserved with
    | help => exact keeps_get_bind fun s hs => hs
    | resetPins =>
      obtain ⟨-, rfl⟩ := Line.expectData_zero_iff.1 hdata
      have hasks := (Line.asks_singleton_iff (by decide)).2 ⟨fold_of_reserved? hw, hmore, hdata⟩
      refine keeps_bind (fun s hs => ?_) fun _ => keeps_beside fun _ _ h => h
      exact stands_reset (ha.reset hasks) hs s.2

lemma stands_execute (hs : r.Stands q) {text : String}
    (ha : ∀ line ∈ traced? text (r, rig), Admits q line) :
    ((execute text).exec (r, rig)).2.1.Stands q := by
  rcases exec_execute text r rig with ⟨-, answer, console, he⟩ | ⟨line, console, ht, -, he⟩
  · rw [he]
    exact hs
  · rw [he]
    exact stands_dispatch (ha line ht) _ hs

end Registry

namespace Station

variable {s : Station}

def Admits (q : Adc → Dac → Prop) (s : Station) : Stimulus → Prop
  | .reset => AdmitsReset q
  | .shell text => Shell.actionOf text = .ok .reset → AdmitsReset q
  | stimulus => ∀ line ∈ s.dispatched? stimulus, Instrument.Admits q line

lemma stands_of_hands (hs : s.registry.Stands q) {stimulus : Stimulus} {text : String}
    {registry : Registry} {rig : Rig} (h : s.hands stimulus = some (text, registry, rig))
    (ha : ∀ line ∈ s.dispatched? stimulus, Instrument.Admits q line) :
    (s.undergo stimulus).registry.Stands q := by
  obtain ⟨rfl, -, -, hr, -⟩ := undergo_of_hands h
  rw [hr]
  rw [dispatched?, h] at ha
  exact Registry.stands_execute hs ha

lemma stands_shellCommand (hs : s.registry.Stands q) {text : String}
    (ha : Shell.actionOf text = .ok .reset → AdmitsReset q) :
    ((shellCommand text).exec s).2.registry.Stands q := by
  have hkeeps : ∀ action, (action = .reset → AdmitsReset q) →
      Keeps (fun s => s.registry.Stands q) (act action) := by
    intro action hreset
    have hrig : ∀ {α : Type} (act : Act Rig α),
        Keeps (fun s : Station => s.registry.Stands q) (onRig act) := fun _ _ hs => hs
    cases action with
    | info =>
      refine keeps_get_bind fun s hs => ?_
      refine keeps_bind (hrig _) (fun _ => keeps_bind (hrig _) fun _ => ?_) s hs
      exact keeps_bind (hrig _) fun _ => hrig _
    | systime => exact keeps_get_bind fun s hs => hs
    | prompt => exact keeps_modify fun _ hs => hs
    | noPrompt => exact keeps_modify fun _ hs => hs
    | echo => exact keeps_modify fun _ hs => hs
    | noEcho => exact keeps_modify fun _ hs => hs
    | debug => exact hrig _
    | noDebug => exact hrig _
    | reset =>
      refine keeps_bind (fun s hs => ?_) fun _ => hrig _
      exact Registry.stands_reset (hreset rfl) hs s.rig
    | help => exact hrig _
  rw [shellCommand, exec_bind, exec_check]
  cases hact : Shell.actionOf text with
  | error fault => exact hs
  | ok action =>
    refine hkeeps action (fun hreset => ha ?_) s hs
    rw [hact, hreset]

/-- A stimulus that the condition admits leaves it standing, if it survives the passing of time. -/
lemma stands_undergo
    (htime : ∀ us adc dac rig, q adc dac → q (Adc.advance us (adc, rig)).1 dac)
    (hs : s.registry.Stands q) {stimulus : Stimulus} (ha : s.Admits q stimulus) :
    (s.undergo stimulus).registry.Stands q := by
  cases stimulus with
  | execute text => exact stands_of_hands hs rfl ha
  | parse text => exact stands_of_hands hs rfl ha
  | handle text =>
    by_cases htext : (trim text.toList).isEmpty = true
    · simp only [undergo, Registry.handle, if_pos htext]
      exact hs
    · have hh : s.hands (.handle text) = some (text, s.registry,
          ((Rig.onConsole Console.openFrame).exec s.rig).2) := by
        simp only [hands, if_neg htext]
      exact stands_of_hands hs hh ha
  | shell text => exact stands_shellCommand hs ha
  | reset => exact Registry.stands_reset ha hs s.rig
  | elapse us =>
    obtain ⟨hi, adc, dac, hc, hq⟩ := hs
    let rig : Rig := { s.rig with uptimeUs := s.rig.uptimeUs + us }
    have hundergo : (s.undergo (.elapse us)).registry =
        { s.registry with commands := (Registry.advanceAll us s.registry.commands rig).1 } := rfl
    rw [hundergo, hc, Registry.advanceAll_builtin]
    exact ⟨hi, _, dac, rfl, htime us adc dac rig hq⟩
  | setLevel pin high => exact hs
  | setAnalog pin code => exact hs

end Station

end Instrument
