import Instrument.Proofs.StationReplies

/-!
# A line that fails moves nothing

Whatever a line could have driven is, after it has failed, as it was before: the pin table with its
pads and latches, what the commands note about themselves, and what the shell shows. This holds in
every state that the instrument reaches over a working connection.
-/

namespace Instrument.Station

open Text

/-- What a stimulus has the registry carry out: a text, and the commands and the rig when it comes
to that. A blank line that would be framed comes to nothing. -/
def hands (s : Station) : Stimulus → Option (String × Registry × Rig)
  | .execute text => some (text, s.registry, s.rig)
  | .parse text => some (text, s.registry, s.rig)
  | .handle text =>
    if (trim text.toList).isEmpty then none
    else some (text, s.registry, ((Rig.onConsole Console.openFrame).exec s.rig).2)
  | _ => none

/-- The answer to a stimulus; time and the wires get none. -/
def answer (s : Station) : Stimulus → Except Fault Unit
  | .shell text => ((shellCommand text).exec s).1
  | .reset => ((onRegistry Registry.reset).exec s).1
  | stimulus =>
    match s.hands stimulus with
    | some (text, registry, rig) => ((Registry.execute text).exec (registry, rig)).1
    | none => .ok ()

/-- Nothing that a line could have driven has moved. The pins are the table with the mode, the
level and the voltage of every pad and the codes of both DAC channels; the registry holds whether
the DAC is started, how the converter samples, what it has claimed and whether it runs. -/
structure Unmoved (s t : Station) : Prop where
  pins : t.rig.pins = s.rig.pins
  registry : t.registry = s.registry
  shell : t.shell = s.shell
  debugging : t.rig.console.debugging = s.rig.console.debugging

variable {inputs : List Pin} {s : Station} {fault : Fault}

lemma unmoved_execute (hw : s.rig.console.Working) (h : Holds inputs s) {text : String}
    (hf : ((Registry.execute text).exec (s.registry, s.rig)).1 = .error fault) :
    Unmoved s (s.undergo (.execute text)) := by
  have ht := Registry.tells_execute hw h text
  unfold Act.Tells at ht
  rcases he : (Registry.execute text).exec (s.registry, s.rig) with ⟨fault' | _, registry, rig⟩
  · rw [he] at ht
    obtain ⟨⟨hr, hq⟩, -⟩ := ht
    rw [undergo_execute, he]
    exact ⟨hq.pins, hr, rfl, hq.debugging⟩
  · rw [he] at hf
    cases hf

lemma unmoved_parse (hw : s.rig.console.Working) (h : Holds inputs s) {text : String}
    (hf : ((Registry.execute text).exec (s.registry, s.rig)).1 = .error fault) :
    Unmoved s (s.undergo (.parse text)) := by
  rcases Registry.parse_cases hw h text with ⟨r', rig', hok, -⟩ | ⟨_, rig', -, hp, hq, -⟩
  · rw [hok] at hf
    cases hf
  · simp only [undergo, hp]
    exact ⟨hq.pins, rfl, rfl, hq.debugging⟩

lemma unmoved_handle (hw : s.rig.console.Working) (h : Holds inputs s) {text : String}
    (htext : trim text.toList ≠ [])
    (hf : ((Registry.execute text).exec (s.registry, s.rig.sent "BEGIN:")).1 = .error fault) :
    Unmoved s (s.undergo (.handle text)) := by
  have hopen : Registry.Holds inputs (s.registry, s.rig.sent "BEGIN:") :=
    Registry.holds_of_pins h rfl rfl
  rcases Registry.parse_cases (Rig.working_of_setting (s.rig.setting_sent _) hw) hopen text with
    ⟨r', rig', hok, -⟩ | ⟨_, rig', -, hp, hq, -⟩
  · rw [hok] at hf
    cases hf
  · have hundergo := Registry.handle_of_ne_blank hw htext hp
      (Rig.working_of_setting hq.setting ⟨hw.up, hw.lossless⟩)
    simp only [undergo, hundergo]
    exact ⟨hq.pins, rfl, rfl, hq.debugging⟩

lemma unmoved_undergo (hw : s.rig.console.Working) (h : Holds inputs s) (stimulus : Stimulus)
    (hf : s.answer stimulus = .error fault) : Unmoved s (s.undergo stimulus) := by
  cases stimulus with
  | execute text => exact unmoved_execute hw h hf
  | parse text => exact unmoved_parse hw h hf
  | handle text =>
    by_cases htext : trim text.toList = []
    · simp [answer, hands, htext] at hf
    · have hopen := Registry.exec_openFrame hw
      simp only [answer, hands, if_neg (mt List.isEmpty_iff.1 htext), hopen] at hf
      exact unmoved_handle hw h htext hf
  | shell text =>
    change ((shellCommand text).exec s).1 = .error fault at hf
    rcases exec_shellCommand hw h text with ⟨fault', -, he⟩ | ⟨t, he, -⟩
    · simp only [undergo, he]
      exact ⟨rfl, rfl, rfl, rfl⟩
    · rw [he] at hf
      cases hf
  | reset =>
    obtain ⟨commands, rig, he, -⟩ := Registry.exists_exec_reset h
    simp only [answer, onRegistry, Act.exec_zoom, he] at hf
    cases hf
  | elapse us => cases hf
  | setLevel pin high => cases hf
  | setAnalog pin code => cases hf

/-- After any run over a working connection, a stimulus that is answered with a fault has moved
nothing. -/
theorem unmoved_of_fault {config : Config} {console : Console} (hw : console.Working)
    (hnew : new config console = .ok s) (script : List Stimulus) (stimulus : Stimulus)
    (hf : (s.run script).answer stimulus = .error fault) :
    Unmoved (s.run script) ((s.run script).undergo stimulus) := by
  obtain ⟨inputs, -, hs⟩ := inSetting_new hw hnew
  have hrun := run_invariant inSetting_undergo hs script
  exact unmoved_undergo hrun.working hrun.holds stimulus hf

/-- The converter is refused its second pin, which GPIO holds, and has given its first one back. -/
theorem unmoved_of_refused_start : ∃ s, new { adc := { inputs := ["PA0", "PA3"] } } .fresh = .ok s ∧
    let script : List Stimulus := [.handle "gpio:set:porta:pin3", .shell "echo"]
    ∃ fault, (s.run script).answer (.execute "adc:start") = .error fault ∧
      Unmoved (s.run script) ((s.run script).undergo (.execute "adc:start")) := by
  have hrefused : (new { adc := { inputs := ["PA0", "PA3"] } } .fresh).toOption.any (fun s =>
      ((s.run [.handle "gpio:set:porta:pin3", .shell "echo"]).answer (.execute "adc:start")).isOk
        == false) = true := by
    decide +kernel
  obtain ⟨s, hnew, hcheck⟩ := exists_new_of_any hrefused
  obtain ⟨fault, hf⟩ := exists_error_of_isOk (beq_iff_eq.1 hcheck)
  exact ⟨s, hnew, fault, hf, unmoved_of_fault ⟨rfl, fun _ => rfl⟩ hnew _ _ hf⟩

end Instrument.Station
