import Instrument.Command
import Instrument.Proofs.TwinRuns

/-!
# Lines in lower case

What a command takes from a line is the meaning of a word, the value of a number and how many words
there are. A line has all of these in common with its folding, so a command carries out both in the
same way.
-/

namespace Instrument

open Act Text

namespace Vocabulary

variable {α : Type}

lemma find?_fold (v : Vocabulary α) (token : String) : v.find? (fold token) = v.find? token := by
  simp only [find?, sameWord, fold_fold]

lemma sameEnd_resolve (v : Vocabulary α) (token? : Option String) :
    SameEnd (v.resolve token?) (v.resolve (token?.map fold)) := by
  cases token? with
  | none => rfl
  | some token =>
    rw [Option.map_some, resolve, resolve, find?_fold]
    cases v.find? token <;> rfl

end Vocabulary

namespace Line

variable (line : Line)

lemma command_folded (i : Nat) : line.folded.command[i]? = (line.command[i]?).map fold :=
  List.getElem?_map

lemma headD_folded : line.folded.command.headD "" = fold (line.command.headD "") := by
  unfold folded
  cases line.command <;> rfl

lemma sameEnd_word {α : Type} (v : Vocabulary α) (i : Nat) :
    SameEnd (v.resolve line.command[i]?) (v.resolve line.folded.command[i]?) := by
  rw [command_folded]
  exact v.sameEnd_resolve _

lemma sameEnd_expectNoMore (used : Nat) :
    SameEnd (line.expectNoMore used) (line.folded.expectNoMore used) := by
  unfold expectNoMore
  rw [command_folded]
  cases line.command[used]? <;> rfl

lemma sameEnd_expectNoData : SameEnd (line.expectData 0) (line.folded.expectData 0) := by
  unfold expectData folded
  rw [List.length_map]
  cases line.data <;> rfl

/-- The line takes no words beyond the first `used`, and no data. -/
lemma twins_closed {σ α : Type} {R : σ → σ → Prop} {act act' : Act σ α} (used : Nat)
    (ha : Twins R act act') :
    Twins R (do
      check (line.expectNoMore used)
      let _ ← check (line.expectData 0)
      act) (do
      check (line.folded.expectNoMore used)
      let _ ← check (line.folded.expectData 0)
      act') :=
  twins_bind (twins_check (line.sameEnd_expectNoMore used)) fun _ =>
    twins_bind (twins_check line.sameEnd_expectNoData) fun _ => ha

end Line

namespace System

lemma twins_version (line : Line) : Twins Rig.Twin (version line) (version line.folded) :=
  line.twins_closed 1 (Rig.twins_reply _ _)

lemma twins_reportOwners (subsystems : List Subsystem) :
    Twins Rig.Twin (reportOwners subsystems) (reportOwners subsystems) := by
  induction subsystems with
  | nil => exact twins_pure ()
  | cons s rest ih =>
    refine twins_get_bind ?_
    rintro rig _ ⟨log, rfl⟩
    dsimp only
    split
    · exact ih
    · exact twins_bind (Rig.twins_reply _ _) fun _ => ih

lemma twins_status (line : Line) : Twins Rig.Twin (status line) (status line.folded) := by
  refine line.twins_closed 1 (twins_get_bind ?_)
  rintro rig _ ⟨log, rfl⟩
  exact twins_bind (Rig.twins_reply _ _) fun _ =>
    twins_bind Rig.twins_report fun _ => twins_reportOwners Subsystem.all

end System

namespace Gpio

lemma sameEnd_pinAt (line : Line) (i : Nat) : SameEnd (pinAt line i) (pinAt line.folded i) :=
  sameEnd_bind (line.sameEnd_word Vocabulary.ports i) fun _ =>
    sameEnd_bind (line.sameEnd_word Vocabulary.pads (i + 1)) fun _ => rfl

lemma sameEnd_modeOf (line : Line) : SameEnd (modeOf line) (modeOf line.folded) := by
  refine sameEnd_bind (line.sameEnd_word Vocabulary.directions 4) fun direction => ?_
  cases direction with
  | input =>
    refine sameEnd_bind (line.sameEnd_word Vocabulary.senses 5) fun sense => ?_
    cases sense <;> rfl
  | output =>
    dsimp only
    rw [line.command_folded 5]
    cases line.command[5]? with
    | none => rfl
    | some sense => exact sameEnd_bind (Vocabulary.senses.sameEnd_resolve (some sense)) fun _ => rfl
  | analog => rfl

lemma twins_configure (pin : Pin) (line : Line) :
    Twins Rig.Twin (configure pin line) (configure pin line.folded) := by
  refine twins_bind (twins_check (sameEnd_modeOf line)) fun ⟨mode, used⟩ => ?_
  refine twins_bind (twins_check (line.sameEnd_expectNoMore used)) fun _ => ?_
  refine twins_get_bind ?_
  rintro rig _ ⟨log, rfl⟩
  exact twins_bind (twins_check rfl) fun _ =>
    twins_bind (Rig.twins_onPins _) fun _ => Rig.twins_debug _ _

lemma twins_drive (pin : Pin) (high : Bool) :
    Twins Rig.Twin (drive pin high) (drive pin high) :=
  twins_bind (Rig.twins_onPins _) fun _ => twins_bind (Rig.twins_onPins _) fun _ =>
    Rig.twins_debug _ _

lemma twins_readLevel (pin : Pin) : Twins Rig.Twin (readLevel pin) (readLevel pin) := by
  refine twins_get_bind ?_
  rintro rig _ ⟨log, rfl⟩
  exact Rig.twins_reply _ _

lemma twins_query (pin : Pin) : Twins Rig.Twin (query pin) (query pin) := by
  refine twins_get_bind ?_
  rintro rig _ ⟨log, rfl⟩
  exact twins_bind (twins_check rfl) fun _ => twins_bind (Rig.twins_reply _ _) fun _ =>
    Rig.twins_reply _ _

lemma twins_act (action : GpioAction) (pin : Pin) (line : Line) :
    Twins Rig.Twin (act action pin line) (act action pin line.folded) := by
  have hmore : Twins Rig.Twin (check (line.expectNoMore 4)) (check (line.folded.expectNoMore 4)) :=
    twins_check (line.sameEnd_expectNoMore 4)
  cases action with
  | configure => exact twins_configure pin line
  | set => exact twins_bind hmore fun _ => twins_drive pin true
  | clear => exact twins_bind hmore fun _ => twins_drive pin false
  | get => exact twins_bind hmore fun _ => twins_readLevel pin
  | query => exact twins_bind hmore fun _ => twins_query pin
  | release => exact twins_bind hmore fun _ => Rig.twins_onPins _

lemma twins_dispatch (line : Line) :
    Twins Rig.Twin (dispatch line) (dispatch line.folded) := by
  have hdata : line.folded.data.isEmpty = line.data.isEmpty := List.isEmpty_map
  unfold dispatch
  rw [hdata]
  split
  · exact twins_bind (twins_check (line.sameEnd_word Vocabulary.gpioActions 1)) fun action =>
      twins_bind (twins_check (sameEnd_pinAt line 2)) fun pin => twins_act action pin line
  · exact twins_throw rfl

end Gpio

namespace Adc

/-- The same control over rigs that are alike. -/
abbrev Twin : Adc × Rig → Adc × Rig → Prop :=
  Beside Eq Rig.Twin

lemma sameEnd_modeOf (adc : Adc) (line : Line) :
    SameEnd (adc.modeOf line) (adc.modeOf line.folded) := by
  refine sameEnd_bind (line.sameEnd_word Vocabulary.sampleTypes 2) fun kind => ?_
  refine sameEnd_bind (line.sameEnd_expectNoMore 3) fun _ => ?_
  cases kind with
  | oneshot => exact sameEnd_bind line.sameEnd_expectNoData fun _ => rfl
  | continuous =>
    dsimp only [Line.folded]
    rcases line.data with _ | ⟨token, _ | ⟨_, _⟩⟩
    · rfl
    · dsimp only [List.map]
      rw [Numeral.within_fold]
      cases Numeral.within minPeriodUs maxPeriodUs token <;> rfl
    · rfl

lemma twins_configure (line : Line) : Twins Twin (configure line) (configure line.folded) := by
  refine twins_get_bind ?_
  rintro ⟨adc, rig⟩ ⟨_, rig'⟩ ⟨rfl, -⟩
  dsimp only
  split
  · exact twins_throw rfl
  · refine twins_bind (twins_check (sameEnd_modeOf _ line)) fun mode => ?_
    refine twins_bind (twins_modify ?_) fun _ => twins_beside (Rig.twins_debug _ _)
    rintro ⟨adc, rig⟩ ⟨_, rig'⟩ ⟨rfl, h⟩
    exact ⟨rfl, h⟩

lemma twins_claimInputs : Twins Twin claimInputs claimInputs := by
  rintro ⟨adc, rig⟩ ⟨_, _⟩ ⟨rfl, log, rfl⟩
  unfold claimInputs
  dsimp only [exec]
  rcases PinTable.claimAll .analog .adc adc.converter.inputs rig.pins with ⟨_ | _, pins⟩
  · exact ⟨rfl, rfl, log, rfl⟩
  · exact ⟨rfl, rfl, log, rfl⟩

lemma twins_startUnits : Twins Twin startUnits startUnits := by
  rintro ⟨adc, rig⟩ ⟨_, rig'⟩ ⟨rfl, h⟩
  obtain ⟨log, hlog⟩ := Rig.twin_startConsumers h
  change rig'.startConsumers = _ at hlog
  unfold startUnits
  dsimp only [exec]
  rw [hlog]
  rcases Converter.start adc.mode adc.converter with ⟨_ | _, converter⟩
  · exact ⟨rfl, rfl, log, rfl⟩
  · exact ⟨rfl, rfl, log, rfl⟩

lemma twins_start : Twins Twin start start := by
  refine twins_get_bind ?_
  rintro ⟨adc, rig⟩ ⟨_, rig'⟩ ⟨rfl, -⟩
  dsimp only
  split
  · exact twins_throw rfl
  · have hunits : Twins Twin
        (startUnits >>= fun _ => beside (Rig.debug ("adc started (" ++ adc.mode.text ++ ")")))
        (startUnits >>= fun _ => beside (Rig.debug ("adc started (" ++ adc.mode.text ++ ")"))) :=
      twins_bind twins_startUnits fun _ => twins_beside (Rig.twins_debug _ _)
    split
    · exact twins_bind twins_claimInputs fun _ => hunits
    · exact hunits

lemma twin_releaseInputs {s s' : Adc × Rig} (h : Twin s s') :
    Twin (releaseInputs s) (releaseInputs s') := by
  obtain ⟨adc, rig⟩ := s
  obtain ⟨_, _⟩ := s'
  obtain ⟨rfl, log, rfl⟩ := h
  exact ⟨rfl, log, rfl⟩

lemma twins_stop : Twins Twin stop stop := by
  refine twins_get_bind ?_
  rintro ⟨adc, rig⟩ ⟨_, rig'⟩ ⟨rfl, -⟩
  dsimp only
  split
  · exact twins_throw rfl
  · refine twins_bind (twins_modify ?_) fun _ => twins_beside (Rig.twins_debug _ _)
    rintro ⟨adc, rig⟩ ⟨_, rig'⟩ ⟨rfl, h⟩
    exact twin_releaseInputs ⟨rfl, Rig.twin_convert h _ _⟩

lemma twins_status : Twins Twin status status := by
  refine twins_get_bind ?_
  rintro ⟨adc, rig⟩ ⟨_, rig'⟩ ⟨rfl, -⟩
  exact twins_bind (twins_beside (Rig.twins_reply _ _)) fun _ =>
    twins_bind (twins_beside (Rig.twins_reply _ _)) fun _ => twins_beside Rig.twins_report

lemma twins_dispatch (line : Line) : Twins Twin (dispatch line) (dispatch line.folded) := by
  refine twins_bind (twins_check (line.sameEnd_word Vocabulary.adcActions 1)) fun action => ?_
  cases action with
  | configure => exact twins_configure line
  | start => exact line.twins_closed 2 twins_start
  | stop => exact line.twins_closed 2 twins_stop
  | status => exact line.twins_closed 2 twins_status

end Adc

namespace Dac

/-- The same control over rigs that are alike. -/
abbrev Twin : Dac × Rig → Dac × Rig → Prop :=
  Beside Eq Rig.Twin

lemma codeOf_of_data {line : Line} {token : String} (h : line.data = [token]) :
    codeOf line =
      match Numeral.within 0 fullScale.toNat token with
      | .ok code => .ok code
      | .error d => .error (d.fault token) := by
  unfold codeOf Line.expectData
  rw [h]
  rfl

lemma sameEnd_codeOf (line : Line) : SameEnd (codeOf line) (codeOf line.folded) := by
  rcases hl : line.data with _ | ⟨token, _ | ⟨_, _⟩⟩
  · simp only [codeOf, Line.expectData, Line.folded, hl]
    rfl
  · have hfolded : line.folded.data = [fold token] := by
      rw [Line.folded, hl]
      rfl
    rw [codeOf_of_data hl, codeOf_of_data hfolded, Numeral.within_fold]
    cases Numeral.within 0 fullScale.toNat token <;> rfl
  · simp only [codeOf, Line.expectData, Line.folded, hl]
    rfl

lemma twins_start : Twins Twin start start := by
  refine twins_get_bind ?_
  rintro ⟨dac, rig⟩ ⟨_, rig'⟩ ⟨rfl, -⟩
  dsimp only
  split
  · exact twins_throw rfl
  · exact twins_bind (twins_beside (Rig.twins_zoom_pins _)) fun _ =>
      twins_modify fun _ _ h => ⟨rfl, h.2⟩

lemma twins_stop : Twins Twin stop stop := by
  refine twins_get_bind ?_
  rintro ⟨dac, rig⟩ ⟨_, rig'⟩ ⟨rfl, -⟩
  dsimp only
  split
  · refine twins_modify ?_
    rintro ⟨dac, rig⟩ ⟨_, _⟩ ⟨rfl, log, rfl⟩
    exact ⟨rfl, log, rfl⟩
  · exact twins_throw rfl

lemma twins_write (line : Line) : Twins Twin (write line) (write line.folded) := by
  refine twins_bind (twins_check (line.sameEnd_word Vocabulary.dacChannels 2)) fun channel => ?_
  refine twins_bind (twins_check (line.sameEnd_expectNoMore 3)) fun _ => ?_
  refine twins_get_bind ?_
  rintro ⟨dac, rig⟩ ⟨_, rig'⟩ ⟨rfl, -⟩
  dsimp only
  split
  · exact twins_bind (twins_check (sameEnd_codeOf line)) fun code =>
      twins_bind (twins_beside (Rig.twins_onPins _)) fun _ => twins_beside (Rig.twins_debug _ _)
  · exact twins_throw rfl

lemma twins_dispatch (line : Line) : Twins Twin (dispatch line) (dispatch line.folded) := by
  refine twins_bind (twins_check (line.sameEnd_word Vocabulary.dacActions 1)) fun action => ?_
  cases action with
  | write => exact twins_write line
  | start => exact line.twins_closed 2 twins_start
  | stop => exact line.twins_closed 2 twins_stop

end Dac

end Instrument
