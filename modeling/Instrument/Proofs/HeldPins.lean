import Instrument.Proofs.StandingNotes

/-!
# Pins held from start to stop

Between its start and its stop the converter's command holds all of its inputs, and the DAC's
command both of its pads. No line to another command moves them meanwhile, and the stop leaves each
pin as it was before the start.
-/

namespace Instrument

open Act Text

/-- The two commands that claim their pins together. -/
inductive PinGroup where
  | adc | dac
deriving DecidableEq

/-- The converter's command notes that it holds its inputs, of which there are some. -/
def Adc.Noted (adc : Adc) : Prop :=
  adc.claimed ≠ [] ∧ adc.converter.inputs ≠ []

/-- The DAC's command notes that it holds its pads. -/
def Dac.Noted (dac : Dac) : Prop :=
  dac.started = true

namespace PinGroup

def word : PinGroup → String
  | adc => "adc"
  | dac => "dac"

def subsystem : PinGroup → Subsystem
  | adc => .adc
  | dac => .dac

def pins (inputs : List Pin) : PinGroup → List Pin
  | adc => inputs
  | dac => Dac.pins

/-- The command notes that it holds its pins. -/
def Noted : PinGroup → Adc → Dac → Prop
  | adc, a, _ => a.Noted
  | dac, _, d => d.Noted

end PinGroup

variable {g : PinGroup} {inputs : List Pin} {adc : Adc} {dac : Dac} {t t' : PinTable} {rig : Rig}
  {line : Line}

lemma Holdings.held (h : Holdings inputs adc dac t) (hn : g.Noted adc dac) {pin : Pin}
    (hp : pin ∈ g.pins inputs) :
    t.query pin = .ok (.analog, some g.subsystem) ∧ (t.board.pad pin).mode = .analog := by
  have howner : t.owner? pin = some g.subsystem := by
    cases g with
    | adc => exact (h.adc_holds pin).2 (h.noted.resolve_left hn.1 ▸ hp)
    | dac => exact (h.dac_holds pin).2 ⟨hn, hp⟩
  obtain ⟨row, hrow, -⟩ := h.orderly.exists_row pin
  rw [PinTable.owner?_of_row hrow] at howner
  have hmode : row.mode = .analog := by
    apply (h.orderly.rows pin row hrow).converting
    cases g with
    | adc => exact .inl howner
    | dac => exact .inr howner
  refine ⟨PinTable.query_eq_ok_iff.2 ⟨row, hrow, hmode, howner⟩, ?_⟩
  rw [h.orderly.sound.pads pin row hrow, hmode]

lemma Row.restore_eq_of_profile {row row' : Row} {pin : Pin}
    (h : row'.profile pin = row.profile pin) : row'.restore = row.restore := by
  have hcapability : row'.capability = row.capability := congrArg PinProfile.capability h
  have hmode : row'.defaultMode = row.defaultMode := congrArg PinProfile.defaultMode h
  have howner : row'.defaultOwner = row.defaultOwner := congrArg PinProfile.defaultOwner h
  simp only [restore, hcapability, hmode, howner]

lemma PinTable.Orderly.restore_eq (h : t.Orderly) (h' : t'.Orderly) (pin : Pin) :
    (t'.row? pin).map Row.restore = (t.row? pin).map Row.restore := by
  obtain ⟨row, hrow, hprofile⟩ := h.exists_row pin
  obtain ⟨row', hrow', hprofile'⟩ := h'.exists_row pin
  rw [hrow, hrow', Option.map_some, Option.map_some,
    Row.restore_eq_of_profile (hprofile'.trans hprofile.symm)]

/-- A pin that is claimed for a subsystem without pins was at its defaults. -/
lemma PinTable.Granted.rested {s : Subsystem} {mode : PadMode} {pins : List Pin}
    (hg : Granted mode s pins t t') (h : t.Orderly) (hs : ∀ pin, t.owner? pin ≠ some s) {pin : Pin}
    (hp : pin ∈ pins) : (t.row? pin).map Row.restore = t.row? pin := by
  obtain ⟨row, hrow, ha⟩ := hg.admits hp
  have howner : row.owner ≠ some s := fun ho => hs pin ((owner?_of_row hrow).trans ho)
  rw [hrow, Option.map_some, (h.sound.rows pin row hrow).restore_eq ha howner]

namespace Adc

lemma noted_startUnits_debug (text : String) (hn : adc.Noted)
    (hidle : adc.converter.running = false) :
    ((startUnits >>= fun _ => beside (Rig.debug text)).exec (adc, rig)).2.1.Noted := by
  rw [exec_bind]
  rcases exec_startUnits hidle with ⟨hnone, -⟩ | ⟨-, he⟩
  · exact absurd hnone hn.2
  · rw [he]
    exact hn

lemma inputs_ne_nil_of_ok {text : String} (hidle : adc.converter.running = false)
    (hok : ((startUnits >>= fun _ => beside (Rig.debug text)).exec (adc, rig)).1 = .ok ()) :
    adc.converter.inputs ≠ [] := by
  rw [exec_bind] at hok
  rcases exec_startUnits hidle with ⟨-, he⟩ | ⟨hin, -⟩
  · rw [he] at hok
    cases hok
  · exact hin

/-- A start that succeeds has claimed the inputs, which were at their defaults. -/
lemma noted_of_start (h : Holdings inputs adc dac rig.pins) (hcl : adc.claimed = [])
    (hok : (start.exec (adc, rig)).1 = .ok ()) :
    (start.exec (adc, rig)).2.1.Noted ∧
      ∀ pin ∈ inputs, (rig.pins.row? pin).map Row.restore = rig.pins.row? pin := by
  have hidle : adc.converter.running = false := by
    by_contra hrun
    obtain ⟨hclaimed, hin⟩ := h.running (by simpa using hrun)
    exact hin (hclaimed.symm.trans hcl)
  have hstart : start.exec (adc, rig) = (claimInputs >>= fun _ => startUnits >>= fun _ =>
      beside (Rig.debug ("adc started (" ++ adc.mode.text ++ ")"))).exec (adc, rig) := by
    rw [start, exec_bind, exec_get]
    dsimp only
    rw [if_neg (by simp [hidle]), if_pos (List.isEmpty_iff.2 hcl)]
  rw [hstart, exec_bind] at hok ⊢
  rcases exec_claimInputs h hcl with ⟨t', hg, he⟩ | ⟨fault, -, he⟩
  · rw [he] at hok ⊢
    -- Once the claim is granted the start can only fail for want of inputs.
    refine ⟨?_, fun pin hp => hg.rested h.orderly (h.adc_free hcl) hp⟩
    dsimp only at hok ⊢
    have hin := inputs_ne_nil_of_ok (by exact hidle) hok
    have hne : inputs ≠ [] := by rwa [← h.inputs_eq]
    exact noted_startUnits_debug _ ⟨hne, hin⟩ hidle
  · rw [he] at hok
    cases hok

lemma keeps_noted_start : Keeps (fun s : Adc × Rig => s.1.Noted) start := by
  apply keeps_get_bind
  rintro ⟨adc, rig⟩ hn
  dsimp only
  by_cases hrun : adc.converter.running = true
  · rw [if_pos hrun]
    exact hn
  · -- After a one-shot the unit rests while the inputs stay claimed.
    rw [if_neg hrun, if_neg (mt List.isEmpty_iff.1 hn.1)]
    exact noted_startUnits_debug _ hn (by simpa using hrun)

lemma keeps_noted_configure : Keeps (fun s : Adc × Rig => s.1.Noted) (configure line) := by
  apply keeps_get_bind
  rintro ⟨adc, rig⟩ hn
  dsimp only
  split
  · exact hn
  · refine keeps_bind (p := fun s : Adc × Rig => s.1.Noted) (keeps_check _) ?_ (adc, rig) hn
    intro mode
    exact keeps_bind (keeps_modify fun _ hs => hs) fun _ => keeps_fst _

lemma keeps_noted_status : Keeps (fun s : Adc × Rig => s.1.Noted) status := by
  apply keeps_get_bind
  intro s hs
  refine keeps_bind (keeps_fst _) (fun _ => ?_) s hs
  exact keeps_bind (keeps_fst _) fun _ => keeps_fst _

lemma keeps_noted (hw : fold (line.command.headD "") = "adc")
    (hstop : line.asks ["adc", "stop"] = false) :
    Keeps (fun s : Adc × Rig => s.1.Noted) (dispatch line) := by
  refine keeps_check_bind fun action haction => ?_
  cases action with
  | configure => exact keeps_noted_configure
  | start =>
    exact keeps_bind (keeps_check _) fun _ => keeps_bind (keeps_check _) fun _ => keeps_noted_start
  | status =>
    exact keeps_bind (keeps_check _) fun _ => keeps_bind (keeps_check _) fun _ => keeps_noted_status
  | stop =>
    refine keeps_check_bind fun _ hmore => keeps_check_bind fun data hdata => ?_
    rw [Line.asks_of_resolve hw haction (by decide) hmore hdata] at hstop
    cases hstop

lemma noted_advance (us : Nat) (hn : adc.Noted) : (advance us (adc, rig)).1.Noted := by
  cases ht : adc.converter.timer with
  | none => simpa only [advance, ht] using hn
  | some timer =>
    simp only [advance, ht]
    exact hn

lemma pins_of_stop (hn : adc.Noted) :
    (stop.exec (adc, rig)).2.2.pins = rig.pins.releaseAll adc.claimed := by
  have hstop : stop.exec (adc, rig) = (beside (Rig.debug "adc stopped")).exec
      (releaseInputs (halt (adc, rig))) := by
    rw [stop, exec_bind, exec_get]
    dsimp only
    rw [if_neg (by simp [hn.1]), exec_bind, exec_modify]
  obtain ⟨console, hdebug⟩ := Rig.onlyReplies_debug "adc stopped"
    (releaseInputs (halt (adc, rig))).2
  rw [hstop, exec_beside, hdebug]
  simp only [releaseInputs, halt, Rig.pins_convert]

lemma exec_dispatch_of_asks {word : String} (action : AdcAction)
    (hword : (Vocabulary.adcActions.entries.find? fun entry => fold entry.1 == word).map (·.2) =
      some action) (ha : line.asks ["adc", word] = true) (s : Adc × Rig) :
    (dispatch line).exec s = (match action with
      | .configure => configure line
      | .start => start
      | .stop => stop
      | .status => status : Act (Adc × Rig) Unit).exec s := by
  obtain ⟨-, ⟨token, htoken, rfl⟩, hmore, hdata⟩ := Line.asks_pair_iff.1 ha
  have haction := Vocabulary.resolve_eq_ok_iff.2 hword
  cases action <;> simp only [dispatch, htoken, haction, hmore, hdata, exec_bind, exec_check]

end Adc

namespace Dac

lemma noted_of_start (h : Holdings inputs adc dac rig.pins)
    (hok : (start.exec (dac, rig)).1 = .ok ()) :
    (start.exec (dac, rig)).2.1.Noted ∧
      ∀ pin ∈ pins, (rig.pins.row? pin).map Row.restore = rig.pins.row? pin := by
  rw [start, exec_bind, exec_get] at hok ⊢
  dsimp only at hok ⊢
  by_cases hs : dac.started = true
  · rw [if_pos hs] at hok
    cases hok
  · have hidle : dac.started = false := by simpa using hs
    rw [if_neg hs, exec_bind] at hok ⊢
    rcases exec_claimPads h hidle with ⟨t', hg, he⟩ | ⟨fault, -, he⟩
    · rw [he]
      exact ⟨rfl, fun pin hp => hg.rested h.orderly (h.dac_free hidle) hp⟩
    · rw [he] at hok
      cases hok

lemma keeps_noted_start : Keeps (fun s : Dac × Rig => s.1.Noted) start := by
  apply keeps_get_bind
  rintro ⟨dac, rig⟩ hn
  dsimp only
  rw [if_pos (c := dac.started = true) hn]
  exact hn

lemma keeps_noted_write : Keeps (fun s : Dac × Rig => s.1.Noted) (write line) := by
  refine keeps_bind (keeps_check _) fun _ => keeps_bind (keeps_check _) fun _ => ?_
  apply keeps_get_bind
  rintro ⟨dac, rig⟩ hn
  dsimp only
  rw [if_pos (c := dac.started = true) hn]
  refine keeps_bind (p := fun s : Dac × Rig => s.1.Noted) (keeps_check _) ?_ (dac, rig) hn
  intro _
  exact keeps_bind (keeps_fst _) fun _ => keeps_fst _

lemma keeps_noted (hw : fold (line.command.headD "") = "dac")
    (hstop : line.asks ["dac", "stop"] = false) :
    Keeps (fun s : Dac × Rig => s.1.Noted) (dispatch line) := by
  refine keeps_check_bind fun action haction => ?_
  cases action with
  | write => exact keeps_noted_write
  | start =>
    exact keeps_bind (keeps_check _) fun _ => keeps_bind (keeps_check _) fun _ => keeps_noted_start
  | stop =>
    refine keeps_check_bind fun _ hmore => keeps_check_bind fun data hdata => ?_
    rw [Line.asks_of_resolve hw haction (by decide) hmore hdata] at hstop
    cases hstop

lemma pins_of_stop (hn : dac.Noted) :
    (stop.exec (dac, rig)).2.2.pins = rig.pins.releaseAll pins := by
  rw [stop, exec_bind, exec_get]
  dsimp only
  rw [if_pos (c := dac.started = true) hn]
  rfl

lemma exec_dispatch_of_asks {word : String} (action : DacAction)
    (hword : (Vocabulary.dacActions.entries.find? fun entry => fold entry.1 == word).map (·.2) =
      some action) (ha : line.asks ["dac", word] = true) (s : Dac × Rig) :
    (dispatch line).exec s = (match action with
      | .write => write line
      | .start => start
      | .stop => stop : Act (Dac × Rig) Unit).exec s := by
  obtain ⟨-, ⟨token, htoken, rfl⟩, hmore, hdata⟩ := Line.asks_pair_iff.1 ha
  have haction := Vocabulary.resolve_eq_ok_iff.2 hword
  cases action <;> simp only [dispatch, htoken, haction, hmore, hdata, exec_bind, exec_check]

end Dac

end Instrument
