import Instrument.Proofs.FoldedCommands
import Instrument.Proofs.GpioLines
import Instrument.Proofs.NumeralGrammar

/-!
# The codes of the DAC

A code is kept twice: in the latch of its channel, and as the voltage on the pad that the channel
drives, which is what the converter reads there. A write line changes both. Claims, releases and
drives change the modes and the levels of pads, but no voltage, so the two agree as long as nobody
puts another voltage on the pad from outside.
-/

namespace Instrument

open Act Text

namespace PinTable

variable {t t' : PinTable} {mode : PadMode} {s : Subsystem}

lemma undisturbed_releaseAll (t : PinTable) (pins : List Pin) :
    t.Undisturbed (t.releaseAll pins) :=
  ⟨latched_releaseAll t pins, analog_releaseAll t pins⟩

lemma undisturbed_resetAll (t : PinTable) : t.Undisturbed t.resetAll := by
  refine ⟨fun _ => rfl, fun q => ?_⟩
  rw [pad_resetAll]
  exact analog_restorePad _ _

lemma Granted.undisturbed {pins : List Pin} (h : Granted mode s pins t t') :
    t.Undisturbed t' := by
  refine ⟨h.latched, fun q => ?_⟩
  rw [h.pad]
  split
  · exact Pad.analog_apply _ _
  · rfl

/-- Granted or refused, claims leave the voltages alone. -/
lemma undisturbed_claimAll (mode : PadMode) (s : Subsystem) (pins : List Pin) (t : PinTable) :
    t.Undisturbed ((claimAll mode s pins).exec t).2 := by
  rcases exec_claimFrom mode s [] pins t with ⟨t', hg, he⟩ | ⟨fault, more, t', hg, he⟩
  · rw [claimAll, he]
    exact hg.undisturbed
  · rw [claimAll, he]
    exact hg.undisturbed.trans (undisturbed_releaseAll t' _)

end PinTable

namespace Adc

variable {t : PinTable} {line : Line}

/-- The voltages are those of the table, whatever has become of the control. -/
def Still (t : PinTable) (s : Adc × Rig) : Prop :=
  t.Undisturbed s.2.pins

lemma still_releaseInputs {s : Adc × Rig} (h : Still t s) : Still t (releaseInputs s) :=
  h.trans (PinTable.undisturbed_releaseAll _ _)

lemma keeps_still_claimInputs : Keeps (Still t) claimInputs := by
  rintro ⟨adc, rig⟩ h
  have hclaim := h.trans
    (PinTable.undisturbed_claimAll .analog .adc adc.converter.inputs rig.pins)
  simp only [claimInputs, exec] at hclaim ⊢
  split
  · next heq =>
    rw [heq] at hclaim
    exact hclaim
  · next heq =>
    rw [heq] at hclaim
    exact hclaim

lemma keeps_still_startUnits : Keeps (Still t) startUnits := by
  rintro ⟨adc, rig⟩ h
  have hconsumers : Still t (adc, rig.startConsumers) := by
    rw [Still, Rig.pins_startConsumers]
    exact h
  simp only [startUnits, exec]
  split
  · exact hconsumers
  · exact still_releaseInputs hconsumers

lemma steady_still (t : PinTable) (line : Line) : Steady line (Still t) where
  replies _ h := keeps_beside fun _ => h.keeps_pins
  claim := keeps_still_claimInputs
  units _ := keeps_still_startUnits
  stop s h := still_releaseInputs (by rwa [Still, halt, Rig.pins_convert])
  configure _ _ _ h _ _ _ := h

lemma undisturbed_dispatch (hword : fold (line.command.headD "") = "adc") (adc : Adc)
    (rig : Rig) : rig.pins.Undisturbed ((dispatch line).exec (adc, rig)).2.2.pins :=
  (steady_still rig.pins line).dispatch hword (adc, rig) (.refl rig.pins)

end Adc

namespace Board

variable {b b' : Board} {channel : DacChannel} {code : UInt16} {n : Nat}

/-- The board with the code on the channel and on its pad. -/
def holding (b : Board) (channel : DacChannel) (code : UInt16) : Board :=
  (b.setLatch channel code).setAnalog channel.pin code

lemma toNat_code (h : n ≤ 4095) : (UInt16.ofNat n).toNat = n := by
  apply UInt16.toNat_ofNat_of_lt'
  show n < 65536
  omega

lemma code_le (h : n ≤ 4095) : UInt16.ofNat n ≤ fullScale := by
  rw [UInt16.le_iff_toNat_le, toNat_code h]
  exact h

/-- The driver has nothing against a code that fits. -/
lemma latch_of_le (h : code ≤ fullScale) : b.latch channel code = .ok (b.holding channel code) :=
  if_neg (UInt16.not_lt.2 h)

lemma latched_holding (b : Board) (channel other : DacChannel) (code : UInt16) :
    (b.holding channel code).latched other =
      if other = channel then some code else b.latched other := by
  rw [holding, setAnalog, latched_updatePad]
  cases channel <;> cases other <;> rfl

lemma analog_setAnalog (b : Board) (pin q : Pin) (h : code ≤ fullScale) :
    ((b.setAnalog pin code).pad q).analog = if q = pin then code else (b.pad q).analog := by
  by_cases hq : pin = q
  · subst hq
    rw [setAnalog, pad_updatePad_self, if_pos rfl]
    exact if_pos h
  · rw [setAnalog, pad_updatePad_of_ne _ _ hq, if_neg fun h => hq h.symm]

lemma analog_holding (b : Board) (channel : DacChannel) (pin : Pin) (h : code ≤ fullScale) :
    ((b.holding channel code).pad pin).analog =
      if pin = channel.pin then code else (b.pad pin).analog := by
  rw [holding, analog_setAnalog _ _ _ h, pad_setLatch]

end Board

lemma DacChannel.pin_injective : Function.Injective DacChannel.pin := by
  intro channel other
  cases channel <;> cases other <;> simp [pin]

lemma DacChannel.pin_mem (channel : DacChannel) : channel.pin ∈ Dac.pins := by
  cases channel <;> decide

/-! ## Lines to the DAC -/

lemma Line.exists_of_expectData_one {line : Line} {data : List String}
    (h : line.expectData 1 = .ok data) : ∃ token, line.data = [token] := by
  unfold expectData at h
  split at h
  · next hlength => exact List.length_eq_one_iff.1 hlength
  · cases h

namespace Dac

variable {line : Line} {channel : DacChannel} {code : Nat} {dac : Dac} {rig : Rig}

/-- The line asks for the code on the channel: its data is the one word for the code. -/
structure Writes (line : Line) (channel : DacChannel) (code : Nat) : Prop where
  words : line.command.map fold = ["dac", "write", channel.name]
  data : ∃ token, line.data = [token] ∧ Numeral.Unsigned token.toList code
  le : code ≤ 4095

lemma within_fullScale {token : String} : Numeral.within 0 fullScale.toNat token = .ok code ↔
    Numeral.Unsigned token.toList code ∧ code ≤ 4095 := by
  have hfull : fullScale.toNat = 4095 := rfl
  rw [Numeral.within_eq_ok_iff (by decide), hfull]
  simp

lemma codeOf_eq_ok_iff : codeOf line = .ok code ↔
    (∃ token, line.data = [token] ∧ Numeral.Unsigned token.toList code) ∧ code ≤ 4095 := by
  constructor
  · intro h
    obtain ⟨data, hdata, -⟩ := Station.bind_eq_ok h
    obtain ⟨token, htoken⟩ := Line.exists_of_expectData_one hdata
    rw [codeOf_of_data htoken] at h
    cases hcode : Numeral.within 0 fullScale.toNat token with
    | ok n =>
      rw [hcode] at h
      cases h
      obtain ⟨hn, hle⟩ := within_fullScale.1 hcode
      exact ⟨⟨token, htoken, hn⟩, hle⟩
    | error d =>
      rw [hcode] at h
      cases h
  · rintro ⟨⟨token, hdata, hcode⟩, hle⟩
    rw [codeOf_of_data hdata, within_fullScale.2 ⟨hcode, hle⟩]

lemma resolve_channel_iff {i : Nat} :
    Vocabulary.dacChannels.resolve line.command[i]? = .ok channel ↔
      line.word? i = some channel.name := by
  apply Line.resolve_iff_word? DacChannel.name (by decide)
  cases channel <;> decide

lemma writes_iff (hword : fold (line.command.headD "") = "dac") :
    Writes line channel code ↔ Vocabulary.dacActions.resolve line.command[1]? = .ok .write ∧
      Vocabulary.dacChannels.resolve line.command[2]? = .ok channel ∧
      line.expectNoMore 3 = .ok () ∧ codeOf line = .ok code := by
  rw [resolve_channel_iff, codeOf_eq_ok_iff]
  constructor
  · rintro ⟨hwords, hdata, hle⟩
    obtain ⟨-, haction, hchannel, hmore⟩ := Line.words_eq_iff.1 hwords
    exact ⟨Line.resolve_of_word? haction (by decide), hchannel, hmore, hdata, hle⟩
  · rintro ⟨haction, hchannel, hmore, hdata, hle⟩
    obtain ⟨_, haction, hwrite⟩ := Line.word?_of_resolve
      (p := fun word action => action = .write → word = "write") haction (by decide)
    rw [hwrite rfl] at haction
    exact ⟨Line.words_eq_iff.2 ⟨hword, haction, hchannel, hmore⟩, hdata, hle⟩

lemma Writes.command (h : Writes line channel code) : fold (line.command.headD "") = "dac" :=
  (Line.words_eq_iff.1 h.words).1

/-- A write line puts the code on the channel, and then only its reply can still be lost. -/
lemma exec_dispatch_of_writes (rig : Rig) (h : Writes line channel code)
    (hs : dac.started = true) :
    ∃ answer console, (dispatch line).exec (dac, rig) = (answer, dac, { rig with
      pins.board := rig.pins.board.holding channel (UInt16.ofNat code), console }) := by
  obtain ⟨haction, hchannel, hmore, hcode⟩ := (writes_iff h.command).1 h
  have hlatch : rig.pins.board.latch channel (UInt16.ofNat code) = _ :=
    Board.latch_of_le (Board.code_le h.le)
  obtain ⟨answer, console, he, -⟩ := Rig.speaks_debug
    ("dac " ++ channel.name ++ " <- " ++ toString code) { rig with
      pins.board := rig.pins.board.holding channel (UInt16.ofNat code) }
  refine ⟨answer, console, ?_⟩
  rw [dispatch, exec_bind, exec_check, haction]
  dsimp only
  rw [write, exec_bind, exec_check, hchannel]
  dsimp only
  rw [exec_bind, exec_check, hmore]
  dsimp only
  rw [exec_bind, exec_get]
  dsimp only
  rw [if_pos hs, exec_bind, exec_check, hcode]
  dsimp only
  rw [exec_bind, exec_beside, Rig.onPins, exec_zoom, exec_update, hlatch]
  dsimp only [Except.map]
  rw [exec_beside, he]

lemma undisturbed_write (hnot : ∀ channel code, Writes line channel code → dac.started = false)
    (hword : fold (line.command.headD "") = "dac")
    (haction : Vocabulary.dacActions.resolve line.command[1]? = .ok .write) :
    rig.pins.Undisturbed ((write line).exec (dac, rig)).2.2.pins := by
  rw [write, exec_bind, exec_check]
  cases hchannel : Vocabulary.dacChannels.resolve line.command[2]? with
  | error fault => exact .refl rig.pins
  | ok channel =>
    dsimp only
    rw [exec_bind, exec_check]
    cases hmore : line.expectNoMore 3 with
    | error fault => exact .refl rig.pins
    | ok _ =>
      dsimp only
      rw [exec_bind, exec_get]
      dsimp only
      by_cases hs : dac.started = true
      · rw [if_pos hs, exec_bind, exec_check]
        cases hcode : codeOf line with
        | error fault => exact .refl rig.pins
        | ok code =>
          have hidle := hnot channel code ((writes_iff hword).2 ⟨haction, hchannel, hmore, hcode⟩)
          rw [hs] at hidle
          cases hidle
      · rw [if_neg hs]
        exact .refl rig.pins

lemma undisturbed_start : rig.pins.Undisturbed (start.exec (dac, rig)).2.2.pins := by
  have hclaim := PinTable.undisturbed_claimAll .analog .dac pins rig.pins
  rw [start, exec_bind, exec_get]
  dsimp only
  by_cases hs : dac.started = true
  · rw [if_pos hs]
    exact .refl rig.pins
  · rw [if_neg hs, exec_bind, exec_beside, claimPads, exec_zoom]
    generalize (PinTable.claimAll .analog .dac pins).exec rig.pins = out at hclaim ⊢
    rcases out with ⟨fault | _, t⟩
    · exact hclaim
    · exact hclaim

lemma undisturbed_stop : rig.pins.Undisturbed (stop.exec (dac, rig)).2.2.pins := by
  rw [stop, exec_bind, exec_get]
  dsimp only
  by_cases hs : dac.started = true
  · rw [if_pos hs]
    exact PinTable.undisturbed_releaseAll _ _
  · rw [if_neg hs]
    exact .refl rig.pins

/-- No other line to the DAC changes a code. -/
lemma undisturbed_dispatch (rig : Rig) (hword : fold (line.command.headD "") = "dac")
    (hnot : ∀ channel code, Writes line channel code → dac.started = false) :
    rig.pins.Undisturbed ((dispatch line).exec (dac, rig)).2.2.pins := by
  rw [dispatch, exec_bind, exec_check]
  cases haction : Vocabulary.dacActions.resolve line.command[1]? with
  | error fault => exact .refl rig.pins
  | ok action =>
    have hclosed : ∀ rest : Act (Dac × Rig) Unit,
        rig.pins.Undisturbed (rest.exec (dac, rig)).2.2.pins →
        rig.pins.Undisturbed ((check (line.expectNoMore 2) >>= fun _ =>
          check (line.expectData 0) >>= fun _ => rest).exec (dac, rig)).2.2.pins := by
      intro rest hrest
      rw [exec_bind, exec_check]
      cases line.expectNoMore 2 with
      | error fault => exact .refl rig.pins
      | ok _ =>
        dsimp only
        rw [exec_bind, exec_check]
        cases line.expectData 0 with
        | error fault => exact .refl rig.pins
        | ok _ => exact hrest
    cases action with
    | write => exact undisturbed_write hnot hword haction
    | start => exact hclosed start undisturbed_start
    | stop => exact hclosed stop undisturbed_stop

end Dac

/-! ## Runs -/

namespace PinTable

/-- No code is beyond full scale. -/
def Fits (t : PinTable) : Prop :=
  ∀ channel code, t.board.latched channel = some code → code ≤ fullScale

/-- The voltage on the pad of each channel is the code that was latched last. -/
def LoopsBack (t : PinTable) : Prop :=
  ∀ channel, (t.board.pad channel.pin).analog = (t.board.latched channel).getD 0

lemma fits_stock : stock.Fits := by
  intro channel code h
  cases channel <;> cases h

lemma loopsBack_stock : stock.LoopsBack := by
  intro channel
  have hpad : stock.board.pad channel.pin = restorePad (stock.row? channel.pin) .idle := by
    simp [stock, new, Board.pad, Board.fresh, row?]
  rw [hpad, analog_restorePad]
  cases channel <;> rfl

end PinTable

namespace Station

variable {config : Config} {console : Console} {s : Station} {stimulus : Stimulus} {t : PinTable}
  {adc : Adc} {dac : Dac} {line : Line} {channel : DacChannel} {code : Nat}

/-- What a stimulus makes of the codes and of the voltages. -/
inductive Recodes (s : Station) (dac : Dac) : Stimulus → PinTable → Prop
  | undisturbed {stimulus : Stimulus} {t : PinTable} (h : s.rig.pins.Undisturbed t) :
      Recodes s dac stimulus t
  | written {stimulus : Stimulus} {t : PinTable} {line : Line} {channel : DacChannel} {code : Nat}
      (hd : s.dispatched? stimulus = some line) (hw : Dac.Writes line channel code)
      (hs : dac.started = true)
      (hboard : t.board = s.rig.pins.board.holding channel (UInt16.ofNat code)) :
      Recodes s dac stimulus t
  | outside (pin : Pin) (code : UInt16) : Recodes s dac (.setAnalog pin code)
      { s.rig.pins with board := s.rig.pins.board.setAnalog pin code }

namespace Recodes

lemma exists_of_ne (h : Recodes s dac stimulus t)
    (hne : t.board.latched channel ≠ s.rig.pins.board.latched channel) :
    ∃ line code, s.dispatched? stimulus = some line ∧ Dac.Writes line channel code ∧
      dac.started = true ∧ t.board.latched channel = some (UInt16.ofNat code) := by
  cases h with
  | undisturbed h => exact absurd (h.latched channel) hne
  | @written _ _ line other code hd hw hs hboard =>
    rw [hboard, Board.latched_holding] at hne ⊢
    by_cases hc : channel = other
    · subst hc
      exact ⟨line, code, hd, hw, hs, if_pos rfl⟩
    · rw [if_neg hc] at hne
      exact absurd rfl hne
  | outside pin code => exact absurd (Board.latched_updatePad _ _ _ channel) hne

lemma fits (h : Recodes s dac stimulus t) (hf : s.rig.pins.Fits) : t.Fits := by
  intro channel code hcode
  by_cases hsame : t.board.latched channel = s.rig.pins.board.latched channel
  · exact hf channel code (hsame ▸ hcode)
  · obtain ⟨_, _, -, hw, -, hlatched⟩ := h.exists_of_ne hsame
    rw [hlatched] at hcode
    cases hcode
    exact Board.code_le hw.le

lemma loopsBack (h : Recodes s dac stimulus t)
    (hout : ∀ pin code, stimulus = .setAnalog pin code → pin ∉ Dac.pins)
    (hl : s.rig.pins.LoopsBack) : t.LoopsBack := by
  intro channel
  cases h with
  | undisturbed h => rw [h.analog, h.latched, hl]
  | @written _ _ _ other code _ hw _ hboard =>
    rw [hboard, Board.analog_holding _ _ _ (Board.code_le hw.le), Board.latched_holding]
    by_cases hc : channel = other
    · rw [if_pos hc, if_pos (congrArg DacChannel.pin hc)]
      rfl
    · -- The channels drive different pads.
      rw [if_neg hc, if_neg fun hpin => hc (DacChannel.pin_injective hpin), hl]
  | outside pin code =>
    have hne : pin ≠ channel.pin := fun hpin => hout pin code rfl (hpin ▸ channel.pin_mem)
    dsimp only
    rw [Board.setAnalog, Board.pad_updatePad_of_ne _ _ hne, Board.latched_updatePad, hl]

end Recodes

/-- Only a write line to the started DAC changes a code. -/
lemma recodes_undergo (hb : s.registry.Built adc dac) (stimulus : Stimulus) :
    Recodes s dac stimulus (s.undergo stimulus).rig.pins := by
  obtain ⟨adc', dac', rig', console, heffect, -, hrig⟩ := leads_undergo hb stimulus
  rw [hrig]
  cases heffect with
  | carried before hset heffect =>
    cases heffect with
    | reply => exact .undisturbed (.refl s.rig.pins)
    | reset => exact .undisturbed s.rig.pins.undisturbed_resetAll
    | @gpio line =>
      have h := Gpio.undisturbed_dispatch line { s.rig with console := before }
      exact .undisturbed h
    | @adc line hd hword =>
      have h := Adc.undisturbed_dispatch hword adc { s.rig with console := before }
      exact .undisturbed h
    | @dac line hd hword =>
      by_cases hwrites : ∃ channel code, Dac.Writes line channel code ∧ dac.started = true
      · obtain ⟨channel, code, hw, hs⟩ := hwrites
        obtain ⟨answer, after, he⟩ :=
          Dac.exec_dispatch_of_writes { s.rig with console := before } hw hs
        rw [he]
        exact .written hd hw hs rfl
      · have hidle : ∀ channel code, Dac.Writes line channel code → dac.started = false := by
          intro channel code hw
          -- A write line while the DAC rests is refused, so nothing is latched.
          by_contra hs
          exact hwrites ⟨channel, code, hw, by simpa using hs⟩
        have h := Dac.undisturbed_dispatch { s.rig with console := before } hword hidle
        exact .undisturbed h
  | elapse us =>
    rw [(Adc.silent_advance us adc _).pins]
    exact .undisturbed (.refl s.rig.pins)
  | setLevel pin high =>
    exact .undisturbed (s.rig.pins.undisturbed_updatePad pin fun _ => rfl)
  | setAnalog pin code => exact .outside pin code

/-- The commands are in their places, and the codes fit. -/
structure Coded (s : Station) : Prop where
  built : ∃ adc dac, s.registry.Built adc dac
  fits : s.rig.pins.Fits

lemma coded_undergo (s : Station) (stimulus : Stimulus) (h : s.Coded) :
    (s.undergo stimulus).Coded := by
  obtain ⟨adc, dac, hb⟩ := h.built
  obtain ⟨adc', dac', -, -, -, hb', -⟩ := leads_undergo hb stimulus
  exact ⟨⟨adc', dac', hb'⟩, (recodes_undergo hb stimulus).fits h.fits⟩

lemma loopsBack_run (hc : s.Coded) (hl : s.rig.pins.LoopsBack) (script : List Stimulus)
    (hout : ∀ pin code, .setAnalog pin code ∈ script → pin ∉ Dac.pins) :
    (s.run script).rig.pins.LoopsBack := by
  induction script generalizing s with
  | nil => exact hl
  | cons stimulus rest ih =>
    obtain ⟨adc, dac, hb⟩ := hc.built
    apply ih (coded_undergo s stimulus hc)
    · apply (recodes_undergo hb stimulus).loopsBack _ hl
      rintro pin code rfl
      exact hout pin code List.mem_cons_self
    · exact fun pin code hmem => hout pin code (List.mem_cons_of_mem _ hmem)

lemma coded_new (hnew : new config console = .ok s) :
    s.Coded ∧ s.rig.pins.LoopsBack := by
  obtain ⟨rig, hnewRig, hs⟩ := station_new hnew
  obtain ⟨_, _, -, -, hrig⟩ := rig_new hnewRig
  have hregistry : s.registry = .builtin rig := by rw [hs]
  have hpins : s.rig.pins = .stock := by rw [hs, hrig]
  refine ⟨⟨⟨.ofRig rig, ⟨false⟩, ?_⟩, ?_⟩, ?_⟩
  · rw [hregistry]
    exact ⟨Registry.index_builtin rig, Registry.commands_builtin rig⟩
  · rw [hpins]
    exact PinTable.fits_stock
  · rw [hpins]
    exact PinTable.loopsBack_stock

/-- The DAC's command is in its place, and started. -/
def DacStarted (s : Station) : Prop :=
  ∃ adc, s.registry.Built adc ⟨true⟩

/-- How the codes stand, and what changes them. -/
structure KeepsCodes (s : Station) : Prop where
  fits : ∀ channel code, s.rig.pins.board.latched channel = some code → code.toNat ≤ 4095
  change : ∀ stimulus channel,
    (s.undergo stimulus).rig.pins.board.latched channel ≠ s.rig.pins.board.latched channel →
      ∃ line code, s.dispatched? stimulus = some line ∧
        Dac.Writes line channel (UInt16.toNat code) ∧ s.DacStarted ∧
        (s.undergo stimulus).rig.pins.board.latched channel = some code
  write : ∀ stimulus line channel code, s.dispatched? stimulus = some line →
    Dac.Writes line channel code → s.DacStarted →
      ∃ latched, (s.undergo stimulus).rig.pins.board.latched channel = some latched ∧
        latched.toNat = code
  accepted : ∀ line code, Dac.codeOf line = .ok code → (UInt16.ofNat code).toNat = code ∧
    ∀ channel, ∃ board, s.rig.pins.board.latch channel (UInt16.ofNat code) = .ok board

lemma latched_of_writes (hb : s.registry.Built adc ⟨true⟩)
    (hd : s.dispatched? stimulus = some line) (hw : Dac.Writes line channel code) :
    (s.undergo stimulus).rig.pins.board.latched channel = some (UInt16.ofNat code) := by
  obtain ⟨before, after, -, -, hu⟩ := exists_undergo_of_dispatched hd
  have hs : Dac.started ⟨true⟩ = true := rfl
  obtain ⟨answer, console, he⟩ :=
    Dac.exec_dispatch_of_writes { s.rig with console := before } hw hs
  rw [hu, Registry.exec_dispatch_dac hb.index hb.commands hw.command, he]
  exact (Board.latched_holding _ channel channel _).trans (if_pos rfl)

lemma Coded.keepsCodes (h : s.Coded) : s.KeepsCodes where
  fits channel code hcode := UInt16.le_iff_toNat_le.1 (h.fits channel code hcode)
  change stimulus channel hne := by
    obtain ⟨adc, ⟨started⟩, hb⟩ := h.built
    obtain ⟨line, code, hd, hw, hs, hlatched⟩ := (recodes_undergo hb stimulus).exists_of_ne hne
    cases hs
    refine ⟨line, UInt16.ofNat code, hd, ?_, ⟨adc, hb⟩, hlatched⟩
    rw [Board.toNat_code hw.le]
    exact hw
  write stimulus line channel code hd hw hs := by
    obtain ⟨adc, hb⟩ := hs
    exact ⟨_, latched_of_writes hb hd hw, Board.toNat_code hw.le⟩
  accepted line code hcode := by
    obtain ⟨-, hle⟩ := Dac.codeOf_eq_ok_iff.1 hcode
    exact ⟨Board.toNat_code hle, fun channel => ⟨_, Board.latch_of_le (Board.code_le hle)⟩⟩

/-- In every run a code is changed by nothing but a write line to the started DAC, which latches the
number that it spells. The converter reads the codes back, as long as nobody puts a voltage on the
pads of the DAC from outside. -/
theorem keepsCodes_of_run (hnew : new config console = .ok s) (script : List Stimulus) :
    (s.run script).KeepsCodes ∧
      ((∀ pin code, .setAnalog pin code ∈ script → pin ∉ Dac.pins) →
        ∀ channel, (s.run script).rig.reading channel.pin =
          ((s.run script).rig.pins.board.latched channel).getD 0) := by
  obtain ⟨hc, hl⟩ := coded_new hnew
  refine ⟨(run_invariant coded_undergo hc script).keepsCodes, fun hout channel => ?_⟩
  exact loopsBack_run hc hl script hout channel

/-- A code is written to the first channel, and can be read on the channel's pad. -/
theorem keepsCodes_of_written_code : ∃ s, new {} .fresh = .ok s ∧
    let t := s.run [.execute "dac:start", .execute "dac:write:ch1(0x7ff)"]
    t.KeepsCodes ∧ t.rig.pins.board.latched .ch1 = some 2047 ∧
      t.rig.reading DacChannel.ch1.pin = 2047 := by
  have hcode : (new {} .fresh).toOption.any (fun s =>
      (s.run [.execute "dac:start", .execute "dac:write:ch1(0x7ff)"]).rig.pins.board.latched .ch1 ==
        some 2047) = true := by
    decide +kernel
  obtain ⟨s, hnew, hlatched⟩ := exists_new_of_any hcode
  rw [beq_iff_eq] at hlatched
  obtain ⟨hkeeps, hreading⟩ := keepsCodes_of_run hnew
    [.execute "dac:start", .execute "dac:write:ch1(0x7ff)"]
  have hread := hreading (by simp) .ch1
  rw [hlatched] at hread
  exact ⟨s, hnew, hkeeps, hlatched, hread⟩

end Station

end Instrument
