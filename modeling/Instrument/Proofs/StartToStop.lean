import Instrument.Proofs.HeldPins

/-!
# From start to stop

Once a start has succeeded its command holds its pins after every stimulus, until its stop or a
reset is carried out. Lines to the other commands are refused the pins, repeated starts change
nothing, and replies may be lost on the way.
-/

namespace Instrument

open Act Text

variable {g : PinGroup} {inputs : List Pin} {adc : Adc} {dac : Dac} {rig : Rig} {r : Registry}
  {line : Line}

lemma PinGroup.admits_noted (hstop : line.asks [g.word, "stop"] = false)
    (hreset : line.asks ["resetpins"] = false) : Admits g.Noted line where
  adc hw dac := by
    cases g with
    | adc => exact Adc.keeps_noted hw hstop
    | dac => exact fun _ hs => hs
  dac hw adc := by
    cases g with
    | adc => exact fun _ hs => hs
    | dac => exact Dac.keeps_noted hw hstop
  reset ha := by
    rw [ha] at hreset
    cases hreset

namespace Registry

lemma exec_dispatch_adc (hi : r.index = builtinIndex)
    (hc : r.commands = [.version, .status, .gpio, .adc adc, .dac dac])
    (hw : fold (line.command.headD "") = "adc") :
    (dispatch line).exec (r, rig) = (((Adc.dispatch line).exec (adc, rig)).1,
      { r with commands := [.version, .status, .gpio,
          .adc ((Adc.dispatch line).exec (adc, rig)).2.1, .dac dac] },
      ((Adc.dispatch line).exec (adc, rig)).2.2) := by
  have hplace : r.commands[3]? = some (.adc adc) := by rw [hc]; rfl
  rw [exec_dispatch_of_mem hi (hw ▸ (by decide : ("adc", 3) ∈ builtinIndex)),
    exec_dispatchAt hplace, hc]
  rfl

lemma exec_dispatch_dac (hi : r.index = builtinIndex)
    (hc : r.commands = [.version, .status, .gpio, .adc adc, .dac dac])
    (hw : fold (line.command.headD "") = "dac") :
    (dispatch line).exec (r, rig) = (((Dac.dispatch line).exec (dac, rig)).1,
      { r with commands := [.version, .status, .gpio, .adc adc,
          .dac ((Dac.dispatch line).exec (dac, rig)).2.1] },
      ((Dac.dispatch line).exec (dac, rig)).2.2) := by
  have hplace : r.commands[4]? = some (.dac dac) := by rw [hc]; rfl
  rw [exec_dispatch_of_mem hi (hw ▸ (by decide : ("dac", 4) ∈ builtinIndex)),
    exec_dispatchAt hplace, hc]
  rfl

/-- A start that succeeds leaves its note, and the pins were at their defaults before it. -/
lemma stands_of_start (hi : r.index = builtinIndex)
    (hc : r.commands = [.version, .status, .gpio, .adc adc, .dac dac])
    (h : Holdings inputs adc dac rig.pins) (hfree : g = .adc → adc.claimed = [])
    (ha : line.asks [g.word, "start"] = true)
    (hok : ((dispatch line).exec (r, rig)).1 = .ok ()) :
    ((dispatch line).exec (r, rig)).2.1.Stands g.Noted ∧
      ∀ pin ∈ g.pins inputs, (rig.pins.row? pin).map Row.restore = rig.pins.row? pin := by
  have hw := (Line.asks_pair_iff.1 ha).1
  cases g with
  | adc =>
    have he := Adc.exec_dispatch_of_asks .start (by decide) ha (adc, rig)
    rw [exec_dispatch_adc hi hc hw, he] at hok ⊢
    obtain ⟨hn, hrest⟩ := Adc.noted_of_start h (hfree rfl) hok
    exact ⟨⟨hi, _, dac, rfl, hn⟩, hrest⟩
  | dac =>
    have he := Dac.exec_dispatch_of_asks .start (by decide) ha (dac, rig)
    rw [exec_dispatch_dac hi hc hw, he] at hok ⊢
    obtain ⟨hn, hrest⟩ := Dac.noted_of_start h hok
    exact ⟨⟨hi, adc, _, rfl, hn⟩, hrest⟩

lemma pins_of_stop (hi : r.index = builtinIndex)
    (hc : r.commands = [.version, .status, .gpio, .adc adc, .dac dac])
    (h : Holdings inputs adc dac rig.pins) (hn : g.Noted adc dac)
    (ha : line.asks [g.word, "stop"] = true) :
    ((dispatch line).exec (r, rig)).2.2.pins = rig.pins.releaseAll (g.pins inputs) := by
  have hw := (Line.asks_pair_iff.1 ha).1
  cases g with
  | adc =>
    have he := Adc.exec_dispatch_of_asks .stop (by decide) ha (adc, rig)
    have hclaimed : adc.claimed = inputs := h.noted.resolve_left hn.1
    rw [exec_dispatch_adc hi hc hw, he, PinGroup.pins, ← hclaimed]
    exact Adc.pins_of_stop hn
  | dac =>
    have he := Dac.exec_dispatch_of_asks .stop (by decide) ha (dac, rig)
    rw [exec_dispatch_dac hi hc hw, he]
    exact Dac.pins_of_stop hn

end Registry

namespace Station

variable {s : Station} {stimulus : Stimulus} {script : List Stimulus}

/-- The stimulus has the stop of the group or a reset carried out. -/
def ends (g : PinGroup) (s : Station) : Stimulus → Bool
  | .reset => true
  | .shell text =>
    match Shell.actionOf text with
    | .ok .reset => true
    | _ => false
  | stimulus => (s.dispatched? stimulus).any fun line =>
      line.asks [g.word, "stop"] || line.asks ["resetpins"]

/-- No stimulus of the script ends what the group holds. -/
def spares (g : PinGroup) : Station → List Stimulus → Bool
  | _, [] => true
  | s, stimulus :: rest => !s.ends g stimulus && (s.undergo stimulus).spares g rest

lemma admits_noted_of_dispatched (h : ((s.dispatched? stimulus).any fun line =>
      line.asks [g.word, "stop"] || line.asks ["resetpins"]) = false) :
    ∀ line ∈ s.dispatched? stimulus, Instrument.Admits g.Noted line := by
  intro line hline
  rw [hline, Option.any_some, Bool.or_eq_false_iff] at h
  exact PinGroup.admits_noted h.1 h.2

lemma admits_noted (h : s.ends g stimulus = false) : s.Admits g.Noted stimulus := by
  cases stimulus with
  | reset => cases h
  | shell text =>
    intro hreset
    simp only [ends, hreset] at h
    cases h
  | execute text => exact admits_noted_of_dispatched h
  | parse text => exact admits_noted_of_dispatched h
  | handle text => exact admits_noted_of_dispatched h
  | elapse us => exact admits_noted_of_dispatched h
  | setLevel pin high => exact admits_noted_of_dispatched h
  | setAnalog pin code => exact admits_noted_of_dispatched h

/-- What every stimulus keeps that does not end the hold, is so at each point of the script. -/
lemma spares_invariant {p : Station → Prop}
    (hstep : ∀ s stimulus, p s → s.ends g stimulus = false → p (s.undergo stimulus))
    (h : p s) (hs : s.spares g script = true) {now : List Stimulus} (hn : now <+: script) :
    p (s.run now) := by
  induction now generalizing s script with
  | nil => exact h
  | cons stimulus now ih =>
    obtain ⟨later, rfl⟩ := hn
    rw [List.cons_append, spares, Bool.and_eq_true, Bool.not_eq_true'] at hs
    exact ih (hstep s stimulus h hs.1) hs.2 (List.prefix_append now later)

/-- The commands agree with the pins, and the group has noted its own. -/
structure Holding (g : PinGroup) (inputs : List Pin) (s : Station) : Prop where
  holds : Holds inputs s
  stands : s.registry.Stands g.Noted

lemma holding_undergo (s : Station) (stimulus : Stimulus) (h : Holding g inputs s)
    (he : s.ends g stimulus = false) : Holding g inputs (s.undergo stimulus) where
  holds := holds_undergo s stimulus h.holds
  stands := by
    refine stands_undergo (fun us adc dac rig hn => ?_) h.stands (admits_noted he)
    cases g with
    | adc => exact Adc.noted_advance us hn
    | dac => exact hn

lemma Holding.exists_noted (h : Holding g inputs s) :
    ∃ adc dac, s.registry.commands = [.version, .status, .gpio, .adc adc, .dac dac] ∧
      Holdings inputs adc dac s.rig.pins ∧ g.Noted adc dac := by
  obtain ⟨adc, dac, hc, hold⟩ := h.holds
  obtain ⟨-, adc', dac', hc', hn⟩ := h.stands
  have hsame := hc.symm.trans hc'
  cases hsame
  exact ⟨adc, dac, hc, hold, hn⟩

lemma stands_run {config : Config} {console : Console} (hnew : new config console = .ok s)
    (script : List Stimulus) : (s.run script).registry.Stands fun _ _ => True := by
  refine run_invariant (p := fun s => s.registry.Stands fun _ _ => True) ?_ ?_ script
  · intro s stimulus hs
    apply stands_undergo (fun _ _ _ _ _ => trivial) hs
    have hreset : AdmitsReset fun _ _ => True := fun _ _ _ _ _ => trivial
    have hlines : ∀ line : Line, Instrument.Admits (fun _ _ => True) line := fun _ =>
      ⟨fun _ _ _ _ => trivial, fun _ _ _ _ => trivial, fun _ => hreset⟩
    cases stimulus with
    | reset => exact hreset
    | shell text => exact fun _ => hreset
    | _ => exact fun line _ => hlines line
  · obtain ⟨rig, -, rfl⟩ := station_new hnew
    exact ⟨Registry.index_builtin rig, _, _, Registry.commands_builtin rig, trivial⟩

/-! ## Start to stop -/

/-- In `t` the group holds its pins, and a stop brings them back to what they are in `s`. -/
structure Held (g : PinGroup) (inputs : List Pin) (s t : Station) : Prop where
  query : ∀ pin ∈ g.pins inputs, t.rig.pins.query pin = .ok (.analog, some g.subsystem)
  pads : ∀ pin ∈ g.pins inputs, (t.rig.pins.board.pad pin).mode = .analog
  stop : ∀ stop line, t.dispatched? stop = some line → line.asks [g.word, "stop"] = true →
    ∀ pin ∈ g.pins inputs, (t.undergo stop).rig.pins.row? pin = s.rig.pins.row? pin

lemma held_of_holding {t : Station} (h : Holding g inputs t) (ho : s.rig.pins.Orderly)
    (hrest : ∀ pin ∈ g.pins inputs, (s.rig.pins.row? pin).map Row.restore = s.rig.pins.row? pin) :
    Held g inputs s t := by
  obtain ⟨adc, dac, hc, hold, hn⟩ := h.exists_noted
  refine ⟨fun pin hp => (hold.held hn hp).1, fun pin hp => (hold.held hn hp).2, ?_⟩
  intro stop line hline hasks pin hp
  obtain ⟨rig, hrig, -, -, hpins⟩ := undergo_of_dispatched hline
  -- The stop restores the row; that is the row of old, which was at its defaults before the start.
  rw [hpins, Registry.pins_of_stop h.stands.index hc (hrig ▸ hold) hn hasks,
    PinTable.row?_releaseAll, if_pos hp, hrig, ho.restore_eq hold.orderly, hrest pin hp]

/-- A start that succeeds, of the converter when it holds no pin yet, holds the pins at each point
of a script without stop and reset. -/
theorem held_until_stop {config : Config} {console : Console} (hnew : new config console = .ok s)
    (before : List Stimulus) {start : Stimulus}
    (hstart : (s.run before).dispatched? start = some line)
    (hasks : line.asks [g.word, "start"] = true) (hok : (s.run before).answer start = .ok ())
    (hfree : g = .adc → (s.run before).rig.pins.ownedBy .adc = [])
    (hs : ((s.run before).undergo start).spares g script = true) :
    ∃ inputs, config.adc.inputs.mapM Rig.inputPin = .ok inputs ∧ ∀ now, now <+: script →
      Held g inputs (s.run before) (((s.run before).undergo start).run now) := by
  obtain ⟨inputs, hinputs, hnew'⟩ := holds_new hnew
  have hbefore := run_invariant holds_undergo hnew' before
  have hagree := hbefore
  obtain ⟨adc, dac, hc, hold⟩ := hagree
  change Holdings inputs adc dac (s.run before).rig.pins at hold
  -- What the converter's command has noted is what the table says of its pins.
  have hclaimed : g = .adc → adc.claimed = [] := by
    intro hg
    apply List.eq_nil_iff_forall_not_mem.2
    intro pin hp
    have howned := (hold.orderly.mem_ownedBy_iff (by decide)).2 ((hold.adc_holds pin).2 hp)
    rw [hfree hg] at howned
    cases howned
  obtain ⟨rig, hrig, hanswer, hregistry, -⟩ := undergo_of_dispatched hstart
  rw [hanswer] at hok
  obtain ⟨hstands, hrest⟩ := Registry.stands_of_start (stands_run hnew before).index hc
    (hrig ▸ hold) hclaimed hasks hok
  have hholding : Holding g inputs ((s.run before).undergo start) :=
    ⟨holds_undergo _ start hbefore, hregistry ▸ hstands⟩
  refine ⟨inputs, hinputs, fun now hnow => ?_⟩
  have hthen := spares_invariant holding_undergo hholding hs hnow
  exact held_of_holding hthen hold.orderly (hrig ▸ hrest)

lemma ownedBy_new {config : Config} {console : Console} (hnew : new config console = .ok s)
    {subsystem : Subsystem} (hs : subsystem ≠ .usb) : s.rig.pins.ownedBy subsystem = [] := by
  obtain ⟨rig, hr, rfl⟩ := station_new hnew
  obtain ⟨inputs, pool, -, -, hrig⟩ := rig_new hr
  have hpins : rig.pins = .stock := by rw [hrig]
  apply List.eq_nil_iff_forall_not_mem.2
  intro pin hp
  rw [hpins, PinTable.orderly_stock.mem_ownedBy_iff hs, PinTable.owner?_stock] at hp
  exact PinProfile.stock_defaultOwner_ne pin hs hp

/-- GPIO asks for an input in vain, and the DAC is started beside the converter. -/
theorem held_until_stop_stock : ∃ s, new {} .fresh = .ok s ∧
    let script : List Stimulus := [.execute "gpio:release:porta:pin3", .execute "dac:start"]
    ∃ inputs, (({} : Config).adc.inputs.mapM Rig.inputPin) = .ok inputs ∧
      ∀ now, now <+: script →
        Held .adc inputs s ((s.undergo (.execute "adc:start")).run now) := by
  have hstock : (new {} .fresh).toOption.any (fun s =>
      (s.dispatched? (.execute "adc:start")).any (·.asks ["adc", "start"]) &&
      (s.answer (.execute "adc:start")).isOk &&
      (s.undergo (.execute "adc:start")).spares .adc
        [.execute "gpio:release:porta:pin3", .execute "dac:start"]) = true := by
    decide +kernel
  obtain ⟨s, hnew, hcheck⟩ := exists_new_of_any hstock
  simp only [Bool.and_eq_true, Option.any_eq_true] at hcheck
  obtain ⟨⟨⟨line, hline, hasks⟩, hok⟩, hspares⟩ := hcheck
  obtain ⟨⟨⟩, hanswer⟩ := exists_of_isOk hok
  have hfree : s.rig.pins.ownedBy .adc = [] := ownedBy_new hnew (by decide)
  exact ⟨s, hnew, held_until_stop hnew [] hline hasks hanswer (fun _ => hfree) hspares⟩

end Station

end Instrument
