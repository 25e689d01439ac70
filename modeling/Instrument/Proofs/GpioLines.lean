import Instrument.Proofs.Effects
import Instrument.Proofs.PinIndependence

/-!
# Lines about single pins

A gpio line addresses one pin by two of its words and asks one thing of it. `Does` has a rule for
each thing that can be asked. However the line is spelled, and whatever becomes of the replies, the
pins are changed by one of the rules, or the line is refused and nothing has happened.
-/

namespace Instrument

open Act Text

namespace Console

/-- The connection is the same, but for what it has carried. -/
def Carries (c c' : Console) : Prop :=
  ∃ log attempts, c' = { c with log, attempts }

variable {c c' c'' : Console}

lemma Carries.refl (c : Console) : c.Carries c :=
  ⟨c.log, c.attempts, rfl⟩

lemma Carries.trans (h : c.Carries c') (h' : c'.Carries c'') : c.Carries c'' := by
  obtain ⟨_, _, rfl⟩ := h
  obtain ⟨log, attempts, rfl⟩ := h'
  exact ⟨log, attempts, rfl⟩

lemma Carries.working (h : c.Carries c') (hw : c.Working) : c'.Working := by
  obtain ⟨_, _, rfl⟩ := h
  exact ⟨hw.up, hw.lossless⟩

lemma carries_line (text : String) (c : Console) : c.Carries ((line text).exec c).2 := by
  unfold line send exec
  dsimp only
  split
  · exact ⟨c.log, c.attempts + 1, rfl⟩
  · exact ⟨_, c.attempts + 1, rfl⟩

lemma carries_debug (text : String) (c : Console) : c.Carries ((debug text).exec c).2 := by
  unfold debug exec
  dsimp only
  split
  · exact carries_line _ c
  · exact .refl c

end Console

lemma Line.fold_headD_of_asks {line : Line} {word : String} {words : List String}
    (h : line.asks (word :: words) = true) : fold (line.command.headD "") = word := by
  have hwords := (asks_iff.1 h).1
  cases hcommand : line.command with
  | nil =>
    rw [hcommand] at hwords
    cases hwords
  | cons first rest =>
    rw [hcommand] at hwords
    exact (List.cons.inj hwords).1

namespace Gpio

variable {line : Line} {pin p q : Pin} {mode : PadMode}

def portWord (port : Port) : String :=
  "port" ++ String.singleton port.letter.toLower

def padWord (pad : Fin 16) : String :=
  "pin" ++ toString pad.val

/-- The line addresses the pin: its third word names the port and its fourth the pad. -/
structure Addresses (line : Line) (pin : Pin) : Prop where
  port : line.word? 2 = some (portWord pin.port)
  pad : line.word? 3 = some (padWord pin.pad)

lemma resolve_port_iff {port : Port} {i : Nat} :
    Vocabulary.ports.resolve line.command[i]? = .ok port ↔
      line.word? i = some (portWord port) := by
  apply Line.resolve_iff_word? portWord (by decide)
  cases port <;> decide

lemma resolve_pad_iff {pad : Fin 16} {i : Nat} :
    Vocabulary.pads.resolve line.command[i]? = .ok pad ↔ line.word? i = some (padWord pad) := by
  apply Line.resolve_iff_word? padWord (by decide)
  revert pad
  decide

lemma pinAt_eq_ok_iff : pinAt line 2 = .ok pin ↔ Addresses line pin := by
  constructor
  · intro h
    obtain ⟨port, hport, h⟩ := Station.bind_eq_ok h
    obtain ⟨pad, hpad, h⟩ := Station.bind_eq_ok h
    cases h
    exact ⟨resolve_port_iff.1 hport, resolve_pad_iff.1 hpad⟩
  · rintro ⟨hport, hpad⟩
    rw [pinAt, resolve_port_iff.2 hport, resolve_pad_iff.2 hpad]
    rfl

lemma Addresses.unique (hp : Addresses line p) (hq : Addresses line q) : p = q := by
  have h := pinAt_eq_ok_iff.2 hp
  rw [pinAt_eq_ok_iff.2 hq] at h
  cases h
  rfl

/-- The mode that the words for the direction and the sense denote. -/
def denoted? (line : Line) : Option PadMode :=
  match line.word? 4, line.word? 5 with
  | some "input", some "pullup" => some (.input .pullUp)
  | some "input", some "pulldown" => some (.input .pullDown)
  | some "input", some "floating" => some (.input .floating)
  | some "input", some "analog" => some .analog
  | some "output", _ => some .output
  | some "analog", _ => some .analog
  | _, _ => none

lemma denoted?_of_modeOf {used : Nat} (h : modeOf line = .ok (mode, used)) :
    denoted? line = some mode := by
  obtain ⟨direction, hdirection, h⟩ := Station.bind_eq_ok h
  obtain ⟨_, hd, hword⟩ := Line.word?_of_resolve (p := fun word direction =>
    direction = .input ∧ word = "input" ∨ direction = .output ∧ word = "output" ∨
      direction = .analog ∧ word = "analog") hdirection (by decide)
  rcases hword with ⟨rfl, rfl⟩ | ⟨rfl, rfl⟩ | ⟨rfl, rfl⟩
  · obtain ⟨sense, hsense, h⟩ := Station.bind_eq_ok h
    obtain ⟨_, hs, hword⟩ := Line.word?_of_resolve (p := fun word sense =>
      sense = .bias .pullUp ∧ word = "pullup" ∨ sense = .bias .pullDown ∧ word = "pulldown" ∨
        sense = .bias .floating ∧ word = "floating" ∨ sense = .analog ∧ word = "analog")
      hsense (by decide)
    rcases hword with ⟨rfl, rfl⟩ | ⟨rfl, rfl⟩ | ⟨rfl, rfl⟩ | ⟨rfl, rfl⟩ <;> cases h <;>
      simp only [denoted?, hd, hs]
  · -- A sense after an output is looked up and dropped.
    cases hs : line.command[5]? with
    | none =>
      simp only [hs] at h
      cases h
      simp only [denoted?, hd]
    | some token =>
      simp only [hs] at h
      obtain ⟨_, -, h⟩ := Station.bind_eq_ok h
      cases h
      simp only [denoted?, hd]
  · cases h
    simp only [denoted?, hd]

/-- The words that stand for an action. -/
def actionWords : GpioAction → List String
  | .get => ["get"]
  | .set => ["set"]
  | .clear => ["clear"]
  | .query => ["query"]
  | .configure => ["configure", "config"]
  | .release => ["release"]

/-- The second word of the line stands for the action. -/
def Asks (line : Line) (action : GpioAction) : Prop :=
  ∃ word, line.word? 1 = some word ∧ word ∈ actionWords action

lemma Asks.unique {action action' : GpioAction} (h : Asks line action) (h' : Asks line action') :
    action = action' := by
  obtain ⟨word, hword, hmem⟩ := h
  obtain ⟨word', hword', hmem'⟩ := h'
  rw [hword] at hword'
  cases hword'
  cases action <;> cases action' <;> simp_all [actionWords]

/-! ## Rules -/

/-- The table after GPIO has claimed the pin as an output and driven it. -/
def driven (t : PinTable) (pin : Pin) (row : Row) (high : Bool) : PinTable :=
  (t.put pin { row with mode := .output, owner := some .gpio }).write pin high

/-- What the actions make of the table by way of their pin. -/
inductive Does (line : Line) (pin : Pin) (t : PinTable) : GpioAction → PinTable → Prop
  | get : Does line pin t .get t
  | query : Does line pin t .query t
  | set {row : Row} (hrow : t.row? pin = some row) (ha : row.admits .gpio = true) :
      Does line pin t .set (driven t pin row true)
  | clear {row : Row} (hrow : t.row? pin = some row) (ha : row.admits .gpio = true) :
      Does line pin t .clear (driven t pin row false)
  | configure {row : Row} {mode : PadMode} (hm : denoted? line = some mode)
      (hc : mode = .analog → t.capable pin .adc = .ok true)
      (hrow : t.row? pin = some row) (ha : row.admits .gpio = true) :
      Does line pin t .configure (t.put pin { row with mode, owner := some .gpio })
  | release {row : Row} (hrow : t.row? pin = some row)
      (ho : row.owner = none ∨ row.owner = some .gpio) :
      Does line pin t .release (t.put pin row.restore)

/-- A line is refused, or it does something by a rule, and then only replies can still be lost. -/
inductive Comes (line : Line) (rig : Rig) : Except Fault Unit × Rig → Prop
  | refused (fault : Fault) : Comes line rig (.error fault, rig)
  | done {action : GpioAction} {pin : Pin} {pins : PinTable} {answer : Except Fault Unit}
      {console : Console} (ha : Asks line action) (hp : Addresses line pin)
      (hd : Does line pin rig.pins action pins)
      (hcarried : rig.console.Carries console) (hok : rig.console.Working → answer = .ok ()) :
      Comes line rig (answer, { rig with pins, console })

end Gpio

/-- The request only sends, and nothing but a lost line makes it fail. -/
def Rig.Speaks (act : Act Rig Unit) : Prop :=
  ∀ rig, ∃ answer console, act.exec rig = (answer, { rig with console }) ∧
    rig.console.Carries console ∧ (rig.console.Working → answer = .ok ())

namespace Rig

lemma speaks_pure : Speaks (pure ()) := fun rig =>
  ⟨.ok (), rig.console, rfl, .refl rig.console, fun _ => rfl⟩

lemma speaks_line (text : String) : Speaks (onConsole (Console.line text)) := by
  intro rig
  refine ⟨_, _, rfl, Console.carries_line text rig.console, fun hw => ?_⟩
  exact congrArg Prod.fst (exec_line hw text)

lemma speaks_debug (text : String) : Speaks (debug text) := by
  intro rig
  refine ⟨_, _, rfl, Console.carries_debug text rig.console, fun hw => ?_⟩
  exact congrArg Prod.fst (Console.exec_debug hw text)

lemma speaks_bind {act act' : Act Rig Unit} (h : Speaks act) (h' : Speaks act') :
    Speaks (act >>= fun _ => act') := by
  intro rig
  obtain ⟨answer, console, he, hcarried, hok⟩ := h rig
  rw [exec_bind, he]
  cases answer with
  | error fault =>
    refine ⟨.error fault, console, rfl, hcarried, fun hw => ?_⟩
    have hfault := hok hw
    cases hfault
  | ok _ =>
    obtain ⟨answer', console', he', hcarried', hok'⟩ := h' { rig with console }
    exact ⟨answer', console', he', hcarried.trans hcarried', fun hw => hok' (hcarried.working hw)⟩

end Rig

namespace Gpio

variable {line : Line} {pin p q : Pin} {mode : PadMode} {t t' : PinTable} {rig : Rig}
  {action : GpioAction}

lemma comes_of_speaks {act : Act Rig Unit} {pins : PinTable} (ha : Asks line action)
    (hp : Addresses line pin) (hd : Does line pin rig.pins action pins) (h : Rig.Speaks act) :
    Comes line rig (act.exec { rig with pins }) := by
  obtain ⟨answer, console, he, hcarried, hok⟩ := h { rig with pins }
  rw [he]
  exact .done ha hp hd hcarried hok

lemma speaks_readLevel (pin : Pin) : Rig.Speaks (readLevel pin) := fun rig =>
  Rig.speaks_line _ rig

lemma capable_of_checkAnalog (h : checkAnalog t pin mode = .ok ()) (hm : mode = .analog) :
    t.capable pin .adc = .ok true := by
  rw [checkAnalog, if_pos hm] at h
  cases hcapable : t.capable pin .adc with
  | error fault =>
    rw [hcapable] at h
    cases h
  | ok wired =>
    rw [hcapable] at h
    cases wired with
    | false => cases h
    | true => rfl

lemma comes_configure (ha : Asks line .configure) (hp : Addresses line pin) :
    Comes line rig ((configure pin line).exec rig) := by
  rw [configure, exec_bind, exec_check]
  cases hmode : modeOf line with
  | error fault => exact .refused fault
  | ok spec =>
    obtain ⟨mode, used⟩ := spec
    dsimp only
    rw [exec_bind, exec_check]
    cases line.expectNoMore used with
    | error fault => exact .refused fault
    | ok _ =>
      dsimp only
      rw [exec_bind, exec_get]
      dsimp only
      rw [exec_bind, exec_check]
      cases hanalog : checkAnalog rig.pins pin mode with
      | error fault => exact .refused fault
      | ok _ =>
        dsimp only
        rw [exec_bind, Rig.onPins, exec_zoom, exec_update]
        cases hclaim : rig.pins.claim pin mode .gpio with
        | error fault => exact .refused fault
        | ok pins =>
          obtain ⟨row, hrow, hadmits, rfl⟩ := PinTable.claim_eq_ok_iff.1 hclaim
          have hd : Does line pin rig.pins .configure _ :=
            .configure (denoted?_of_modeOf hmode) (capable_of_checkAnalog hanalog) hrow hadmits
          exact comes_of_speaks ha hp hd (Rig.speaks_debug _)

/-- The action of a drive to either level. -/
def driveAction (high : Bool) : GpioAction :=
  if high then .set else .clear

lemma does_drive {row : Row} (high : Bool) (hrow : t.row? pin = some row)
    (hadmits : row.admits .gpio = true) :
    Does line pin t (driveAction high) (driven t pin row high) := by
  cases high with
  | false => exact .clear hrow hadmits
  | true => exact .set hrow hadmits

lemma comes_drive (high : Bool) (ha : Asks line (driveAction high)) (hp : Addresses line pin) :
    Comes line rig ((drive pin high).exec rig) := by
  rw [drive, exec_bind, Rig.onPins, exec_zoom, exec_update]
  cases hclaim : rig.pins.claim pin .output .gpio with
  | error fault => exact .refused fault
  | ok pins =>
    obtain ⟨row, hrow, hadmits, rfl⟩ := PinTable.claim_eq_ok_iff.1 hclaim
    dsimp only
    rw [exec_bind, Rig.onPins, exec_zoom, exec_update]
    exact comes_of_speaks ha hp (does_drive high hrow hadmits) (Rig.speaks_debug _)

lemma comes_query (ha : Asks line .query) (hp : Addresses line pin) :
    Comes line rig ((query pin).exec rig) := by
  rw [query, exec_bind, exec_get]
  dsimp only
  rw [exec_bind, exec_check]
  cases rig.pins.query pin with
  | error fault => exact .refused fault
  | ok held =>
    exact comes_of_speaks ha hp .query (Rig.speaks_bind (Rig.speaks_line _) (Rig.speaks_line _))

lemma comes_release (ha : Asks line .release) (hp : Addresses line pin) :
    Comes line rig ((Rig.onPins (releaseIn pin)).exec rig) := by
  rw [Rig.onPins, exec_zoom, exec_update]
  cases hrelease : releaseIn pin rig.pins with
  | error fault => exact .refused fault
  | ok pins =>
    have hd : Does line pin rig.pins .release pins := by
      obtain ⟨⟨mode, owner⟩, hquery, h⟩ := Station.bind_eq_ok hrelease
      obtain ⟨row, hrow, -, howner⟩ := PinTable.query_eq_ok_iff.1 hquery
      dsimp only at h
      by_cases ho : owner = none ∨ owner = some .gpio
      · rw [if_pos ho] at h
        obtain ⟨row', hrow', rfl⟩ := PinTable.release_eq_ok_iff.1 h
        cases hrow.symm.trans hrow'
        exact .release hrow (howner ▸ ho)
      · rw [if_neg ho] at h
        cases h
    exact comes_of_speaks ha hp hd Rig.speaks_pure

lemma comes_act (ha : Asks line action) (hp : Addresses line pin) :
    Comes line rig ((act action pin line).exec rig) := by
  have hclosed : ∀ rest : Act Rig Unit, Comes line rig (rest.exec rig) →
      Comes line rig ((check (line.expectNoMore 4) >>= fun _ => rest).exec rig) := by
    intro rest hrest
    rw [exec_bind, exec_check]
    cases line.expectNoMore 4 with
    | error fault => exact .refused fault
    | ok _ => exact hrest
  cases action with
  | get => exact hclosed _ (comes_of_speaks ha hp .get (speaks_readLevel pin))
  | set => exact hclosed _ (comes_drive true ha hp)
  | clear => exact hclosed _ (comes_drive false ha hp)
  | query => exact hclosed _ (comes_query ha hp)
  | configure => exact comes_configure ha hp
  | release => exact hclosed _ (comes_release ha hp)

/-- A gpio line is refused, or it does something by a rule. -/
lemma comes_dispatch (line : Line) (rig : Rig) : Comes line rig ((dispatch line).exec rig) := by
  unfold dispatch
  split
  · rw [exec_bind, exec_check]
    cases haction : Vocabulary.gpioActions.resolve line.command[1]? with
    | error fault => exact .refused fault
    | ok action =>
      have ha : Asks line action := Line.word?_of_resolve
        (p := fun word action => word ∈ actionWords action) haction (by decide)
      dsimp only
      rw [exec_bind, exec_check]
      cases hpin : pinAt line 2 with
      | error fault => exact .refused fault
      | ok pin => exact comes_act ha (pinAt_eq_ok_iff.1 hpin)
  · exact .refused _

end Gpio

namespace PinTable

/-- No code has been latched, and the voltages are as they were. -/
structure Undisturbed (t t' : PinTable) : Prop where
  latched : ∀ channel, t'.board.latched channel = t.board.latched channel
  analog : ∀ pin, (t'.board.pad pin).analog = (t.board.pad pin).analog

variable {t t' t'' : PinTable} {pin q : Pin}

lemma Undisturbed.refl (t : PinTable) : t.Undisturbed t :=
  ⟨fun _ => rfl, fun _ => rfl⟩

lemma Undisturbed.trans (h : t.Undisturbed t') (h' : t'.Undisturbed t'') : t.Undisturbed t'' :=
  ⟨fun channel => (h'.latched channel).trans (h.latched channel),
    fun pin => (h'.analog pin).trans (h.analog pin)⟩

lemma undisturbed_put (t : PinTable) (pin : Pin) (row : Row) : t.Undisturbed (t.put pin row) := by
  refine ⟨latched_put t pin row, fun q => ?_⟩
  rw [pad_put]
  split
  · exact Pad.analog_apply _ _
  · rfl

lemma undisturbed_updatePad (t : PinTable) (pin : Pin) {f : Pad → Pad}
    (hf : ∀ pad, (f pad).analog = pad.analog) :
    t.Undisturbed { t with board := t.board.updatePad pin f } := by
  refine ⟨Board.latched_updatePad t.board pin f, fun q => ?_⟩
  by_cases hq : pin = q
  · subst hq
    rw [Board.pad_updatePad_self, hf]
  · rw [Board.pad_updatePad_of_ne _ _ hq]

lemma undisturbed_write (t : PinTable) (pin : Pin) (high : Bool) :
    t.Undisturbed (t.write pin high) := by
  apply undisturbed_updatePad
  intro pad
  unfold Pad.write
  split <;> rfl

end PinTable

namespace Gpio

variable {line : Line} {pin p q : Pin} {t t' : PinTable} {rig : Rig} {action : GpioAction}
  {row : Row} {high : Bool}

lemma agreeAt_driven (t : PinTable) (row : Row) (high : Bool) (h : pin ≠ q) :
    t.AgreeAt (driven t pin row high) q :=
  (PinTable.agreeAt_put t _ h).trans (PinTable.agreeAt_write _ high h)

lemma undisturbed_driven (t : PinTable) (pin : Pin) (row : Row) (high : Bool) :
    t.Undisturbed (driven t pin row high) :=
  (t.undisturbed_put pin _).trans (PinTable.undisturbed_write _ pin high)

namespace Does

lemma agreeAt (h : Does line pin t action t') (hne : pin ≠ q) : t.AgreeAt t' q := by
  cases h with
  | get => exact .refl t q
  | query => exact .refl t q
  | set => exact agreeAt_driven t _ true hne
  | clear => exact agreeAt_driven t _ false hne
  | configure => exact PinTable.agreeAt_put t _ hne
  | release => exact PinTable.agreeAt_put t _ hne

lemma undisturbed (h : Does line pin t action t') : t.Undisturbed t' := by
  cases h with
  | get => exact .refl t
  | query => exact .refl t
  | set => exact undisturbed_driven t pin _ true
  | clear => exact undisturbed_driven t pin _ false
  | configure => exact t.undisturbed_put pin _
  | release => exact t.undisturbed_put pin _

/-- Only a pin that is free, or GPIO's already, can be changed. -/
lemma owner (h : Does line pin t action t') (hne : t' ≠ t) :
    t.owner? pin = none ∨ t.owner? pin = some .gpio := by
  have hadmits : ∀ {row : Row}, t.row? pin = some row → row.admits .gpio = true →
      t.owner? pin = none ∨ t.owner? pin = some .gpio := by
    intro row hrow ha
    rw [PinTable.owner?_of_row hrow]
    exact (Row.admits_iff.1 ha).2
  cases h with
  | get => exact absurd rfl hne
  | query => exact absurd rfl hne
  | set hrow ha => exact hadmits hrow ha
  | clear hrow ha => exact hadmits hrow ha
  | configure _ _ hrow ha => exact hadmits hrow ha
  | release hrow ho =>
    rw [PinTable.owner?_of_row hrow]
    exact ho

lemma agreeAt_of_owner (h : Does line pin t action t') {s : Subsystem}
    (ho : t.owner? q = some s) (hs : s ≠ .gpio) : t.AgreeAt t' q := by
  by_cases hne : pin = q
  · subst hne
    by_cases hsame : t' = t
    · rw [hsame]
      exact .refl t pin
    · rcases h.owner hsame with hfree | hgpio
      · rw [hfree] at ho
        cases ho
      · rw [hgpio] at ho
        exact absurd (Option.some.inj ho).symm hs
  · exact h.agreeAt hne

end Does

lemma undisturbed_dispatch (line : Line) (rig : Rig) :
    rig.pins.Undisturbed ((dispatch line).exec rig).2.pins := by
  have hcomes := comes_dispatch line rig
  generalize (dispatch line).exec rig = out at hcomes ⊢
  cases hcomes with
  | refused => exact .refl rig.pins
  | done _ _ hd => exact hd.undisturbed

/-- The pin is an output of GPIO at the level, in the table and on the board. -/
structure Drives (pin : Pin) (high : Bool) (t : PinTable) : Prop where
  query : t.query pin = .ok (.output, some .gpio)
  mode : (t.board.pad pin).mode = .output
  level : (t.board.pad pin).level = high

lemma drives_driven (t : PinTable) (pin : Pin) (row : Row) (high : Bool) :
    Drives pin high (driven t pin row high) := by
  have hpad : (driven t pin row high).board.pad pin =
      { (t.board.pad pin).apply .output with level := high } := by
    rw [driven, PinTable.write, Board.write, Board.pad_updatePad_self, PinTable.pad_put_self]
    rfl
  refine ⟨PinTable.query_eq_ok_iff.2 ⟨_, PinTable.row?_put_self t pin _, rfl, rfl⟩, ?_, ?_⟩
  · rw [hpad]
    rfl
  · rw [hpad]

lemma Does.drives (h : Does line pin t (driveAction high) t') : Drives pin high t' := by
  cases high with
  | false =>
    cases h with
    | clear => exact drives_driven t pin _ false
  | true =>
    cases h with
    | set => exact drives_driven t pin _ true

lemma Does.configured (h : Does line pin t .configure t') :
    ∃ mode, denoted? line = some mode ∧ t'.query pin = .ok (mode, some .gpio) ∧
      (t'.board.pad pin).mode = mode ∧ (mode = .analog → t.capable pin .adc = .ok true) := by
  cases h with
  | @configure row mode hm hc =>
    refine ⟨mode, hm, ?_, ?_, hc⟩
    · exact PinTable.query_eq_ok_iff.2 ⟨_, PinTable.row?_put_self t pin _, rfl, rfl⟩
    · rw [PinTable.pad_put_self, Pad.mode_apply]

lemma Does.released (ho : t.Orderly) (h : Does line pin t .release t') :
    t'.row? pin = some (.ofProfile (.stock pin)) := by
  cases h with
  | release hrow =>
    rw [PinTable.row?_put_self, ← ho.profile_of_row hrow]
    rfl

/-- A get line about the pin answers its level. -/
lemma exec_dispatch_get (hw : rig.console.Working)
    (ha : line.asks ["gpio", "get", portWord pin.port, padWord pin.pad] = true) :
    (dispatch line).exec rig = (.ok (), rig.sent
      ("B:" ++ pin.name ++ ":" ++ if (rig.pins.board.pad pin).level then "1" else "0")) := by
  obtain ⟨hwords, hdata⟩ := Line.asks_iff.1 ha
  have hword : ∀ i, line.word? i =
      ["gpio", "get", portWord pin.port, padWord pin.pad][i]? := fun i => by
    rw [Line.word?, ← hwords, List.getElem?_map]
  have haction : Vocabulary.gpioActions.resolve line.command[1]? = .ok .get :=
    Line.resolve_of_word? (hword 1) (by decide)
  have hpin : pinAt line 2 = .ok pin := pinAt_eq_ok_iff.2 ⟨hword 2, hword 3⟩
  have hmore : line.expectNoMore 4 = .ok () := by
    rw [Line.expectNoMore_eq_ok_iff, ← List.length_map fold, hwords]
    rfl
  unfold dispatch
  rw [if_pos (List.isEmpty_iff.2 hdata), exec_bind, exec_check, haction]
  dsimp only
  rw [exec_bind, exec_check, hpin]
  dsimp only
  rw [act, exec_bind, exec_check, hmore]
  exact Rig.exec_line hw _

/-! ## Lines in a run -/

/-- What a gpio line may do to the instrument, and what it has done when it has succeeded. -/
structure Obeys (line : Line) (r : Registry) (rig : Rig)
    (out : Except Fault Unit × Registry × Rig) : Prop where
  one : ∀ p q, Addresses line p → Addresses line q → p = q
  rest : out.2.1 = r ∧ ∃ pins console, out.2.2 = { rig with pins, console } ∧
    rig.console.Carries console
  latched : ∀ channel, out.2.2.pins.board.latched channel = rig.pins.board.latched channel
  frame : ∀ q, ¬ Addresses line q → rig.pins.AgreeAt out.2.2.pins q
  foreign : ∀ q s, rig.pins.owner? q = some s → s ≠ .gpio → rig.pins.AgreeAt out.2.2.pins q
  look : Asks line .get ∨ Asks line .query → out.2.2.pins = rig.pins
  refused : ∀ fault, out.1 = .error fault → out.2.2 = rig
  drive : ∀ high, Asks line (driveAction high) → out.1 = .ok () →
    ∃ pin, Addresses line pin ∧ Drives pin high out.2.2.pins ∧
      ∀ get, get.asks ["gpio", "get", portWord pin.port, padWord pin.pad] = true →
        (Registry.dispatch get).exec out.2 =
          (.ok (), out.2.1, out.2.2.sent ("B:" ++ pin.name ++ ":" ++ if high then "1" else "0"))
  configure : Asks line .configure → out.1 = .ok () →
    ∃ pin mode, Addresses line pin ∧ denoted? line = some mode ∧
      out.2.2.pins.query pin = .ok (mode, some .gpio) ∧
      (out.2.2.pins.board.pad pin).mode = mode ∧
      (mode = .analog → rig.pins.capable pin .adc = .ok true)
  release : Asks line .release → out.1 = .ok () →
    ∃ pin, Addresses line pin ∧ out.2.2.pins.row? pin = some (.ofProfile (.stock pin))

lemma obeys_refused (line : Line) (r : Registry) (rig : Rig) (fault : Fault) :
    Obeys line r rig (.error fault, r, rig) where
  one _ _ hp hq := hp.unique hq
  rest := ⟨rfl, rig.pins, rig.console, rfl, .refl rig.console⟩
  latched _ := rfl
  frame q _ := .refl rig.pins q
  foreign q _ _ _ := .refl rig.pins q
  look _ := rfl
  refused _ _ := rfl
  drive _ _ := nofun
  configure _ := nofun
  release _ := nofun

lemma obeys_done {adc : Adc} {dac : Dac} {r : Registry} {pins : PinTable} {console : Console}
    (hb : r.Built adc dac) (ho : rig.pins.Orderly) (hw : rig.console.Working)
    (hcarried : rig.console.Carries console) (ha : Asks line action)
    (hp : Addresses line pin) (hd : Does line pin rig.pins action pins) :
    Obeys line r rig (.ok (), r, { rig with pins, console }) where
  one _ _ hp hq := hp.unique hq
  rest := ⟨rfl, pins, console, rfl, hcarried⟩
  latched := hd.undisturbed.latched
  frame q hq := hd.agreeAt fun hpin => hq (hpin ▸ hp)
  foreign _ _ := hd.agreeAt_of_owner
  look hlook := by
    rcases hlook with hlook | hlook
    · cases ha.unique hlook
      cases hd
      rfl
    · cases ha.unique hlook
      cases hd
      rfl
  refused _ := nofun
  drive high hdrive _ := by
    rw [ha.unique hdrive] at hd
    have hdrives := hd.drives
    refine ⟨pin, hp, hdrives, fun get hget => ?_⟩
    have hrig : ({ rig with pins, console } : Rig).console.Working := hcarried.working hw
    rw [Registry.exec_dispatch_gpio hb (Line.fold_headD_of_asks hget),
      exec_dispatch_get hrig hget, hdrives.level]
  configure hconfigure _ := by
    rw [ha.unique hconfigure] at hd
    obtain ⟨mode, hm, hquery, hmode, hcapable⟩ := hd.configured
    exact ⟨pin, mode, hp, hm, hquery, hmode, hcapable⟩
  release hrelease _ := by
    rw [ha.unique hrelease] at hd
    exact ⟨pin, hp, hd.released ho⟩

lemma obeys_of_comes {adc : Adc} {dac : Dac} {r : Registry} {out : Except Fault Unit × Rig}
    (hb : r.Built adc dac) (ho : rig.pins.Orderly) (hw : rig.console.Working)
    (h : Comes line rig out) : Obeys line r rig (out.1, r, out.2) := by
  cases h with
  | refused fault => exact obeys_refused line r rig fault
  | done ha hp hd hcarried hok =>
    rw [hok hw]
    exact obeys_done hb ho hw hcarried ha hp hd

end Gpio

namespace Station

variable {config : Config} {s : Station} {line : Line}

/-- At every point of a run over a working connection a gpio line, of whatever words and data, does
what it says with the pin that it addresses, and nothing else. -/
theorem gpio_obeys_of_run {console : Console} (hw : console.Working)
    (hnew : new config console = .ok s) (script : List Stimulus)
    (hword : fold (line.command.headD "") = "gpio") :
    Gpio.Obeys line (s.run script).registry (s.run script).rig
      ((Registry.dispatch line).exec ((s.run script).registry, (s.run script).rig)) := by
  obtain ⟨inputs, -, hnew'⟩ := inSetting_new hw hnew
  have hrun := run_invariant inSetting_undergo hnew' script
  have hi := (stands_run hnew script).index
  obtain ⟨adc, dac, hc, hold⟩ := hrun.holds
  rw [Registry.exec_dispatch_gpio ⟨hi, hc⟩ hword]
  exact Gpio.obeys_of_comes ⟨hi, hc⟩ hold.orderly hrun.working (Gpio.comes_dispatch line _)

/-- The DAC is started, and a pin apart from its pads is set. -/
theorem gpio_obeys_of_set : ∃ s, new {} .fresh = .ok s ∧
    let t := s.run [.handle "dac:start"]
    let line : Line := ⟨["GPIO", "set", "PortC", "pin13"], []⟩
    let out := (Registry.dispatch line).exec (t.registry, t.rig)
    out.1 = .ok () ∧ Gpio.Obeys line t.registry t.rig out := by
  have hset : (new {} .fresh).toOption.any (fun s =>
      ((Registry.dispatch ⟨["GPIO", "set", "PortC", "pin13"], []⟩).exec
        ((s.run [.handle "dac:start"]).registry, (s.run [.handle "dac:start"]).rig)).1.isOk) =
      true := by
    decide +kernel
  obtain ⟨s, hnew, hok⟩ := exists_new_of_any hset
  refine ⟨s, hnew, ?_⟩
  intro t line out
  obtain ⟨_, hanswer⟩ := exists_of_isOk hok
  exact ⟨hanswer, gpio_obeys_of_run ⟨rfl, fun _ => rfl⟩ hnew [.handle "dac:start"] (by decide)⟩

end Station

end Instrument
