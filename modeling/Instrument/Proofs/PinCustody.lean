import Instrument.PinTable
import Mathlib.Data.List.Induction
import Mathlib.Tactic.Lemma

/-!
# Custody of the pins

A pin table and the board under it take requests in any order: claims and releases on the side of
the table, writes, stimuli and DAC codes on the side of the board. Whatever is asked, the rows keep
what the board fixed about them, an owner is one that the pin admits or its default one, and the
board follows the table's modes.
-/

namespace Instrument

namespace Row

/-- What the board fixes about the row's pin. -/
def profile (row : Row) (pin : Pin) : PinProfile :=
  ⟨pin, row.capability, row.defaultMode, row.defaultOwner⟩

/-- A default owner never gives its pin up. That is why an owner outside the capability is a
default one: a claim of anybody else finds the pin taken. -/
structure Sound (row : Row) : Prop where
  keeps_default : ∀ s, row.defaultOwner = some s → row.owner = some s
  capable : row.defaultOwner = none → ∀ s, row.owner = some s → row.capability.contains s = true
  at_rest : row.owner = none → row.mode = row.defaultMode

lemma sound_ofProfile (p : PinProfile) : (ofProfile p).Sound where
  keeps_default _ hs := hs
  capable hd s hs := by
    have h : (none : Option Subsystem) = some s := hd.symm.trans hs
    cases h
  at_rest _ := rfl

lemma sound_restore (row : Row) : row.restore.Sound :=
  sound_ofProfile (row.profile ⟨.a, 0⟩)

lemma admits_iff {row : Row} {s : Subsystem} : row.admits s = true ↔
    row.capability.contains s = true ∧ (row.owner = none ∨ row.owner = some s) := by
  simp [admits]

lemma Sound.claim {row : Row} {s : Subsystem} (h : row.Sound) (ha : row.admits s = true)
    (mode : PadMode) : ({ row with mode, owner := some s } : Row).Sound where
  keeps_default d hd := by
    have hd' : row.owner = some d := h.keeps_default d hd
    rcases (admits_iff.1 ha).2 with ho | ho
    · rw [ho] at hd'
      cases hd'
    · exact ho.symm.trans hd'
  capable _ s' hs' := by
    cases hs'
    exact (admits_iff.1 ha).1
  at_rest hn := by cases hn

@[simp] lemma profile_restore (row : Row) (pin : Pin) : row.restore.profile pin = row.profile pin :=
  rfl

@[simp] lemma profile_claim (row : Row) (pin : Pin) (mode : PadMode) (owner : Option Subsystem) :
    ({ row with mode, owner } : Row).profile pin = row.profile pin :=
  rfl

end Row

namespace PinTable

/-- Every row is sound, and the board holds each known pad in the mode of its row. -/
structure Sound (t : PinTable) : Prop where
  rows : ∀ pin row, t.row? pin = some row → row.Sound
  pads : ∀ pin row, t.row? pin = some row → (t.board.pad pin).mode = row.mode

/-- What the board fixes about a pin, as the table has it. -/
def profile? (t : PinTable) (pin : Pin) : Option PinProfile :=
  (t.row? pin).map (·.profile pin)

/-- What can be asked of a table and of the board under it. -/
inductive Request where
  | claim (pin : Pin) (mode : PadMode) (s : Subsystem)
  | release (pin : Pin)
  | resetAll
  | write (pin : Pin) (high : Bool)
  | setLevel (pin : Pin) (high : Bool)
  | setAnalog (pin : Pin) (code : UInt16)
  | latch (channel : DacChannel) (code : UInt16)

/-- Changes the board alone. -/
def onBoard (f : Board → Board) (t : PinTable) : PinTable :=
  { t with board := f t.board }

/-- Carries a request out. -/
def perform : Request → Act PinTable Unit
  | .claim pin mode s => .update (·.claim pin mode s)
  | .release pin => .update (·.release pin)
  | .resetAll => modify resetAll
  | .write pin high => modify (·.write pin high)
  | .setLevel pin high => modify (onBoard (·.setLevel pin high))
  | .setAnalog pin code => modify (onBoard (·.setAnalog pin code))
  | .latch channel code => .update fun t =>
      (t.board.latch channel code).map fun board => { t with board }

/-- Carries requests out in turn, whatever each is answered. -/
def performAll (requests : List Request) (t : PinTable) : PinTable :=
  requests.foldl (fun t r => ((perform r).exec t).2) t

lemma row_eq_ok_iff {t : PinTable} {pin : Pin} {row : Row} :
    t.row pin = .ok row ↔ t.row? pin = some row := by
  unfold PinTable.row
  cases t.row? pin <;> simp

lemma query_eq_ok_iff {t : PinTable} {pin : Pin} {mode : PadMode} {owner : Option Subsystem} :
    t.query pin = .ok (mode, owner) ↔
      ∃ row, t.row? pin = some row ∧ row.mode = mode ∧ row.owner = owner := by
  unfold query PinTable.row
  cases t.row? pin <;> simp [Except.map]

lemma capable_of_row {t : PinTable} {pin : Pin} {row : Row} (h : t.row? pin = some row)
    (s : Subsystem) : t.capable pin s = .ok (row.capability.contains s) := by
  rw [capable, row_eq_ok_iff.2 h]
  rfl

lemma claim_eq_ok_iff {t t' : PinTable} {pin : Pin} {mode : PadMode} {s : Subsystem} :
    t.claim pin mode s = .ok t' ↔ ∃ row, t.row? pin = some row ∧ row.admits s = true ∧
      t' = t.put pin { row with mode, owner := some s } := by
  unfold claim PinTable.row
  cases t.row? pin with
  | none => simp
  | some row =>
    simp only [Option.some.injEq, exists_eq_left']
    by_cases ha : row.admits s = true
    · rw [if_pos ha, Except.ok.injEq]
      exact ⟨fun h => ⟨ha, h.symm⟩, fun h => h.2.symm⟩
    · rw [if_neg ha]
      exact ⟨nofun, fun h => absurd h.1 ha⟩

lemma release_eq_ok_iff {t t' : PinTable} {pin : Pin} :
    t.release pin = .ok t' ↔ ∃ row, t.row? pin = some row ∧ t' = t.put pin row.restore := by
  unfold release PinTable.row
  cases t.row? pin <;> simp [eq_comm]

/-- One change of a table: a row is claimed or restored, all rows are, or the board is changed
without touching the mode of a pad. -/
inductive Step (t : PinTable) : PinTable → Prop
  | idle : Step t t
  | claim {pin : Pin} {row : Row} {s : Subsystem} (mode : PadMode)
      (hrow : t.row? pin = some row) (ha : row.admits s = true) :
      Step t (t.put pin { row with mode, owner := some s })
  | restore {pin : Pin} {row : Row} (hrow : t.row? pin = some row) : Step t (t.put pin row.restore)
  | resetAll : Step t t.resetAll
  | onBoard (board : Board) (hmode : ∀ pin, (board.pad pin).mode = (t.board.pad pin).mode) :
      Step t { t with board }

lemma step_claim {t t' : PinTable} {pin : Pin} {mode : PadMode} {s : Subsystem}
    (h : t.claim pin mode s = .ok t') : t.Step t' := by
  obtain ⟨row, hrow, ha, rfl⟩ := claim_eq_ok_iff.1 h
  exact .claim mode hrow ha

lemma step_release {t t' : PinTable} {pin : Pin} (h : t.release pin = .ok t') : t.Step t' := by
  obtain ⟨row, hrow, rfl⟩ := release_eq_ok_iff.1 h
  exact .restore hrow

lemma step_updatePad (t : PinTable) (pin : Pin) (f : Pad → Pad)
    (hf : ∀ pad, (f pad).mode = pad.mode) : t.Step { t with board := t.board.updatePad pin f } := by
  refine .onBoard _ fun q => ?_
  by_cases hq : pin = q
  · subst hq
    rw [Board.pad_updatePad_self, hf]
  · rw [Board.pad_updatePad_of_ne _ _ hq]

lemma step_write (t : PinTable) (pin : Pin) (high : Bool) : t.Step (t.write pin high) := by
  refine step_updatePad t pin _ fun pad => ?_
  unfold Pad.write
  split <;> rfl

lemma step_latch {t : PinTable} {board : Board} {channel : DacChannel} {code : UInt16}
    (h : t.board.latch channel code = .ok board) : t.Step { t with board } := by
  unfold Board.latch at h
  split at h
  · cases h
  · cases h
    refine .onBoard _ fun q => ?_
    by_cases hq : channel.pin = q
    · subst hq
      rw [Board.setAnalog, Board.pad_updatePad_self, Board.pad_setLatch]
    · rw [Board.setAnalog, Board.pad_updatePad_of_ne _ _ hq, Board.pad_setLatch]

lemma step_update {f : PinTable → Except Fault PinTable} {t : PinTable}
    (hf : ∀ t', f t = .ok t' → t.Step t') : t.Step ((Act.update f).exec t).2 := by
  rw [Act.exec_update]
  cases h : f t with
  | ok t' => exact hf t' h
  | error fault => exact .idle

lemma step_perform (r : Request) (t : PinTable) : t.Step ((perform r).exec t).2 := by
  cases r with
  | claim pin mode s => exact step_update fun _ h => step_claim h
  | release pin => exact step_update fun _ h => step_release h
  | resetAll => exact .resetAll
  | write pin high => exact step_write t pin high
  | setLevel pin high => exact step_updatePad t pin _ fun _ => rfl
  | setAnalog pin code => exact step_updatePad t pin _ fun _ => rfl
  | latch channel code =>
    refine step_update fun t' h => ?_
    cases hl : t.board.latch channel code with
    | ok board =>
      rw [hl] at h
      cases h
      exact step_latch hl
    | error fault =>
      rw [hl] at h
      cases h

lemma row?_resetAll (t : PinTable) (pin : Pin) :
    t.resetAll.row? pin = (t.row? pin).map Row.restore := by
  simp [resetAll, row?]

lemma pad_resetAll (t : PinTable) (pin : Pin) :
    t.resetAll.board.pad pin = restorePad (t.row? pin) (t.board.pad pin) := by
  simp [resetAll, row?, Board.pad]

@[simp] lemma pad_put_self (t : PinTable) (pin : Pin) (row : Row) :
    (t.put pin row).board.pad pin = (t.board.pad pin).apply row.mode := by
  simp [put, Board.applyMode]

lemma pad_put_of_ne {p q : Pin} (t : PinTable) (row : Row) (h : p ≠ q) :
    (t.put p row).board.pad q = t.board.pad q := by
  simp [put, Board.applyMode, Board.pad_updatePad_of_ne _ _ h]

@[simp] lemma latched_put (t : PinTable) (pin : Pin) (row : Row) (channel : DacChannel) :
    (t.put pin row).board.latched channel = t.board.latched channel := by
  simp [put, Board.applyMode]

lemma Sound.put {t : PinTable} (h : t.Sound) (pin : Pin) {row : Row} (hrow : row.Sound) :
    (t.put pin row).Sound where
  rows q row' hq := by
    by_cases hp : pin = q
    · subst hp
      rw [row?_put_self] at hq
      cases hq
      exact hrow
    · rw [row?_put_of_ne _ _ hp] at hq
      exact h.rows q row' hq
  pads q row' hq := by
    by_cases hp : pin = q
    · subst hp
      rw [row?_put_self] at hq
      cases hq
      rw [pad_put_self, Pad.mode_apply]
    · rw [row?_put_of_ne _ _ hp] at hq
      rw [pad_put_of_ne _ _ hp]
      exact h.pads q row' hq

lemma sound_resetAll (t : PinTable) : t.resetAll.Sound where
  rows pin row hrow := by
    rw [row?_resetAll] at hrow
    obtain ⟨before, -, rfl⟩ := Option.map_eq_some_iff.1 hrow
    exact before.sound_restore
  pads pin row hrow := by
    rw [row?_resetAll] at hrow
    obtain ⟨before, hbefore, rfl⟩ := Option.map_eq_some_iff.1 hrow
    rw [pad_resetAll, hbefore]
    exact Pad.mode_apply _ _

lemma Sound.step {t t' : PinTable} (h : t.Sound) (hs : t.Step t') : t'.Sound := by
  cases hs with
  | idle => exact h
  | claim mode hrow ha => exact h.put _ ((h.rows _ _ hrow).claim ha mode)
  | restore hrow => exact h.put _ (Row.sound_restore _)
  | resetAll => exact t.sound_resetAll
  | onBoard board hmode =>
    exact ⟨h.rows, fun pin row hrow => (hmode pin).trans (h.pads pin row hrow)⟩

lemma profile?_put {t : PinTable} {pin : Pin} {row row' : Row} (hrow : t.row? pin = some row)
    (hp : row'.profile pin = row.profile pin) (q : Pin) :
    (t.put pin row').profile? q = t.profile? q := by
  unfold profile?
  by_cases hq : pin = q
  · subst hq
    rw [row?_put_self, hrow, Option.map_some, Option.map_some, hp]
  · rw [row?_put_of_ne _ _ hq]

lemma profile?_step {t t' : PinTable} (hs : t.Step t') (pin : Pin) :
    t'.profile? pin = t.profile? pin := by
  cases hs with
  | idle => rfl
  | claim mode hrow ha => exact profile?_put hrow (Row.profile_claim _ _ _ _) pin
  | restore hrow => exact profile?_put hrow (Row.profile_restore _ _) pin
  | resetAll =>
    unfold profile?
    rw [row?_resetAll, Option.map_map]
    rfl
  | onBoard board hmode => rfl

lemma row?_new (profiles : List PinProfile) (board : Board) (pin : Pin) :
    (new profiles board).row? pin =
      (profiles.reverse.find? fun p => p.pin = pin).map Row.ofProfile := by
  show (rowsOf profiles).get pin = _
  induction profiles using List.reverseRecOn with
  | nil => simp [rowsOf]
  | append_singleton profiles p ih =>
    have hlast : rowsOf (profiles ++ [p]) = (rowsOf profiles).set p.pin (some (.ofProfile p)) := by
      simp [rowsOf, List.foldl_append]
    rw [hlast, PinMap.get_set, ih]
    by_cases hp : p.pin = pin <;> simp [hp]

lemma profile?_new (profiles : List PinProfile) (board : Board) (pin : Pin) :
    (new profiles board).profile? pin = profiles.reverse.find? fun p => p.pin = pin := by
  rw [profile?, row?_new]
  cases hf : profiles.reverse.find? fun p => p.pin = pin with
  | none => rfl
  | some p =>
    have hpin : p.pin = pin := by simpa using List.find?_some hf
    subst hpin
    rfl

lemma sound_new (profiles : List PinProfile) (board : Board) : (new profiles board).Sound where
  rows pin row hrow := by
    rw [row?_new] at hrow
    obtain ⟨p, -, rfl⟩ := Option.map_eq_some_iff.1 hrow
    exact Row.sound_ofProfile p
  pads pin row hrow := by
    have hmode : row.mode = row.defaultMode := by
      rw [row?_new] at hrow
      obtain ⟨p, -, rfl⟩ := Option.map_eq_some_iff.1 hrow
      rfl
    have hpad : (new profiles board).board.pad pin =
        restorePad ((new profiles board).row? pin) (board.pad pin) := PinMap.get_zipWith _ _ _ _
    rw [hpad, hrow, hmode]
    exact Pad.mode_apply _ _

/-! ## Runs -/

lemma performAll_invariant (requests : List Request) {t : PinTable} (h : t.Sound) :
    (performAll requests t).Sound ∧
      ∀ pin, (performAll requests t).profile? pin = t.profile? pin := by
  induction requests generalizing t with
  | nil => exact ⟨h, fun _ => rfl⟩
  | cons r requests ih =>
    have hs : t.Step ((perform r).exec t).2 := step_perform r t
    obtain ⟨hsound, hprofile⟩ := ih (h.step hs)
    exact ⟨hsound, fun pin => (hprofile pin).trans (profile?_step hs pin)⟩

lemma perform_claim_ok_iff {t : PinTable} {pin : Pin} {mode : PadMode} {s : Subsystem} :
    ((perform (.claim pin mode s)).exec t).1 = .ok () ↔
      ∃ row, t.row? pin = some row ∧ row.admits s = true := by
  rw [perform, Act.exec_update]
  cases hc : t.claim pin mode s with
  | ok t' =>
    obtain ⟨row, hrow, ha, -⟩ := claim_eq_ok_iff.1 hc
    exact ⟨fun _ => ⟨row, hrow, ha⟩, fun _ => rfl⟩
  | error fault =>
    refine ⟨nofun, fun ⟨row, hrow, ha⟩ => ?_⟩
    rw [claim_eq_ok_iff.2 ⟨row, hrow, ha, rfl⟩] at hc
    cases hc

lemma perform_claim_of_admits {t : PinTable} {pin : Pin} {row : Row} {s : Subsystem}
    (hrow : t.row? pin = some row) (ha : row.admits s = true) (mode : PadMode) :
    (perform (.claim pin mode s)).exec t =
      (.ok (), t.put pin { row with mode, owner := some s }) := by
  rw [perform, Act.exec_update, claim_eq_ok_iff.2 ⟨row, hrow, ha, rfl⟩]

lemma perform_claim_of_ne_ok {t : PinTable} {pin : Pin} {mode : PadMode} {s : Subsystem}
    (h : ((perform (.claim pin mode s)).exec t).1 ≠ .ok ()) :
    ((perform (.claim pin mode s)).exec t).2 = t := by
  rw [perform, Act.exec_update] at h ⊢
  cases hc : t.claim pin mode s with
  | ok t' => simp [hc] at h
  | error fault => rfl

/-- A table over any profiles and any board keeps faith through every run of requests: each pin
has what the last of its profiles fixed, a default owner keeps its pin, another owner is one that
the pin is wired for, an unowned pin rests in its default mode, and the board has every pad in the
mode of its row. A claim is granted exactly to a wired subsystem that finds the pin free or its
own; a granted claim touches its one pin, and a refused one nothing. -/
theorem custody_of_requests (profiles : List PinProfile) (board : Board)
    (requests : List Request) :
    let t := performAll requests (new profiles board)
    (∀ pin, t.profile? pin = profiles.reverse.find? fun p => p.pin = pin) ∧
    (∀ pin row, t.row? pin = some row →
      (∀ s, row.defaultOwner = some s → row.owner = some s) ∧
      (row.defaultOwner = none →
        row.owner = none ∨ ∃ s, row.owner = some s ∧ row.capability.contains s = true) ∧
      (row.owner = none → row.mode = row.defaultMode) ∧
      (t.board.pad pin).mode = row.mode) ∧
    ∀ pin mode s,
      let after := (perform (.claim pin mode s)).exec t
      (after.1 = .ok () ↔ ∃ row, t.row? pin = some row ∧ row.capability.contains s = true ∧
        (row.owner = none ∨ row.owner = some s)) ∧
      (after.1 = .ok () →
        after.2.row? pin = (t.row? pin).map ({ · with mode, owner := some s }) ∧
        after.2.board.pad pin = (t.board.pad pin).apply mode ∧
        (∀ q, q ≠ pin → after.2.row? q = t.row? q ∧ after.2.board.pad q = t.board.pad q) ∧
        ∀ channel, after.2.board.latched channel = t.board.latched channel) ∧
      (after.1 ≠ .ok () → after.2 = t) := by
  intro t
  obtain ⟨hsound, hprofile⟩ := performAll_invariant requests (sound_new profiles board)
  refine ⟨fun pin => (hprofile pin).trans (profile?_new profiles board pin), ?_, ?_⟩
  · intro pin row hrow
    have hr : row.Sound := hsound.rows pin row hrow
    refine ⟨hr.keeps_default, fun hd => ?_, hr.at_rest, hsound.pads pin row hrow⟩
    cases ho : row.owner with
    | none => exact .inl rfl
    | some s => exact .inr ⟨s, rfl, hr.capable hd s ho⟩
  · intro pin mode s
    refine ⟨?_, fun hok => ?_, perform_claim_of_ne_ok⟩
    · simp only [perform_claim_ok_iff, Row.admits_iff]
    · obtain ⟨row, hrow, ha⟩ := perform_claim_ok_iff.1 hok
      simp only [perform_claim_of_admits hrow ha mode]
      refine ⟨by rw [row?_put_self, hrow, Option.map_some], pad_put_self _ _ _, ?_,
        latched_put _ _ _⟩
      exact fun q hq => ⟨row?_put_of_ne _ _ hq.symm, pad_put_of_ne _ _ hq.symm⟩

end PinTable

end Instrument
