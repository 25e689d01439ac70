import Instrument.Proofs.PinCustody

/-!
# Pins are independent

A request is addressed to one pin or to all of them. How it is answered, and what it makes of a
pin, depends on nothing but the row and the pad of the pin that it is addressed to. Of a run of
requests those to other pins can therefore be left out, and nothing that is seen of the pin shows
it.
-/

namespace Instrument.PinTable

variable {t t' t'' : PinTable} {pin q : Pin}

/-- The tables agree on the pin: it has the same row, and its pad is the same. -/
structure AgreeAt (t t' : PinTable) (pin : Pin) : Prop where
  row? : t'.row? pin = t.row? pin
  pad : t'.board.pad pin = t.board.pad pin

lemma AgreeAt.refl (t : PinTable) (pin : Pin) : t.AgreeAt t pin :=
  ⟨rfl, rfl⟩

lemma AgreeAt.symm (h : t.AgreeAt t' pin) : t'.AgreeAt t pin :=
  ⟨h.row?.symm, h.pad.symm⟩

lemma AgreeAt.trans (h : t.AgreeAt t' pin) (h' : t'.AgreeAt t'' pin) : t.AgreeAt t'' pin :=
  ⟨h'.row?.trans h.row?, h'.pad.trans h.pad⟩

lemma agreeAt_put (t : PinTable) (row : Row) (h : pin ≠ q) : t.AgreeAt (t.put pin row) q :=
  ⟨row?_put_of_ne t row h, pad_put_of_ne t row h⟩

lemma agreeAt_updatePad (t : PinTable) (f : Pad → Pad) (h : pin ≠ q) :
    t.AgreeAt (onBoard (·.updatePad pin f) t) q :=
  ⟨rfl, Board.pad_updatePad_of_ne t.board f h⟩

lemma agreeAt_write (t : PinTable) (high : Bool) (h : pin ≠ q) : t.AgreeAt (t.write pin high) q :=
  agreeAt_updatePad t (·.write high) h

lemma agreeAt_setLatch (t : PinTable) (channel : DacChannel) (code : UInt16) (pin : Pin) :
    t.AgreeAt (onBoard (·.setLatch channel code) t) pin :=
  ⟨rfl, Board.pad_setLatch t.board channel code pin⟩

namespace AgreeAt

lemma row (h : t.AgreeAt t' pin) : t'.row pin = t.row pin := by
  rw [PinTable.row, PinTable.row, h.row?]

lemma put (h : t.AgreeAt t' pin) (row : Row) : (t.put pin row).AgreeAt (t'.put pin row) pin where
  row? := by rw [row?_put_self, row?_put_self]
  pad := by rw [pad_put_self, pad_put_self, h.pad]

lemma updatePad (h : t.AgreeAt t' pin) (f : Pad → Pad) :
    (onBoard (·.updatePad pin f) t).AgreeAt (onBoard (·.updatePad pin f) t') pin where
  row? := h.row?
  pad := by
    simp only [onBoard]
    rw [Board.pad_updatePad_self, Board.pad_updatePad_self, h.pad]

lemma resetAll (h : t.AgreeAt t' pin) : t.resetAll.AgreeAt t'.resetAll pin where
  row? := by rw [row?_resetAll, row?_resetAll, h.row?]
  pad := by rw [pad_resetAll, pad_resetAll, h.row?, h.pad]

end AgreeAt

/-- The pin that a request is addressed to; there is none when it is addressed to all. A code goes
to the pin of its channel. -/
def Request.pin? : Request → Option Pin
  | .claim pin _ _ => some pin
  | .release pin => some pin
  | .resetAll => none
  | .write pin _ => some pin
  | .setLevel pin _ => some pin
  | .setAnalog pin _ => some pin
  | .latch channel _ => some channel.pin

/-- The request is addressed to the pin, or to all pins. -/
def Request.concerns (pin : Pin) (r : Request) : Bool :=
  r.pin? == none || r.pin? == some pin

lemma Request.concerns_iff {r : Request} :
    r.concerns pin = true ↔ r.pin? = none ∨ r.pin? = some pin := by
  simp [concerns]

lemma Request.eq_of_concerns {r : Request} (hr : r.concerns pin = true) (hq : r.pin? = some q) :
    q = pin := by
  rw [concerns_iff, hq] at hr
  simpa using hr

/-- What latching a code does to a table. -/
def latchOn (channel : DacChannel) (code : UInt16) (t : PinTable) : PinTable :=
  onBoard (fun board => (board.setLatch channel code).setAnalog channel.pin code) t

lemma exec_latch (channel : DacChannel) (code : UInt16) (t : PinTable) :
    (perform (.latch channel code)).exec t =
      if fullScale < code then
        (.error (.argument ("dac value " ++ toString code.toNat ++ " exceeds " ++
          toString fullScale.toNat)), t)
      else (.ok (), latchOn channel code t) := by
  rw [perform, Act.exec_update, Board.latch]
  by_cases hc : fullScale < code
  · rw [if_pos hc, if_pos hc]
    rfl
  · rw [if_neg hc, if_neg hc]
    rfl

/-- A request that is addressed to another pin leaves this one alone. -/
lemma agreeAt_perform (t : PinTable) {r : Request} (hr : r.pin? = some q) (hq : q ≠ pin) :
    t.AgreeAt ((perform r).exec t).2 pin := by
  cases r with
  | claim p mode s =>
    cases hr
    rw [perform, Act.exec_update]
    cases hc : t.claim q mode s with
    | ok after =>
      obtain ⟨row, -, -, rfl⟩ := claim_eq_ok_iff.1 hc
      exact agreeAt_put t _ hq
    | error fault => exact .refl t pin
  | release p =>
    cases hr
    rw [perform, Act.exec_update]
    cases hc : t.release q with
    | ok after =>
      obtain ⟨row, -, rfl⟩ := release_eq_ok_iff.1 hc
      exact agreeAt_put t _ hq
    | error fault => exact .refl t pin
  | resetAll => cases hr
  | write p high =>
    cases hr
    exact agreeAt_write t high hq
  | setLevel p high =>
    cases hr
    exact agreeAt_updatePad t _ hq
  | setAnalog p code =>
    cases hr
    exact agreeAt_updatePad t _ hq
  | latch channel code =>
    cases hr
    rw [exec_latch]
    by_cases hc : fullScale < code
    · rw [if_pos hc]
      exact .refl t pin
    · rw [if_neg hc]
      exact (agreeAt_setLatch t channel code pin).trans (agreeAt_updatePad _ _ hq)

/-- Requests to two tables came to the same as far as one pin is concerned. -/
structure Alike (pin : Pin) (out out' : Except Fault Unit × PinTable) : Prop where
  answer : out'.1 = out.1
  state : out.2.AgreeAt out'.2 pin

/-- A request that is addressed to the pin, or to all, sees no more than the row and the pad. -/
lemma AgreeAt.perform (h : t.AgreeAt t' pin) {r : Request} (hr : r.concerns pin = true) :
    Alike pin ((perform r).exec t) ((perform r).exec t') := by
  cases r with
  | claim p mode s =>
    obtain rfl : p = pin := Request.eq_of_concerns hr rfl
    simp only [PinTable.perform, Act.exec_update, claim, h.row]
    cases t.row p with
    | error fault => exact ⟨rfl, h⟩
    | ok row =>
      by_cases ha : row.admits s = true
      · simp only [if_pos ha]
        exact ⟨rfl, h.put _⟩
      · simp only [if_neg ha]
        exact ⟨rfl, h⟩
  | release p =>
    obtain rfl : p = pin := Request.eq_of_concerns hr rfl
    simp only [PinTable.perform, Act.exec_update, release, h.row]
    cases t.row p with
    | error fault => exact ⟨rfl, h⟩
    | ok row => exact ⟨rfl, h.put _⟩
  | resetAll => exact ⟨rfl, h.resetAll⟩
  | write p high =>
    obtain rfl : p = pin := Request.eq_of_concerns hr rfl
    exact ⟨rfl, h.updatePad _⟩
  | setLevel p high =>
    obtain rfl : p = pin := Request.eq_of_concerns hr rfl
    exact ⟨rfl, h.updatePad _⟩
  | setAnalog p code =>
    obtain rfl : p = pin := Request.eq_of_concerns hr rfl
    exact ⟨rfl, h.updatePad _⟩
  | latch channel code =>
    obtain rfl : channel.pin = pin := Request.eq_of_concerns hr rfl
    rw [exec_latch, exec_latch]
    by_cases hc : fullScale < code
    · rw [if_pos hc, if_pos hc]
      exact ⟨rfl, h⟩
    · rw [if_neg hc, if_neg hc]
      have hlatch := (agreeAt_setLatch t channel code channel.pin).symm.trans
        (h.trans (agreeAt_setLatch t' channel code channel.pin))
      exact ⟨rfl, hlatch.updatePad _⟩

/-- Requests carried out in turn, each with the answer that it gets. -/
def answers : List Request → PinTable → List (Request × Except Fault Unit)
  | [], _ => []
  | r :: requests, t => (r, ((perform r).exec t).1) :: answers requests ((perform r).exec t).2

/-- Tables that agree on a pin stay so, although one of them gets no request to another pin. -/
lemma AgreeAt.performAll (h : t.AgreeAt t' pin) (requests : List Request) :
    (answers requests t).filter (·.1.concerns pin) =
        answers (requests.filter (·.concerns pin)) t' ∧
      (performAll requests t).AgreeAt (performAll (requests.filter (·.concerns pin)) t') pin := by
  induction requests generalizing t t' with
  | nil => exact ⟨rfl, h⟩
  | cons r requests ih =>
    by_cases hr : r.concerns pin = true
    · have hstep := h.perform hr
      have hrest := ih hstep.state
      simp only [answers, List.filter_cons, hr, if_true, hstep.answer]
      exact ⟨congrArg _ hrest.1, hrest.2⟩
    · have hframe : t.AgreeAt ((PinTable.perform r).exec t).2 pin := by
        rw [Request.concerns_iff] at hr
        cases hpin : r.pin? with
        | none => exact absurd (.inl hpin) hr
        | some q => exact agreeAt_perform t hpin fun hq => hr (.inr (hq ▸ hpin))
      simp only [answers, List.filter_cons, hr]
      exact ih (hframe.symm.trans h)

/-- Pins are independent. When of any requests to any table those to other pins are left out, the
requests to the pin, and those to all pins, get the answers that they got, and the pin ends with
the row and the pad that it ended with. -/
theorem independent_of_requests (t : PinTable) (requests : List Request) (pin : Pin) :
    let own := requests.filter (·.concerns pin)
    (answers requests t).filter (·.1.concerns pin) = answers own t ∧
    (performAll requests t).row? pin = (performAll own t).row? pin ∧
    (performAll requests t).board.pad pin = (performAll own t).board.pad pin := by
  intro own
  obtain ⟨hanswers, hagree⟩ := (AgreeAt.refl t pin).performAll requests
  exact ⟨hanswers, hagree.row?.symm, hagree.pad.symm⟩

end Instrument.PinTable
