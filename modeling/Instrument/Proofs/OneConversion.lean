import Instrument.Converter
import Instrument.Proofs.PoolHistory
import Instrument.Proofs.SharedPool

/-!
# One conversion

The buffer of a conversion is filled in rounds over the input pins, so that a cell is known by its
number modulo the number of pins. Whether a reading beyond full scale was among them only decides if
a fault is counted first; the conversion completes in either case. All of this holds of a source
whose pool has been through anything at all.
-/

namespace Instrument

namespace Source

variable {s : Source} {buffer : List UInt16}

lemma reachable_offer {pool : Pool} (hp : pool.Reachable) (h : Handle) (sink : Mailbox Handle) :
    (offer h pool sink).2.1.Reachable := by
  unfold offer
  rcases sink.post h with ⟨_ | _, sink'⟩
  · exact (hp.perform (.retain h)).perform (.release h)
  · exact hp.perform (.retain h)

lemma reachable_fanOut {pool : Pool} (hp : pool.Reachable) (h : Handle)
    (sinks : List (Mailbox Handle)) : (fanOut h pool sinks).2.1.Reachable := by
  induction sinks generalizing pool with
  | nil => exact hp
  | cons sink rest ih =>
    rw [fanOut_cons]
    exact ih (reachable_offer hp h sink)

/-- A source only asks its pool for what anybody may ask for. -/
lemma reachable_complete (hs : s.pool.Reachable) (buffer : List UInt16) :
    (s.complete buffer).2.pool.Reachable := by
  have halloc : s.pool.alloc.2.Reachable := hs.perform .alloc
  rcases ha : s.pool.alloc with ⟨_ | h, pool⟩
  · rw [ha] at halloc
    rw [complete_of_alloc_none ha]
    exact halloc
  · rw [ha] at halloc
    simp only [complete, ha]
    have hfilled := halloc.perform (.fill h s.sequence buffer)
    exact (reachable_fanOut hfilled h s.sinks).perform (.release h)

/-- What one completed conversion makes of a source: it has the next number and is counted, and
without a free slot that is all. Otherwise a slot that was free keeps as much of the buffer as a set
takes, and every sink is offered its handle. -/
structure Completed (buffer : List UInt16) (s : Source) (d : Option Delivery) (s' : Source) :
    Prop where
  conversions : s'.conversions = s.conversions + 1
  sequence : s'.sequence = s.sequence + 1
  faults : s'.dmaErrors = s.dmaErrors ∧ s'.analogOverflow = s.analogOverflow
  dropped_iff : d = none ↔ s.pool.free.toList = []
  dropped : d = none → s'.sinks = s.sinks ∧ ∀ h, s'.pool.content h = s.pool.content h
  delivered : ∀ delivery, d = some delivery → ∃ h : Handle, delivery.sequence = s.sequence ∧
    s.pool.free.toList.head? = some h.index ∧ s'.pool.sequence h = s.sequence ∧
    s'.pool.samples h = buffer.take s.pool.samplesPerSet ∧
    (s'.pool.samples h).length = min buffer.length s.pool.samplesPerSet ∧
    (∀ k, k ≠ h → s'.pool.content k = s.pool.content k) ∧
    List.Forall₂ (Mailbox.Offered h) s.sinks s'.sinks

lemma completed_complete (hs : s.pool.Reachable) (buffer : List UInt16) :
    Completed buffer s (s.complete buffer).1 (s.complete buffer).2 := by
  rcases ha : s.pool.alloc with ⟨_ | h, pool⟩
  · have hcontent : ∀ k, pool.content k = s.pool.content k := fun k =>
      (congrArg (fun r => r.2.content k) ha).symm.trans (s.pool.content_alloc k)
    rw [complete_of_alloc_none ha]
    exact ⟨rfl, rfl, ⟨rfl, rfl⟩, iff_of_true rfl (Pool.alloc_eq_none ha).1,
      fun _ => ⟨rfl, hcontent⟩, nofun⟩
  · obtain ⟨free, hfree, -⟩ := Pool.alloc_eq_some ha
    have hlt := hs.usable.free_lt h (hfree ▸ List.mem_cons_self)
    obtain ⟨reclaimed, pool', hcomplete, -, -, hstored, hothers⟩ :=
      exists_complete ha hlt hs.usable.perSet_le buffer
    have hsamples : pool'.samples h = buffer.take s.pool.samplesPerSet := congrArg Prod.snd hstored
    rw [hcomplete]
    refine ⟨rfl, rfl, ⟨rfl, rfl⟩, iff_of_false nofun (hfree ▸ nofun), nofun, ?_⟩
    rintro delivery ⟨⟩
    refine ⟨h, rfl, congrArg List.head? hfree, congrArg Prod.fst hstored, hsamples, ?_, hothers, ?_⟩
    · rw [hsamples, List.length_take, Nat.min_comm]
    · exact List.forall₂_map_right_iff.2 (List.forall₂_same.2 fun sink _ => sink.offered_post h)

end Source

namespace Converter

variable {c : Converter} {reading : Pin → UInt16} {s : Source}

/-- The round goes on from any place in it, so the pin of a turn is known by its number modulo the
number of pins. The induction is over the turns still to come, and `j` is the next pin. -/
lemma map_some_round {all : List Pin} (hall : all ≠ []) (n : Nat) {j : Nat} (hj : j ≤ all.length) :
    (round all n (all.drop j)).map some =
      (List.range n).map fun k => all[(j + k) % all.length]? := by
  induction n generalizing j with
  | zero => rfl
  | succ n ih =>
    have hturns : (List.range (n + 1)).map (fun k => all[(j + k) % all.length]?) =
        all[j % all.length]? :: (List.range n).map fun k => all[(j + 1 + k) % all.length]? := by
      rw [List.range_succ_eq_map, List.map_cons, List.map_map]
      refine congrArg (List.cons _) (List.map_congr_left fun k _ => ?_)
      rw [Function.comp_apply, Nat.succ_eq_add_one, Nat.add_right_comm, Nat.add_assoc j k 1]
    rw [hturns]
    rcases Nat.lt_or_eq_of_le hj with hlt | hend
    · rw [List.drop_eq_getElem_cons hlt, round, List.map_cons, ih hlt, Nat.mod_eq_of_lt hlt,
        List.getElem?_eq_getElem hlt]
    · -- The round begins again: the next pin is the first one.
      obtain ⟨pin, rest, rfl⟩ := List.exists_cons_of_ne_nil hall
      have hrest : (round (pin :: rest) n rest).map some = _ :=
        ih (j := 1) (Nat.succ_le_of_lt (List.length_pos_of_ne_nil hall))
      rw [hend, List.drop_length, Nat.mod_self, round, List.map_cons, hrest,
        List.getElem?_cons_zero]
      refine congrArg (List.cons _) (List.map_congr_left fun k _ => ?_)
      rw [Nat.add_assoc, Nat.add_mod_left]

/-- The pins that a conversion reads, in order. -/
def sampled (c : Converter) : List Pin :=
  round c.inputs c.bufferSize c.inputs

lemma map_some_sampled (hinputs : c.inputs ≠ []) : c.sampled.map some =
    (List.range c.bufferSize).map fun k => c.inputs[k % c.inputs.length]? := by
  have h := map_some_round hinputs c.bufferSize (Nat.zero_le _)
  simp only [List.drop_zero, Nat.zero_add] at h
  exact h

lemma length_sampled (hinputs : c.inputs ≠ []) : c.sampled.length = c.bufferSize := by
  have h := congrArg List.length (map_some_sampled hinputs)
  simpa only [List.length_map, List.length_range] using h

lemma exists_turn (hinputs : c.inputs ≠ []) {k : Nat} (hk : k < c.bufferSize) :
    ∃ pin, c.inputs[k % c.inputs.length]? = some pin ∧ c.sampled[k]? = some pin := by
  have hlt : k < c.sampled.length := (length_sampled hinputs).symm ▸ hk
  have hget := List.getElem?_eq_getElem hlt
  have h := congrArg (·[k]?) (map_some_sampled hinputs)
  simp only [List.getElem?_map, List.getElem?_range hk, Option.map_some, hget] at h
  exact ⟨c.sampled[k], (Option.some_inj.1 h).symm, hget⟩

lemma mem_sampled_iff (hinputs : c.inputs ≠ []) {pin : Pin} : pin ∈ c.sampled ↔
    ∃ k < c.bufferSize, c.inputs[k % c.inputs.length]? = some pin := by
  rw [List.mem_iff_getElem?]
  constructor
  · rintro ⟨k, hk⟩
    have hlt : k < c.bufferSize := length_sampled hinputs ▸ (List.getElem?_eq_some_iff.1 hk).1
    obtain ⟨pin', hturn, hget⟩ := exists_turn hinputs hlt
    rw [hk] at hget
    exact ⟨k, hlt, hget ▸ hturn⟩
  · rintro ⟨k, hlt, hk⟩
    obtain ⟨pin', hturn, hget⟩ := exists_turn hinputs hlt
    rw [hk] at hturn
    exact ⟨k, hturn ▸ hget⟩

/-- A conversion of `n` samples reads none but the first `n` pins. -/
lemma mem_take_of_mem_sampled (hinputs : c.inputs ≠ []) {pin : Pin} (hpin : pin ∈ c.sampled) :
    pin ∈ c.inputs.take c.bufferSize := by
  obtain ⟨k, hlt, hk⟩ := (mem_sampled_iff hinputs).1 hpin
  refine List.mem_of_getElem? (i := k % c.inputs.length) ?_
  rw [List.getElem?_take_of_lt ((Nat.mod_le _ _).trans_lt hlt), hk]

lemma convert_eq (c : Converter) (reading : Pin → UInt16) (s : Source) : c.convert reading s =
    (if (c.sampled.map reading).any (fullScale < ·) then s.fault .analogOverflow else s).complete
      ((c.sampled.map reading).map (min · fullScale)) :=
  rfl

/-- One conversion of a source: what the buffer holds, what is flagged before it completes, and that
it completes. -/
structure Conversion (c : Converter) (reading : Pin → UInt16) (s : Source) (buffer : List UInt16)
    (flagged : Source) : Prop where
  length_eq : buffer.length = c.bufferSize
  cells : ∀ k < c.bufferSize, ∃ pin, c.inputs[k % c.inputs.length]? = some pin ∧
    buffer[k]? = some (min (reading pin) 4095)
  overrange : (∃ k < c.bufferSize, ∃ pin, c.inputs[k % c.inputs.length]? = some pin ∧
    4095 < reading pin) → flagged = { s with analogOverflow := s.analogOverflow + 1 }
  within : (∀ k < c.bufferSize, ∀ pin, c.inputs[k % c.inputs.length]? = some pin →
    reading pin ≤ 4095) → flagged = s
  convert_eq : c.convert reading s = flagged.complete buffer
  completed : Source.Completed buffer flagged (c.convert reading s).1 (c.convert reading s).2
  reachable : (c.convert reading s).2.pool.Reachable
  confined : ∀ reading', (∀ pin ∈ c.inputs.take c.bufferSize, reading' pin = reading pin) →
    c.convert reading' s = c.convert reading s

/-- Cell `k` of the buffer holds the reading of pin `k` modulo the number of pins, or full scale if
the reading is beyond it. One such reading or more among those that were taken, and no other, makes
one fault, and the conversion completes once, with or without it. -/
theorem conversion_of_reachable (hinputs : c.inputs ≠ []) (hs : s.pool.Reachable)
    (reading : Pin → UInt16) : ∃ buffer flagged, Conversion c reading s buffer flagged := by
  let raw := c.sampled.map reading
  let flagged := if raw.any (fullScale < ·) then s.fault .analogOverflow else s
  have hpool : flagged.pool.Reachable := by
    unfold flagged
    split <;> exact hs
  have hover : raw.any (fullScale < ·) = true ↔ ∃ k < c.bufferSize, ∃ pin,
      c.inputs[k % c.inputs.length]? = some pin ∧ 4095 < reading pin := by
    simp only [raw, List.any_map, List.any_eq_true, mem_sampled_iff hinputs, Function.comp_apply,
      decide_eq_true_eq]
    exact ⟨fun ⟨pin, ⟨k, hk, hpin⟩, h⟩ => ⟨k, hk, pin, hpin, h⟩,
      fun ⟨k, hk, pin, hpin, h⟩ => ⟨pin, ⟨k, hk, hpin⟩, h⟩⟩
  refine ⟨raw.map (min · fullScale), flagged, ?_⟩
  exact
    { length_eq := by rw [List.length_map, List.length_map, length_sampled hinputs]
      cells := fun k hk => by
        obtain ⟨pin, hturn, hget⟩ := exists_turn hinputs hk
        refine ⟨pin, hturn, ?_⟩
        rw [List.getElem?_map, List.getElem?_map, hget]
        rfl
      overrange := fun h => if_pos (hover.2 h)
      within := fun h => if_neg fun hany => by
        obtain ⟨k, hk, pin, hpin, hlt⟩ := hover.1 hany
        exact absurd hlt (UInt16.not_lt.2 (h k hk pin hpin))
      convert_eq := convert_eq c reading s
      completed := Source.completed_complete hpool _
      reachable := Source.reachable_complete hpool _
      confined := fun reading' hsame => by
        have hraw : c.sampled.map reading' = c.sampled.map reading :=
          List.map_congr_left fun pin hpin => hsame pin (mem_take_of_mem_sampled hinputs hpin)
        rw [convert_eq, convert_eq, hraw] }

/-- Two pins, one of them listed twice and beyond full scale, for five samples where a set takes
three. The one slot was given away and came back through a stale handle. -/
theorem conversion_of_repeated_pin : ∃ pool, Pool.new 1 3 = .ok pool ∧
    let c : Converter := .new [⟨.a, 3⟩, ⟨.a, 6⟩, ⟨.a, 3⟩] 5
    let reading : Pin → UInt16 := fun pin => if pin.index = 3 then 5000 else 291
    let s : Source := .new ((Pool.release ⟨0⟩).exec pool.alloc.2).2 [.new "adc" 1]
    c.inputs ≠ [] ∧ s.pool.Reachable ∧
      ∃ buffer flagged, Conversion c reading s buffer flagged := by
  have hpool : Pool.new 1 3 = .ok _ := rfl
  have hs := ((Pool.Reachable.of_new hpool).perform .alloc).perform (.release ⟨0⟩)
  exact ⟨_, hpool, by decide, hs, conversion_of_reachable (by decide) hs _⟩

end Converter

end Instrument
