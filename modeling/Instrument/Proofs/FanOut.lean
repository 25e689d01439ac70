import Instrument.Proofs.PoolContents
import Instrument.Proofs.SinkQueues

/-!
# What a conversion leaves behind

A completed conversion is stored in the slot that was free, and every sink that has room gets a
copy of its handle. Nothing else that can be read back changes.
-/

namespace Instrument.Source

variable {s : Source} {h k : Handle} {pool : Pool} {raw : List UInt16}

lemma content_offer (h : Handle) (pool : Pool) (sink : Mailbox Handle) (k : Handle) :
    (offer h pool sink).2.1.content k = pool.content k := by
  unfold offer
  rcases sink.post h with ⟨_ | _, sink'⟩
  · exact (Pool.content_release _ h k).trans (pool.content_retain h k)
  · exact pool.content_retain h k

lemma capacity_offer (h : Handle) (pool : Pool) (sink : Mailbox Handle) :
    (offer h pool sink).2.1.capacity = pool.capacity := by
  unfold offer
  rcases sink.post h with ⟨_ | _, sink'⟩
  · exact (Pool.capacity_release _ h).trans (pool.capacity_retain h)
  · exact pool.capacity_retain h

lemma samplesPerSet_offer (h : Handle) (pool : Pool) (sink : Mailbox Handle) :
    (offer h pool sink).2.1.samplesPerSet = pool.samplesPerSet := by
  unfold offer
  rcases sink.post h with ⟨_ | _, sink'⟩
  · exact Pool.samplesPerSet_release _ h
  · rfl

lemma fanOut_cons (h : Handle) (pool : Pool) (sink : Mailbox Handle)
    (rest : List (Mailbox Handle)) :
    fanOut h pool (sink :: rest) =
      ((sink.post h).1 :: (fanOut h (offer h pool sink).2.1 rest).1,
        (fanOut h (offer h pool sink).2.1 rest).2.1,
        (sink.post h).2 :: (fanOut h (offer h pool sink).2.1 rest).2.2) := by
  rw [fanOut]
  unfold offer
  rcases sink.post h with ⟨_ | _, sink'⟩ <;> rfl

/-- A pass over the sinks keeps of the pool whatever a single offer keeps. -/
lemma fanOut_keeps {β : Type} (f : Pool → β)
    (hf : ∀ pool sink, f (offer h pool sink).2.1 = f pool) (pool : Pool)
    (sinks : List (Mailbox Handle)) : f (fanOut h pool sinks).2.1 = f pool := by
  induction sinks generalizing pool with
  | nil => rfl
  | cons sink rest ih =>
    rw [fanOut_cons]
    exact (ih _).trans (hf pool sink)

/-- Every sink answers for itself. -/
lemma fanOut_sinks (h : Handle) (pool : Pool) (sinks : List (Mailbox Handle)) :
    (fanOut h pool sinks).1 = sinks.map (fun sink => (sink.post h).1) ∧
      (fanOut h pool sinks).2.2 = sinks.map fun sink => (sink.post h).2 := by
  induction sinks generalizing pool with
  | nil => exact ⟨rfl, rfl⟩
  | cons sink rest ih =>
    obtain ⟨hanswers, hsinks⟩ := ih (offer h pool sink).2.1
    rw [fanOut_cons, hanswers, hsinks]
    exact ⟨rfl, rfl⟩

lemma complete_of_alloc_none (ha : s.pool.alloc = (none, pool)) (raw : List UInt16) :
    s.complete raw = (none, { s with
      pool, conversions := s.conversions + 1, sequence := s.sequence + 1 }) := by
  simp only [complete, ha]

/-- What becomes of a conversion that is stored. -/
lemma exists_complete (ha : s.pool.alloc = (some h, pool)) (hlt : h.index.toNat < s.pool.capacity)
    (hper : s.pool.samplesPerSet ≤ Pool.maxSize) (raw : List UInt16) :
    ∃ reclaimed pool',
      s.complete raw = (some ⟨s.sequence, (s.sinks.map fun sink => (sink.post h).1).count true,
          (s.sinks.map fun sink => (sink.post h).1).count false, reclaimed⟩,
        { s with
          pool := pool', sinks := s.sinks.map fun sink => (sink.post h).2
          conversions := s.conversions + 1, sequence := s.sequence + 1 }) ∧
      pool'.capacity = s.pool.capacity ∧ pool'.samplesPerSet = s.pool.samplesPerSet ∧
      pool'.content h = (s.sequence, raw.take s.pool.samplesPerSet) ∧
      ∀ k, k ≠ h → pool'.content k = s.pool.content k := by
  have hpool : s.pool.alloc.2 = pool := by rw [ha]
  have hcapacity : pool.capacity = s.pool.capacity := hpool ▸ s.pool.capacity_alloc
  have hperSet : pool.samplesPerSet = s.pool.samplesPerSet := hpool ▸ s.pool.samplesPerSet_alloc
  let filled := (pool.fill h s.sequence raw).2
  let passed := (fanOut h filled s.sinks).2.1
  have hkept : ∀ k, ((Pool.release h).exec passed).2.content k = filled.content k := fun k =>
    (passed.content_release h k).trans
      (fanOut_keeps (·.content k) (fun pool sink => content_offer h pool sink k) filled s.sinks)
  refine ⟨(s.complete raw).1.any (·.reclaimed), ((Pool.release h).exec passed).2, ?_, ?_, ?_, ?_,
    fun k hk => ?_⟩
  · obtain ⟨hanswers, hsinks⟩ := fanOut_sinks h filled s.sinks
    rw [← hanswers, ← hsinks]
    simp only [complete, ha]
    rfl
  · rw [Pool.capacity_release]
    refine (fanOut_keeps (·.capacity) (fun pool sink => capacity_offer h pool sink) filled
      s.sinks).trans ?_
    exact (pool.capacity_fill h s.sequence raw).trans hcapacity
  · rw [Pool.samplesPerSet_release]
    refine (fanOut_keeps (·.samplesPerSet) (fun pool sink => samplesPerSet_offer h pool sink)
      filled s.sinks).trans ?_
    exact hperSet
  · rw [hkept, Pool.content_fill_self (hcapacity ▸ hlt) (hperSet ▸ hper), hperSet]
  · rw [hkept, Pool.content_fill_of_ne hk, ← hpool, Pool.content_alloc]

end Instrument.Source
