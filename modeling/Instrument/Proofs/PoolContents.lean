import Instrument.Proofs.PoolAccounting

/-!
# What the slots hold

The contents of a slot are its conversion number and its samples. Counting holders does not touch
them, and a slot is filled without touching the others, as every slot has its own stretch of the
store.
-/

namespace Instrument.Pool

/-- What is read back through a handle. -/
def content (p : Pool) (h : Handle) : UInt16 × List UInt16 :=
  (p.sequence h, p.samples h)

variable {p p' : Pool} {h k : Handle}

@[simp] lemma samplesPerSet_alloc (p : Pool) : p.alloc.2.samplesPerSet = p.samplesPerSet := by
  unfold alloc
  split <;> rfl

@[simp] lemma samplesPerSet_release (p : Pool) (h : Handle) :
    ((release h).exec p).2.samplesPerSet = p.samplesPerSet := by
  simp only [release, Act.exec, reclaim]
  split
  · rfl
  · split
    · split <;> rfl
    · rfl

lemma content_eq (hper : p'.samplesPerSet = p.samplesPerSet) (hstore : p'.store = p.store)
    (hsequence : (p'.slot k).sequence = (p.slot k).sequence)
    (hlength : (p'.slot k).length = (p.slot k).length) : p'.content k = p.content k := by
  simp only [content, sequence, samples, start, hper, hstore, hsequence, hlength]

lemma content_setRefs (p : Pool) (h k : Handle) (refs : Slot → UInt32) :
    (p.updateSlot h fun slot => { slot with refs := refs slot }).content k = p.content k := by
  by_cases hk : h = k
  · subst hk
    by_cases hlt : h.index.toNat < p.capacity
    · have hslot := slot_updateSlot_self (fun slot => { slot with refs := refs slot }) hlt
      exact content_eq rfl rfl (by rw [hslot]) (by rw [hslot])
    · have hle : p.capacity ≤ h.index.toNat := not_lt.1 hlt
      have hslot : (p.updateSlot h fun slot => { slot with refs := refs slot }).slot h =
          p.slot h := by
        rw [slot_of_le hle, slot_of_le (by rwa [capacity_updateSlot])]
      exact content_eq rfl rfl (by rw [hslot]) (by rw [hslot])
  · have hslot := slot_updateSlot_of_ne (p := p) (fun slot => { slot with refs := refs slot }) hk
    exact content_eq rfl rfl (by rw [hslot]) (by rw [hslot])

lemma content_alloc (p : Pool) (k : Handle) : p.alloc.2.content k = p.content k := by
  unfold alloc
  split
  · rfl
  · exact p.content_setRefs _ k fun _ => 1

lemma content_retain (p : Pool) (h k : Handle) : (p.retain h).content k = p.content k :=
  p.content_setRefs h k fun slot => slot.refs + 1

lemma content_release (p : Pool) (h k : Handle) :
    ((release h).exec p).2.content k = p.content k := by
  have hleft := p.content_setRefs h k fun _ => p.refs h - 1
  simp only [release, Act.exec, reclaim]
  split
  · rfl
  · split
    · split
      · exact hleft
      · exact hleft
    · exact hleft

/-! ## Filling a slot -/

lemma slot_fill_self (hlt : h.index.toNat < p.capacity) (sequence : UInt16) (raw : List UInt16) :
    (p.fill h sequence raw).2.slot h =
      ⟨sequence, UInt16.ofNat (raw.take p.samplesPerSet).length, (p.slot h).refs⟩ := by
  let kept := raw.take p.samplesPerSet
  let stored : Pool := { p with store := p.store.write (p.start h) kept }
  exact slot_updateSlot_self (p := stored)
    (fun slot => { slot with sequence, length := UInt16.ofNat kept.length }) hlt

lemma slot_fill_of_ne (hk : k ≠ h) (sequence : UInt16) (raw : List UInt16) :
    (p.fill h sequence raw).2.slot k = p.slot k := by
  let kept := raw.take p.samplesPerSet
  let stored : Pool := { p with store := p.store.write (p.start h) kept }
  exact slot_updateSlot_of_ne (p := stored)
    (fun slot => { slot with sequence, length := UInt16.ofNat kept.length }) hk.symm

/-- A length up to the size of a set fits into the 16 bits that keep it. -/
lemma toNat_length_take (hper : p.samplesPerSet ≤ maxSize) (raw : List UInt16) :
    (UInt16.ofNat (raw.take p.samplesPerSet).length).toNat =
      (raw.take p.samplesPerSet).length := by
  have hle := List.length_take_le p.samplesPerSet raw
  unfold maxSize at hper
  rw [UInt16.toNat_ofNat']
  exact Nat.mod_eq_of_lt (by omega)

/-- Of two different slots one ends before the other begins. -/
lemma start_apart (p : Pool) (hk : k ≠ h) : p.start k + p.samplesPerSet ≤ p.start h ∨
    p.start h + p.samplesPerSet ≤ p.start k := by
  have hindex : k.index.toNat ≠ h.index.toNat := by
    intro he
    exact hk (Handle.index_injective (UInt16.toNat_inj.1 he))
  simp only [start, ← Nat.succ_mul]
  rcases Nat.lt_or_gt_of_ne hindex with hlt | hlt
  · exact .inl (Nat.mul_le_mul_right _ hlt)
  · exact .inr (Nat.mul_le_mul_right _ hlt)

/-- A set is read back as it was stored. -/
lemma content_fill_self (hlt : h.index.toNat < p.capacity) (hper : p.samplesPerSet ≤ maxSize)
    (sequence : UInt16) (raw : List UInt16) :
    (p.fill h sequence raw).2.content h = (sequence, raw.take p.samplesPerSet) := by
  have hslot := slot_fill_self hlt sequence raw
  have hle := List.length_take_le p.samplesPerSet raw
  have hsamples : (p.fill h sequence raw).2.samples h =
      (p.store.write (p.start h) (raw.take p.samplesPerSet)).read (p.start h)
        (min ((p.fill h sequence raw).2.slot h).length.toNat p.samplesPerSet) := rfl
  apply Prod.ext
  · exact congrArg Slot.sequence hslot
  · change (p.fill h sequence raw).2.samples h = raw.take p.samplesPerSet
    rw [hsamples, hslot, toNat_length_take hper, min_eq_left hle, SampleStore.read_write]

lemma content_fill_of_ne (hk : k ≠ h) (sequence : UInt16) (raw : List UInt16) :
    (p.fill h sequence raw).2.content k = p.content k := by
  have hslot := slot_fill_of_ne (p := p) hk sequence raw
  have hle := List.length_take_le p.samplesPerSet raw
  have happart := p.start_apart hk
  have hsamples : (p.fill h sequence raw).2.samples k =
      (p.store.write (p.start h) (raw.take p.samplesPerSet)).read (p.start k)
        (min ((p.fill h sequence raw).2.slot k).length.toNat p.samplesPerSet) := rfl
  apply Prod.ext
  · exact congrArg Slot.sequence hslot
  · change (p.fill h sequence raw).2.samples k = p.samples k
    rw [hsamples, hslot, SampleStore.read_write_of_disjoint, samples]
    omega

end Instrument.Pool
