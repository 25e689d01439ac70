import Instrument.Pool
import Mathlib.Algebra.Group.Nat.Defs
import Mathlib.Data.List.Perm.Lattice
import Mathlib.Data.List.Range
import Mathlib.Tactic.Lemma

/-!
# Accounts of the pool

`copies` says how many holders each slot has. The pool agrees with such an account when every slot
counts its holders, the free list holds the slots without holders once each, and what was taken
and given back adds up. Every operation changes the account of one slot.
-/

namespace Instrument

lemma Handle.index_injective : Function.Injective Handle.index := by
  rintro ⟨i⟩ ⟨j⟩ he
  exact congrArg Handle.mk he

namespace Pool

/-- The pool's own counts are the numbers of holders. -/
structure Accounts (p : Pool) (copies : Handle → Nat) : Prop where
  size_le : p.capacity ≤ maxSize
  refs : ∀ h, (p.refs h).toNat = copies h
  free_nodup : p.free.toList.Nodup
  mem_free : ∀ h, h.index ∈ p.free.toList ↔ h.index.toNat < p.capacity ∧ copies h = 0
  no_underflow : p.stats.releaseUnderflow = 0
  balance : p.stats.allocs + p.available = p.stats.frees + p.capacity

/-- The names of all slots. -/
def handles (p : Pool) : List Handle :=
  (List.range p.capacity).map fun i => ⟨UInt16.ofNat i⟩

variable {p p' : Pool} {copies copies' : Handle → Nat} {h k : Handle}

@[simp] lemma capacity_alloc (p : Pool) : p.alloc.2.capacity = p.capacity := by
  unfold alloc
  split
  · rfl
  · exact capacity_updateSlot p _ _

@[simp] lemma capacity_fill (p : Pool) (h : Handle) (sequence : UInt16) (raw : List UInt16) :
    (p.fill h sequence raw).2.capacity = p.capacity :=
  capacity_updateSlot _ _ _

@[simp] lemma capacity_retain (p : Pool) (h : Handle) : (p.retain h).capacity = p.capacity :=
  capacity_updateSlot _ _ _

@[simp] lemma capacity_release (p : Pool) (h : Handle) :
    ((release h).exec p).2.capacity = p.capacity := by
  simp only [release, Act.exec, reclaim]
  split
  · rfl
  · split
    · split <;> exact capacity_updateSlot _ _ _
    · exact capacity_updateSlot _ _ _

lemma slot_of_le (hh : p.capacity ≤ h.index.toNat) : p.slot h = ⟨0, 0, 0⟩ := by
  have hs : p.slots.size ≤ h.index.toNat := hh
  simp [slot, Array.getD_eq_getD_getElem?, hs]

lemma refs_updateSlot_of_ne (f : Slot → Slot) (hk : k ≠ h) :
    (p.updateSlot h f).refs k = p.refs k := by
  rw [refs, slot_updateSlot_of_ne f hk.symm, refs]

lemma refs_updateSlot_self (f : Slot → Slot) (hh : h.index.toNat < p.capacity) :
    (p.updateSlot h f).refs h = (f (p.slot h)).refs := by
  rw [refs, slot_updateSlot_self f hh]

lemma toNat_ofNat_of_lt {i : Nat} (hp : p.capacity ≤ maxSize) (hi : i < p.capacity) :
    (UInt16.ofNat i).toNat = i := by
  unfold maxSize at hp
  rw [UInt16.toNat_ofNat']
  exact Nat.mod_eq_of_lt (by omega)

lemma mem_handles (hp : p.capacity ≤ maxSize) : h ∈ p.handles ↔ h.index.toNat < p.capacity := by
  simp only [handles, List.mem_map, List.mem_range]
  constructor
  · rintro ⟨i, hi, rfl⟩
    rwa [toNat_ofNat_of_lt hp hi]
  · intro hh
    exact ⟨h.index.toNat, hh, by rw [UInt16.ofNat_toNat]⟩

lemma nodup_handles (hp : p.capacity ≤ maxSize) : p.handles.Nodup := by
  refine List.nodup_range.map_on fun i hi j hj he => ?_
  have hindex : UInt16.ofNat i = UInt16.ofNat j := congrArg Handle.index he
  rw [← toNat_ofNat_of_lt hp (List.mem_range.1 hi), hindex,
    toNat_ofNat_of_lt hp (List.mem_range.1 hj)]

namespace Accounts

lemma lt_capacity (hp : p.Accounts copies) (hh : 0 < copies h) : h.index.toNat < p.capacity := by
  by_contra hlt
  have hzero : copies h = 0 := by
    rw [← hp.refs h, Pool.refs, slot_of_le (not_lt.1 hlt)]
    rfl
  omega

/-- The slots with holders and the free ones are all there are. -/
lemma length_add_available (hp : p.Accounts copies) {held : List Handle} (hnodup : held.Nodup)
    (hmem : ∀ h, h ∈ held ↔ 0 < copies h) : held.length + p.available = p.capacity := by
  have hfree : (p.free.toList.map Handle.mk).Nodup :=
    hp.free_nodup.map fun _ _ he => congrArg Handle.index he
  have hmemfree : ∀ h : Handle, h ∈ p.free.toList.map Handle.mk ↔
      h.index.toNat < p.capacity ∧ copies h = 0 := by
    intro h
    rw [← hp.mem_free, List.mem_map]
    exact ⟨fun ⟨i, hi, he⟩ => he ▸ hi, fun hi => ⟨h.index, hi, rfl⟩⟩
  have hall : (held ++ p.free.toList.map Handle.mk).Nodup := by
    refine List.Nodup.append hnodup hfree fun h hh hf => ?_
    have hpos := (hmem h).1 hh
    have hzero := ((hmemfree h).1 hf).2
    omega
  have hperm : (held ++ p.free.toList.map Handle.mk).Perm p.handles := by
    refine (List.perm_ext_iff_of_nodup hall (nodup_handles hp.size_le)).2 fun h => ?_
    rw [List.mem_append, hmem, hmemfree, mem_handles hp.size_le]
    constructor
    · rintro (hh | ⟨hh, -⟩)
      · exact hp.lt_capacity hh
      · exact hh
    · intro hh
      by_cases hzero : copies h = 0
      · exact .inr ⟨hh, hzero⟩
      · exact .inl (Nat.pos_of_ne_zero hzero)
  have hlength := hperm.length_eq
  simpa [handles, available, Queue.length_toList] using hlength

/-- When nobody holds anything, every slot is free. -/
lemma available_eq (hp : p.Accounts copies) (hnone : ∀ h, copies h = 0) :
    p.available = p.capacity ∧ p.stats.allocs = p.stats.frees := by
  have havailable : ([] : List Handle).length + p.available = p.capacity :=
    hp.length_add_available List.nodup_nil fun h => by simp [hnone]
  have hbalance := hp.balance
  simp only [List.length_nil] at havailable
  omega

lemma available_lt (hp : p.Accounts copies) (hh : 0 < copies h) : p.available < p.capacity := by
  let held := p.handles.filter (0 < copies ·)
  have hmem : ∀ k, k ∈ held ↔ 0 < copies k := by
    intro k
    simp only [held, List.mem_filter, mem_handles hp.size_le, decide_eq_true_eq]
    exact ⟨fun hk => hk.2, fun hk => ⟨hp.lt_capacity hk, hk⟩⟩
  have hsum : held.length + p.available = p.capacity :=
    hp.length_add_available ((nodup_handles hp.size_le).filter _) hmem
  have hpos : 0 < held.length := List.length_pos_of_mem ((hmem h).2 hh)
  omega

lemma congr (hp : p.Accounts copies) (hc : ∀ h, copies' h = copies h) : p.Accounts copies' := by
  rw [show copies' = copies from funext hc]
  exact hp

end Accounts

/-! ## Operations -/

lemma accounts_new {size perSet : Nat} (hnew : new size perSet = .ok p) :
    p.Accounts (fun _ => 0) ∧ p.capacity = size ∧ p.samplesPerSet = perSet ∧ perSet ≤ maxSize := by
  unfold new at hnew
  split at hnew
  · cases hnew
  · split at hnew
    · cases hnew
    · next hsize hper =>
      cases hnew
      have hcapacity : (Array.replicate size (⟨0, 0, 0⟩ : Slot)).size = size := Array.size_replicate
      have hle : (Array.replicate size (⟨0, 0, 0⟩ : Slot)).size ≤ maxSize := by omega
      refine ⟨?_, hcapacity, rfl, by omega⟩
      generalize hp : Pool.mk perSet (Array.replicate size ⟨0, 0, 0⟩) .empty
        (.ofList ((List.range size).map UInt16.ofNat)) ⟨0, 0, 0, 0⟩ = p
      have hslots : p.capacity = size := hp ▸ hcapacity
      have hmax : p.capacity ≤ maxSize := hp ▸ hle
      have hfree : p.free.toList = p.handles.map Handle.index := by
        rw [handles, List.map_map, hslots, ← hp]
        exact Queue.toList_ofList _
      refine ⟨hmax, fun h => ?_, ?_, fun h => ?_, by rw [← hp], ?_⟩
      · rw [Pool.refs, slot, ← hp]
        simp only [Array.getD_eq_getD_getElem?, Array.getElem?_replicate]
        split <;> rfl
      · rw [hfree]
        exact (nodup_handles hmax).map Handle.index_injective
      · rw [hfree, List.mem_map_of_injective Handle.index_injective, mem_handles hmax]
        exact ⟨fun hh => ⟨hh, rfl⟩, And.left⟩
      · rw [available, ← Queue.length_toList, hfree, ← hp]
        simp [handles, capacity]

lemma stats_new {size perSet : Nat} (hnew : new size perSet = .ok p) : p.stats = ⟨0, 0, 0, 0⟩ := by
  unfold new at hnew
  split at hnew
  · cases hnew
  · split at hnew
    · cases hnew
    · cases hnew
      rfl

lemma alloc_eq_none (ha : p.alloc = (none, p')) :
    p.free.toList = [] ∧ p' = { p with stats.allocFailed := p.stats.allocFailed + 1 } := by
  unfold alloc at ha
  cases hf : p.free.pop? with
  | none =>
    rw [hf] at ha
    cases ha
    exact ⟨Queue.pop?_eq_none_iff.1 hf, rfl⟩
  | some popped =>
    rw [hf] at ha
    cases ha

lemma alloc_eq_some (ha : p.alloc = (some h, p')) : ∃ free,
    p.free.toList = h.index :: free.toList ∧
      p' = { p.updateSlot h ({ · with refs := 1 }) with
        free, stats.allocs := p.stats.allocs + 1 } := by
  unfold alloc at ha
  cases hf : p.free.pop? with
  | none =>
    rw [hf] at ha
    cases ha
  | some popped =>
    obtain ⟨index, free⟩ := popped
    rw [hf] at ha
    cases ha
    exact ⟨free, Queue.toList_eq_cons_of_pop? hf, rfl⟩

namespace Accounts

/-- A pool gives out nothing when every slot has a holder. -/
lemma alloc_none (hp : p.Accounts copies) (ha : p.alloc = (none, p')) :
    p'.Accounts copies ∧ p.available = 0 := by
  obtain ⟨hfree, rfl⟩ := alloc_eq_none ha
  refine ⟨⟨hp.size_le, hp.refs, hp.free_nodup, hp.mem_free, hp.no_underflow, hp.balance⟩, ?_⟩
  rw [available, ← Queue.length_toList, hfree]
  rfl

/-- A slot that is given out has no holder before. -/
lemma free_of_alloc (hp : p.Accounts copies) (ha : p.alloc = (some h, p')) :
    h.index.toNat < p.capacity ∧ copies h = 0 := by
  obtain ⟨free, hfree, -⟩ := alloc_eq_some ha
  rw [← hp.mem_free, hfree]
  exact List.mem_cons_self

lemma available_pos (ha : p.alloc = (some h, p')) : 0 < p.available := by
  obtain ⟨free, hfree, -⟩ := alloc_eq_some ha
  rw [available, ← Queue.length_toList, hfree, List.length_cons]
  exact Nat.succ_pos _

lemma alloc_some (hp : p.Accounts copies) (ha : p.alloc = (some h, p')) (hh : copies' h = 1)
    (hrest : ∀ k, k ≠ h → copies' k = copies k) : p'.Accounts copies' := by
  have hlt := (hp.free_of_alloc ha).1
  obtain ⟨free, hfree, rfl⟩ := alloc_eq_some ha
  have hnodup := hp.free_nodup
  rw [hfree, List.nodup_cons] at hnodup
  refine ⟨?_, fun k => ?_, hnodup.2, fun k => ?_, hp.no_underflow, ?_⟩
  · exact (capacity_updateSlot p h _).trans_le hp.size_le
  · by_cases hk : k = h
    · subst hk
      rw [hh]
      exact congrArg UInt32.toNat (refs_updateSlot_self _ hlt)
    · rw [hrest k hk, ← hp.refs k]
      exact congrArg UInt32.toNat (refs_updateSlot_of_ne _ hk)
  · change k.index ∈ free.toList ↔ k.index.toNat < (p.updateSlot h _).capacity ∧ _
    rw [capacity_updateSlot]
    by_cases hk : k = h
    · subst hk
      rw [hh]
      exact iff_of_false hnodup.1 (by omega)
    · have hne : k.index ≠ h.index := fun he => hk (Handle.index_injective he)
      rw [hrest k hk, ← hp.mem_free k, hfree, List.mem_cons]
      exact ⟨.inr, fun hm => hm.resolve_left hne⟩
  · have hbalance := hp.balance
    have havailable : p.available = free.size + 1 := by
      rw [available, ← Queue.length_toList, hfree, List.length_cons, Queue.length_toList]
    change p.stats.allocs + 1 + free.size = p.stats.frees + (p.updateSlot h _).capacity
    rw [capacity_updateSlot]
    omega

/-- A change of one slot that leaves it held or leaves it free. -/
lemma updateSlot (hp : p.Accounts copies) {f : Slot → Slot} (hlt : h.index.toNat < p.capacity)
    (hf : (f (p.slot h)).refs.toNat = copies' h) (hzero : copies' h = 0 ↔ copies h = 0)
    (hrest : ∀ k, k ≠ h → copies' k = copies k) : (p.updateSlot h f).Accounts copies' := by
  refine ⟨?_, fun k => ?_, hp.free_nodup, fun k => ?_, hp.no_underflow, ?_⟩
  · exact (capacity_updateSlot p h f).trans_le hp.size_le
  · by_cases hk : k = h
    · subst hk
      rw [refs_updateSlot_self f hlt, hf]
    · rw [refs_updateSlot_of_ne f hk, hp.refs, hrest k hk]
  · change k.index ∈ p.free.toList ↔ _
    rw [hp.mem_free, capacity_updateSlot]
    by_cases hk : k = h
    · subst hk
      rw [hzero]
    · rw [hrest k hk]
  · change p.stats.allocs + p.available = p.stats.frees + (p.updateSlot h f).capacity
    rw [capacity_updateSlot, hp.balance]

lemma fill (hp : p.Accounts copies) (hpos : 0 < copies h) (sequence : UInt16) (raw : List UInt16) :
    (p.fill h sequence raw).2.Accounts copies := by
  have hstored : ({ p with store := p.store.write (p.start h) (raw.take p.samplesPerSet) } :
      Pool).Accounts copies :=
    ⟨hp.size_le, hp.refs, hp.free_nodup, hp.mem_free, hp.no_underflow, hp.balance⟩
  exact hstored.updateSlot (hp.lt_capacity hpos) (hp.refs h) Iff.rfl fun _ _ => rfl

lemma retain (hp : p.Accounts copies) (hpos : 0 < copies h) (hlt : copies h + 1 < 2 ^ 32)
    (hh : copies' h = copies h + 1) (hrest : ∀ k, k ≠ h → copies' k = copies k) :
    (p.retain h).Accounts copies' := by
  refine hp.updateSlot (hp.lt_capacity hpos) ?_ (by omega) hrest
  have hrefs : (p.slot h).refs.toNat = copies h := hp.refs h
  rw [UInt32.toNat_add, hrefs, hh]
  exact Nat.mod_eq_of_lt hlt

/-- The free list has room for a slot that somebody holds. -/
lemma reclaim (hp : p.Accounts copies) {f : Slot → Slot} (hpos : 0 < copies h)
    (hzero : copies' h = 0) (hf : (f (p.slot h)).refs.toNat = 0)
    (hrest : ∀ k, k ≠ h → copies' k = copies k) :
    ((p.updateSlot h f).reclaim h).Accounts copies' := by
  have hlt := hp.lt_capacity hpos
  have hroom : (p.updateSlot h f).available < (p.updateSlot h f).capacity := by
    rw [capacity_updateSlot]
    exact hp.available_lt hpos
  have hout : h.index ∉ p.free.toList := fun hm => hpos.ne' ((hp.mem_free h).1 hm).2
  rw [Pool.reclaim, if_pos hroom]
  refine ⟨?_, fun k => ?_, ?_, fun k => ?_, hp.no_underflow, ?_⟩
  · exact (capacity_updateSlot p h f).trans_le hp.size_le
  · change ((p.updateSlot h f).refs k).toNat = _
    by_cases hk : k = h
    · subst hk
      rw [refs_updateSlot_self f hlt, hf, hzero]
    · rw [refs_updateSlot_of_ne f hk, hp.refs, hrest k hk]
  · change (p.free.push h.index).toList.Nodup
    rw [Queue.toList_push]
    exact List.nodup_append.2 ⟨hp.free_nodup, List.nodup_singleton _, fun i hi j hj he =>
      hout (List.mem_singleton.1 hj ▸ he ▸ hi)⟩
  · change k.index ∈ (p.free.push h.index).toList ↔ k.index.toNat < (p.updateSlot h f).capacity ∧ _
    rw [Queue.toList_push, List.mem_append, List.mem_singleton, hp.mem_free, capacity_updateSlot]
    by_cases hk : k = h
    · subst hk
      exact iff_of_true (.inr rfl) ⟨hlt, hzero⟩
    · have hindex : k.index ≠ h.index := fun he => hk (Handle.index_injective he)
      rw [hrest k hk]
      exact ⟨fun hm => hm.resolve_right hindex, .inl⟩
  · change p.stats.allocs + (p.free.push h.index).size =
      p.stats.frees + 1 + (p.updateSlot h f).capacity
    have hbalance := hp.balance
    rw [Queue.size_push, capacity_updateSlot]
    unfold available at hbalance
    omega

/-- Whoever leaves is told whether nobody is left, and in that case the slot is free again. -/
lemma release (hp : p.Accounts copies) (hpos : 0 < copies h) (hh : copies' h + 1 = copies h)
    (hrest : ∀ k, k ≠ h → copies' k = copies k) :
    ((Pool.release h).exec p).1 = .ok (copies' h == 0) ∧
      ((Pool.release h).exec p).2.Accounts copies' := by
  have hlt := hp.lt_capacity hpos
  have hrefs : (p.refs h).toNat = copies h := hp.refs h
  have hne : p.refs h ≠ 0 := fun he => by
    rw [he] at hrefs
    exact absurd hrefs.symm hpos.ne'
  have hsub : (p.refs h - 1).toNat = copies' h := by
    have hle : (1 : UInt32) ≤ p.refs h := by
      rw [UInt32.le_iff_toNat_le, hrefs]
      exact hpos
    rw [UInt32.toNat_sub_of_le _ _ hle, hrefs, ← hh]
    rfl
  by_cases hlast : p.refs h = 1
  · have hzero : copies' h = 0 := by
      rw [hlast] at hsub
      exact hsub.symm
    have hexec : (Pool.release h).exec p =
        (.ok true, (p.updateSlot h ({ · with refs := p.refs h - 1 })).reclaim h) := by
      simp only [Pool.release, Act.exec, if_neg hne, if_pos hlast]
    rw [hexec]
    exact ⟨by simp [hzero], hp.reclaim hpos hzero (hsub.trans hzero) hrest⟩
  · have hmore : copies' h ≠ 0 := fun he => hlast <| by
      rw [← UInt32.toNat_inj, hrefs, ← hh, he]
      rfl
    have hexec : (Pool.release h).exec p =
        (.ok false, p.updateSlot h ({ · with refs := p.refs h - 1 })) := by
      simp only [Pool.release, Act.exec, if_neg hne, if_neg hlast]
    rw [hexec]
    refine ⟨by simp [hmore], hp.updateSlot hlt hsub (by omega) hrest⟩

end Accounts

end Pool

end Instrument
