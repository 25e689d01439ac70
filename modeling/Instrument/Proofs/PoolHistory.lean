import Instrument.Proofs.PoolContents
import Mathlib.Data.List.Perm.Subperm

/-!
# Histories of a pool

A handle is a number that may be copied, and its slot may have gone to somebody else since it was
given out. Whatever is released, and however often, the free list holds slots that nobody holds and
each of them once. Only a holder that is added to a free slot spoils that: the slot is then given
out although it is held.
-/

namespace Instrument.Pool

/-- What may be asked of a pool. -/
inductive Request where
  | alloc
  | fill (h : Handle) (sequence : UInt16) (raw : List UInt16)
  | retain (h : Handle)
  | release (h : Handle)

/-- A pool with all the handles that it has ever given out. -/
structure History where
  pool : Pool
  issued : List Handle

namespace History

/-- A pool that has given out nothing. -/
def start (pool : Pool) : History :=
  ⟨pool, []⟩

def perform (s : History) : Request → History
  | .alloc => ⟨s.pool.alloc.2, s.pool.alloc.1.toList ++ s.issued⟩
  | .fill h sequence raw => { s with pool := (s.pool.fill h sequence raw).2 }
  | .retain h => { s with pool := s.pool.retain h }
  | .release h => { s with pool := ((Pool.release h).exec s.pool).2 }

def performAll (s : History) (requests : List Request) : History :=
  requests.foldl perform s

/-- Any handle that was ever given out may be filled and released, and is retained only if the
condition allows it. -/
def Admits (may : Pool → Handle → Prop) (s : History) : Request → Prop
  | .alloc => True
  | .fill h _ _ => h ∈ s.issued
  | .retain h => h ∈ s.issued ∧ may s.pool h
  | .release h => h ∈ s.issued

/-- Each request is admitted at its turn. -/
def AdmitsAll (may : Pool → Handle → Prop) : History → List Request → Prop
  | _, [] => True
  | s, request :: rest => s.Admits may request ∧ (s.perform request).AdmitsAll may rest

section

variable {may : Pool → Handle → Prop} [∀ p h, Decidable (may p h)]

instance decidableAdmits (s : History) : (request : Request) → Decidable (s.Admits may request)
  | .alloc => inferInstanceAs (Decidable True)
  | .fill h _ _ => inferInstanceAs (Decidable (h ∈ s.issued))
  | .retain h => inferInstanceAs (Decidable (h ∈ s.issued ∧ may s.pool h))
  | .release h => inferInstanceAs (Decidable (h ∈ s.issued))

instance decidableAdmitsAll :
    (s : History) → (requests : List Request) → Decidable (s.AdmitsAll may requests)
  | _, [] => inferInstanceAs (Decidable True)
  | s, request :: rest =>
    have := decidableAdmitsAll (s.perform request) rest
    inferInstanceAs (Decidable (s.Admits may request ∧ (s.perform request).AdmitsAll may rest))

end

/-- What every request keeps, whatever handle it names, a history keeps. -/
lemma performAll_induction {inv : Pool → Prop}
    (hstep : ∀ (s : History) (request : Request), inv s.pool → inv (s.perform request).pool)
    {s : History} (hs : inv s.pool) (requests : List Request) :
    inv (s.performAll requests).pool := by
  induction requests generalizing s with
  | nil => exact hs
  | cons request rest ih => exact ih (hstep s request hs)

/-- What every admitted request keeps, a history keeps. -/
lemma performAll_invariant {may : Pool → Handle → Prop} (inv : Pool → Prop)
    (hstep : ∀ (s : History) (request : Request), inv s.pool → s.Admits may request →
      inv (s.perform request).pool)
    {s : History} {requests : List Request} (hs : inv s.pool) (ha : s.AdmitsAll may requests) :
    inv (s.performAll requests).pool := by
  induction requests generalizing s with
  | nil => exact hs
  | cons request rest ih => exact ih (hstep s request hs ha.1) ha.2

end History

variable {p p' : Pool} {h k : Handle}

lemma lt_capacity_of_refs (hh : p.refs h ≠ 0) : h.index.toNat < p.capacity := by
  by_contra hle
  apply hh
  rw [refs, slot_of_le (Nat.not_lt.1 hle)]

lemma ne_zero_of_eq_one {n : UInt32} (hn : n = 1) : n ≠ 0 := by
  rw [hn]
  decide

lemma ne_of_one_lt {n : UInt32} (hn : 1 < n) : n ≠ 0 ∧ n ≠ 1 := by
  constructor
  · rintro rfl
    exact absurd hn (by decide)
  · rintro rfl
    exact absurd hn (by decide)

lemma exec_release_of_unheld (hh : p.refs h = 0) : (release h).exec p =
    (.error (.overflow
        ("sample set " ++ toString h.index.toNat ++ " released with no references")),
      { p with stats.releaseUnderflow := p.stats.releaseUnderflow + 1 }) := by
  simp only [release, Act.exec, if_pos hh]

lemma exec_release_of_last (hh : p.refs h = 1) : (release h).exec p =
    (.ok true, (p.updateSlot h ({ · with refs := 0 })).reclaim h) := by
  simp only [release, Act.exec, if_neg (ne_zero_of_eq_one hh), if_pos hh]
  rw [hh]
  rfl

lemma exec_release_of_shared (hh : 1 < p.refs h) : (release h).exec p =
    (.ok false, p.updateSlot h ({ · with refs := p.refs h - 1 })) := by
  obtain ⟨hzero, hone⟩ := ne_of_one_lt hh
  simp only [release, Act.exec, if_neg hzero, if_neg hone]

/-- The number of holders decides what a release does. -/
lemma release_cases (p : Pool) (h : Handle) : p.refs h = 0 ∨ p.refs h = 1 ∨ 1 < p.refs h := by
  simp only [← UInt32.toNat_inj, UInt32.lt_iff_toNat_lt]
  change (p.refs h).toNat = 0 ∨ (p.refs h).toNat = 1 ∨ 1 < (p.refs h).toNat
  omega

lemma capacity_perform (s : History) (request : Request) :
    (s.perform request).pool.capacity = s.pool.capacity := by
  cases request with
  | alloc => exact capacity_alloc s.pool
  | fill h sequence raw => exact capacity_fill s.pool h sequence raw
  | retain h => exact capacity_retain s.pool h
  | release h => exact capacity_release s.pool h

lemma samplesPerSet_perform (s : History) (request : Request) :
    (s.perform request).pool.samplesPerSet = s.pool.samplesPerSet := by
  cases request with
  | alloc => exact samplesPerSet_alloc s.pool
  | fill h sequence raw => rfl
  | retain h => rfl
  | release h => exact samplesPerSet_release s.pool h

/-- A history neither adds slots nor makes them larger. -/
lemma shape_performAll (s : History) (requests : List Request) :
    (s.performAll requests).pool.capacity = s.pool.capacity ∧
      (s.performAll requests).pool.samplesPerSet = s.pool.samplesPerSet := by
  let same : Pool → Prop := fun p =>
    p.capacity = s.pool.capacity ∧ p.samplesPerSet = s.pool.samplesPerSet
  have hstart : same s.pool := ⟨rfl, rfl⟩
  refine History.performAll_induction (fun t request ht => ?_) hstart requests
  exact ⟨(capacity_perform t request).trans ht.1, (samplesPerSet_perform t request).trans ht.2⟩

/-- The slots and the samples in one are not too many to be counted, and the free list names
slots. -/
structure Usable (p : Pool) : Prop where
  size_le : p.capacity ≤ maxSize
  perSet_le : p.samplesPerSet ≤ maxSize
  free_lt : ∀ h : Handle, h.index ∈ p.free.toList → h.index.toNat < p.capacity

namespace Usable

lemma updateSlot (hp : p.Usable) (h : Handle) (f : Slot → Slot) : (p.updateSlot h f).Usable where
  size_le := (capacity_updateSlot p h f).trans_le hp.size_le
  perSet_le := hp.perSet_le
  free_lt k hk := (capacity_updateSlot p h f).symm ▸ hp.free_lt k hk

lemma alloc (hp : p.Usable) : p.alloc.2.Usable := by
  rcases ha : p.alloc with ⟨_ | h, p'⟩
  · obtain ⟨-, rfl⟩ := alloc_eq_none ha
    exact ⟨hp.size_le, hp.perSet_le, hp.free_lt⟩
  · obtain ⟨free, hfree, rfl⟩ := alloc_eq_some ha
    have htaken := hp.updateSlot h ({ · with refs := 1 })
    refine ⟨htaken.size_le, htaken.perSet_le, fun k hk => htaken.free_lt k ?_⟩
    change k.index ∈ p.free.toList
    rw [hfree]
    exact List.mem_cons_of_mem _ hk

lemma fill (hp : p.Usable) (h : Handle) (sequence : UInt16) (raw : List UInt16) :
    (p.fill h sequence raw).2.Usable := by
  let stored : Pool := { p with store := p.store.write (p.start h) (raw.take p.samplesPerSet) }
  have hstored : stored.Usable := ⟨hp.size_le, hp.perSet_le, hp.free_lt⟩
  exact hstored.updateSlot h _

lemma reclaim (hp : p.Usable) (hlt : h.index.toNat < p.capacity) : (p.reclaim h).Usable := by
  unfold Pool.reclaim
  split
  · refine ⟨hp.size_le, hp.perSet_le, fun k hk => ?_⟩
    rw [Queue.toList_push, List.mem_append, List.mem_singleton] at hk
    rcases hk with hk | hk
    · exact hp.free_lt k hk
    · obtain rfl := Handle.index_injective hk
      exact hlt
  · exact hp

lemma release (hp : p.Usable) (h : Handle) : ((Pool.release h).exec p).2.Usable := by
  rcases release_cases p h with hh | hh | hh
  · rw [exec_release_of_unheld hh]
    exact ⟨hp.size_le, hp.perSet_le, hp.free_lt⟩
  · rw [exec_release_of_last hh]
    refine (hp.updateSlot h _).reclaim ?_
    rw [capacity_updateSlot]
    exact lt_capacity_of_refs (ne_zero_of_eq_one hh)
  · rw [exec_release_of_shared hh]
    exact hp.updateSlot h _

lemma perform {s : History} (hs : s.pool.Usable) (request : Request) :
    (s.perform request).pool.Usable := by
  cases request with
  | alloc => exact hs.alloc
  | fill h sequence raw => exact hs.fill h sequence raw
  | retain h => exact hs.updateSlot h _
  | release h => exact hs.release h

end Usable

lemma usable_new {size perSet : Nat} (hnew : new size perSet = .ok p) : p.Usable := by
  obtain ⟨ha, -, hperSet, hle⟩ := accounts_new hnew
  exact ⟨ha.size_le, hperSet.trans_le hle, fun h hh => ((ha.mem_free h).1 hh).1⟩

/-- What a new pool can become. Slots may be stored, held and let go through any handle, whether
it was given out or not. -/
def Reachable (p : Pool) : Prop :=
  ∃ size perSet first, new size perSet = .ok first ∧
    ∃ requests, ((History.start first).performAll requests).pool = p

namespace Reachable

lemma of_new {size perSet : Nat} (hnew : new size perSet = .ok p) : p.Reachable :=
  ⟨size, perSet, p, hnew, [], rfl⟩

lemma perform (hp : p.Reachable) (request : Request) :
    ((History.start p).perform request).pool.Reachable := by
  obtain ⟨size, perSet, first, hnew, requests, rfl⟩ := hp
  refine ⟨size, perSet, first, hnew, requests ++ [request], ?_⟩
  rw [History.performAll, List.foldl_append]
  cases request <;> rfl

lemma usable (hp : p.Reachable) : p.Usable := by
  obtain ⟨size, perSet, first, hnew, requests, rfl⟩ := hp
  exact History.performAll_induction (fun _ request hs => hs.perform request)
    (s := .start first) (usable_new hnew) requests

end Reachable

/-- Nobody holds a slot of the free list, which has each slot once, and every slot that was taken
and is not given back is missing from it. -/
structure Sound (p : Pool) : Prop extends p.Usable where
  free_nodup : p.free.toList.Nodup
  unheld : ∀ h : Handle, h.index ∈ p.free.toList → p.refs h = 0
  balance : p.stats.allocs + p.available = p.stats.frees + p.capacity

/-- Every slot that nobody holds is on the free list. -/
structure Tidy (p : Pool) : Prop extends p.Sound where
  listed : ∀ h : Handle, h.index.toNat < p.capacity → p.refs h = 0 → h.index ∈ p.free.toList

lemma tidy_new {size perSet : Nat} (hnew : new size perSet = .ok p) : p.Tidy := by
  have ha := (accounts_new hnew).1
  have hrefs : ∀ h, p.refs h = 0 := fun h => UInt32.toNat_inj.1 (ha.refs h)
  exact ⟨⟨usable_new hnew, ha.free_nodup, fun h _ => hrefs h, ha.balance⟩,
    fun h hlt _ => (ha.mem_free h).2 ⟨hlt, rfl⟩⟩

namespace Sound

lemma not_mem_free (hp : p.Sound) (hh : p.refs h ≠ 0) : h.index ∉ p.free.toList := fun hm =>
  hh (hp.unheld h hm)

/-- The free list has room for every slot that is not on it. -/
lemma available_lt (hp : p.Sound) (hlt : h.index.toNat < p.capacity)
    (hout : h.index ∉ p.free.toList) : p.available < p.capacity := by
  have hnodup : (h :: p.free.toList.map Handle.mk).Nodup := by
    refine List.nodup_cons.2 ⟨fun hm => ?_, ?_⟩
    · obtain ⟨i, hi, rfl⟩ := List.mem_map.1 hm
      exact hout hi
    · exact hp.free_nodup.map fun _ _ he => congrArg Handle.index he
  have hsub : h :: p.free.toList.map Handle.mk ⊆ p.handles := by
    intro k hk
    rw [mem_handles hp.size_le]
    rcases List.mem_cons.1 hk with rfl | hk
    · exact hlt
    · obtain ⟨i, hi, rfl⟩ := List.mem_map.1 hk
      exact hp.free_lt ⟨i⟩ hi
  have hlength := (hnodup.subperm hsub).length_le
  simp only [handles, List.length_cons, List.length_map, List.length_range,
    Queue.length_toList] at hlength
  exact hlength

lemma alloc (hp : p.Sound) : p.alloc.2.Sound := by
  have husable := hp.toUsable.alloc
  rcases ha : p.alloc with ⟨_ | h, p'⟩
  · obtain ⟨-, rfl⟩ := alloc_eq_none ha
    exact ⟨ha ▸ husable, hp.free_nodup, hp.unheld, hp.balance⟩
  · obtain ⟨free, hfree, rfl⟩ := alloc_eq_some ha
    have hnodup := hp.free_nodup
    rw [hfree, List.nodup_cons] at hnodup
    refine ⟨ha ▸ husable, hnodup.2, fun k hk => ?_, ?_⟩
    · change (p.updateSlot h _).refs k = 0
      have hne : k ≠ h := by
        rintro rfl
        exact hnodup.1 hk
      rw [refs_updateSlot_of_ne _ hne]
      exact hp.unheld k (hfree ▸ List.mem_cons_of_mem _ hk)
    · have hbalance := hp.balance
      have havailable : p.available = free.size + 1 := by
        rw [available, ← Queue.length_toList, hfree, List.length_cons, Queue.length_toList]
      change p.stats.allocs + 1 + free.size = p.stats.frees + (p.updateSlot h _).capacity
      rw [capacity_updateSlot]
      omega

lemma updateSlot (hp : p.Sound) {f : Slot → Slot}
    (hf : h.index ∈ p.free.toList → (f (p.slot h)).refs = 0) : (p.updateSlot h f).Sound := by
  refine ⟨hp.toUsable.updateSlot h f, hp.free_nodup, fun k hk => ?_, ?_⟩
  · by_cases he : k = h
    · subst he
      rw [refs_updateSlot_self f (hp.free_lt k hk)]
      exact hf hk
    · rw [refs_updateSlot_of_ne f he, hp.unheld k hk]
  · change p.stats.allocs + p.available = p.stats.frees + (p.updateSlot h f).capacity
    rw [capacity_updateSlot, hp.balance]

lemma fill (hp : p.Sound) (h : Handle) (sequence : UInt16) (raw : List UInt16) :
    (p.fill h sequence raw).2.Sound := by
  let stored : Pool := { p with store := p.store.write (p.start h) (raw.take p.samplesPerSet) }
  have hstored : stored.Sound :=
    ⟨⟨hp.size_le, hp.perSet_le, hp.free_lt⟩, hp.free_nodup, hp.unheld, hp.balance⟩
  exact hstored.updateSlot fun hm => hp.unheld h hm

lemma retain (hp : p.Sound) (hout : h.index ∉ p.free.toList) : (p.retain h).Sound :=
  hp.updateSlot fun hm => absurd hm hout

/-- The last holder's release is never lost: the free list takes the slot. -/
lemma reclaim_eq (hp : p.Sound) (hh : p.refs h ≠ 0) (f : Slot → Slot) :
    (p.updateSlot h f).reclaim h = { p.updateSlot h f with
      free := p.free.push h.index, stats.frees := p.stats.frees + 1 } := by
  have hroom : (p.updateSlot h f).available < (p.updateSlot h f).capacity := by
    rw [capacity_updateSlot]
    exact hp.available_lt (lt_capacity_of_refs hh) (hp.not_mem_free hh)
  rw [Pool.reclaim, if_pos hroom]
  rfl

lemma reclaim (hp : p.Sound) (hh : p.refs h ≠ 0) {f : Slot → Slot}
    (hf : (f (p.slot h)).refs = 0) : ((p.updateSlot h f).reclaim h).Sound := by
  have hs : (p.updateSlot h f).Sound := hp.updateSlot fun _ => hf
  have hlt := lt_capacity_of_refs hh
  have hout := hp.not_mem_free hh
  have husable := hs.toUsable.reclaim ((capacity_updateSlot p h f).symm ▸ hlt)
  rw [hp.reclaim_eq hh] at husable ⊢
  refine ⟨husable, ?_, fun k hk => ?_, ?_⟩
  · change (p.free.push h.index).toList.Nodup
    rw [Queue.toList_push]
    exact List.nodup_append.2 ⟨hp.free_nodup, List.nodup_singleton _, fun i hi j hj he =>
      hout (List.mem_singleton.1 hj ▸ he ▸ hi)⟩
  · change k.index ∈ (p.free.push h.index).toList at hk
    rw [Queue.toList_push, List.mem_append, List.mem_singleton] at hk
    rcases hk with hk | hk
    · exact hs.unheld k hk
    · obtain rfl := Handle.index_injective hk
      exact (refs_updateSlot_self f hlt).trans hf
  · have hbalance := hs.balance
    change p.stats.allocs + (p.free.push h.index).size =
      p.stats.frees + 1 + (p.updateSlot h f).capacity
    rw [Queue.size_push]
    change p.stats.allocs + p.free.size = p.stats.frees + (p.updateSlot h f).capacity at hbalance
    omega

lemma release (hp : p.Sound) (h : Handle) : ((Pool.release h).exec p).2.Sound := by
  rcases release_cases p h with hh | hh | hh
  · rw [exec_release_of_unheld hh]
    exact ⟨⟨hp.size_le, hp.perSet_le, hp.free_lt⟩, hp.free_nodup, hp.unheld, hp.balance⟩
  · rw [exec_release_of_last hh]
    exact hp.reclaim (ne_zero_of_eq_one hh) rfl
  · rw [exec_release_of_shared hh]
    exact hp.updateSlot fun hm => absurd hm (hp.not_mem_free (ne_of_one_lt hh).1)

end Sound

namespace Tidy

lemma mem_free (hp : p.Tidy) (h : Handle) : h.index ∈ p.free.toList ↔
    h.index.toNat < p.capacity ∧ p.refs h = 0 :=
  ⟨fun hm => ⟨hp.free_lt h hm, hp.unheld h hm⟩, fun hh => hp.listed h hh.1 hh.2⟩

/-- Whoever is unheld after a change of one slot is this slot, let go by the change, or was on the
free list before. -/
lemma listed_updateSlot (hp : p.Tidy) {f : Slot → Slot}
    (hk : k.index.toNat < (p.updateSlot h f).capacity) (hrefs : (p.updateSlot h f).refs k = 0) :
    k = h ∧ (f (p.slot h)).refs = 0 ∨ k ≠ h ∧ k.index ∈ p.free.toList := by
  rw [capacity_updateSlot] at hk
  by_cases he : k = h
  · subst he
    rw [refs_updateSlot_self f hk] at hrefs
    exact .inl ⟨rfl, hrefs⟩
  · rw [refs_updateSlot_of_ne f he] at hrefs
    exact .inr ⟨he, hp.listed k hk hrefs⟩

lemma alloc (hp : p.Tidy) : p.alloc.2.Tidy := by
  refine ⟨hp.toSound.alloc, ?_⟩
  rcases ha : p.alloc with ⟨_ | h, p'⟩
  · obtain ⟨-, rfl⟩ := alloc_eq_none ha
    exact hp.listed
  · obtain ⟨free, hfree, rfl⟩ := alloc_eq_some ha
    intro k hk hrefs
    rcases hp.listed_updateSlot hk hrefs with ⟨-, hone⟩ | ⟨he, hm⟩
    · change (1 : UInt32) = 0 at hone
      exact absurd hone (by decide)
    · rw [hfree, List.mem_cons] at hm
      exact hm.resolve_left fun hi => he (Handle.index_injective hi)

/-- A change of one slot by which it is not let go. -/
lemma updateSlot (hp : p.Tidy) {f : Slot → Slot}
    (hf : (f (p.slot h)).refs = 0 ↔ p.refs h = 0) : (p.updateSlot h f).Tidy := by
  refine ⟨hp.toSound.updateSlot fun hm => hf.2 (hp.unheld h hm), fun k hk hrefs => ?_⟩
  rcases hp.listed_updateSlot hk hrefs with ⟨rfl, hzero⟩ | ⟨-, hm⟩
  · rw [capacity_updateSlot] at hk
    exact hp.listed k hk (hf.1 hzero)
  · exact hm

lemma fill (hp : p.Tidy) (h : Handle) (sequence : UInt16) (raw : List UInt16) :
    (p.fill h sequence raw).2.Tidy := by
  let stored : Pool := { p with store := p.store.write (p.start h) (raw.take p.samplesPerSet) }
  have hstored : stored.Tidy := ⟨⟨⟨hp.size_le, hp.perSet_le, hp.free_lt⟩, hp.free_nodup, hp.unheld,
    hp.balance⟩, hp.listed⟩
  exact hstored.updateSlot Iff.rfl

/-- The counter of a slot has 32 bits: a full one would wrap and lose the slot. -/
lemma retain (hp : p.Tidy) (hh : p.refs h ≠ 0) (hfull : p.refs h < 4294967295) :
    (p.retain h).Tidy := by
  refine hp.updateSlot (iff_of_false (fun he => ?_) hh)
  have hlt : (p.refs h).toNat < 4294967295 := UInt32.lt_iff_toNat_lt.1 hfull
  have hsum : (p.refs h + 1).toNat = (p.refs h).toNat + 1 := by
    rw [UInt32.toNat_add]
    exact Nat.mod_eq_of_lt (by change (p.refs h).toNat + 1 < 4294967296; omega)
  change p.refs h + 1 = 0 at he
  rw [he] at hsum
  exact absurd hsum.symm (Nat.succ_ne_zero _)

lemma release (hp : p.Tidy) (h : Handle) : ((Pool.release h).exec p).2.Tidy := by
  refine ⟨hp.toSound.release h, ?_⟩
  rcases release_cases p h with hh | hh | hh
  · rw [exec_release_of_unheld hh]
    exact hp.listed
  · rw [exec_release_of_last hh, hp.toSound.reclaim_eq (ne_zero_of_eq_one hh)]
    intro k hk hrefs
    change k.index ∈ (p.free.push h.index).toList
    rw [Queue.toList_push, List.mem_append, List.mem_singleton]
    rcases hp.listed_updateSlot hk hrefs with ⟨rfl, -⟩ | ⟨-, hm⟩
    · exact .inr rfl
    · exact .inl hm
  · rw [exec_release_of_shared hh]
    have hlt : 1 < (p.refs h).toNat := UInt32.lt_iff_toNat_lt.1 hh
    refine (hp.updateSlot (iff_of_false (fun he => ?_) (ne_of_one_lt hh).1)).listed
    change p.refs h - 1 = 0 at he
    have hsub := UInt32.toNat_sub_of_le (p.refs h) 1 (UInt32.le_iff_toNat_le.2 hlt.le)
    rw [he] at hsub
    change 0 = (p.refs h).toNat - 1 at hsub
    omega

/-- Surplus releases apart, the pool agrees with its own counts. -/
lemma accounts (hp : p.Tidy) : ({ p with stats.releaseUnderflow := 0 } : Pool).Accounts
    fun h => (p.refs h).toNat where
  size_le := hp.size_le
  refs _ := rfl
  free_nodup := hp.free_nodup
  mem_free h := by
    change h.index ∈ p.free.toList ↔ h.index.toNat < p.capacity ∧ (p.refs h).toNat = 0
    have hzero : (p.refs h).toNat = 0 ↔ p.refs h = 0 := by
      rw [← UInt32.toNat_inj]
      rfl
    rw [hzero]
    exact hp.mem_free h
  no_underflow := rfl
  balance := hp.balance

end Tidy

/-! ## Conservation -/

lemma toList_slots (hp : p.capacity ≤ maxSize) : p.slots.toList = p.handles.map p.slot := by
  apply List.ext_getElem
  · simp [handles, capacity]
  · intro i hi hi'
    have hlt : i < p.capacity := by simpa [capacity] using hi
    have hsize : i < p.slots.size := hlt
    simp only [handles, List.map_map, List.getElem_map, List.getElem_range, Function.comp_apply,
      slot, toNat_ofNat_of_lt hp hlt, Array.getElem_toList, Array.getD_eq_getD_getElem?]
    simp [hsize]

/-- The slots that somebody holds and the free ones are all there are. -/
lemma Tidy.available_add_held (hp : p.Tidy) :
    p.available + p.slots.toList.countP (fun slot => slot.refs != 0) = p.capacity := by
  have hmem : ∀ h, h ∈ p.handles.filter (fun h => (p.slot h).refs != 0) ↔
      0 < (p.refs h).toNat := by
    intro h
    have hzero : p.refs h ≠ 0 ↔ 0 < (p.refs h).toNat := by
      rw [Ne, ← UInt32.toNat_inj, Nat.pos_iff_ne_zero]
      rfl
    rw [List.mem_filter, mem_handles hp.size_le, bne_iff_ne]
    change h.index.toNat < p.capacity ∧ p.refs h ≠ 0 ↔ _
    rw [hzero]
    exact and_iff_right_of_imp fun hpos => lt_capacity_of_refs (hzero.2 hpos)
  have hsum := hp.accounts.length_add_available ((nodup_handles hp.size_le).filter _) hmem
  rw [toList_slots hp.size_le, List.countP_map, List.countP_eq_length_filter]
  change (p.handles.filter _).length + p.available = p.capacity at hsum
  rw [Nat.add_comm]
  exact hsum

/-- What a pool of some size has given out and what is left of it add up. -/
structure Conserved (size : Nat) (p : Pool) : Prop where
  free_iff : ∀ h : Handle, h.index ∈ p.free.toList ↔ h.index.toNat < size ∧ p.refs h = 0
  once : p.free.toList.Nodup
  slots : p.available + p.slots.toList.countP (fun slot => slot.refs != 0) = size
  balance : (p.stats.allocs : Int) - p.stats.frees = size - p.available
  exhausted : p.alloc.1 = none ↔ ∀ h : Handle, h.index.toNat < size → p.refs h ≠ 0

/-- What a release answers and does, by the number of holders that it finds. -/
structure Accountable (p : Pool) (h : Handle) : Prop where
  last_iff : ((release h).exec p).1 = .ok true ↔ p.refs h = 1
  shared_iff : ((release h).exec p).1 = .ok false ↔ 1 < p.refs h
  surplus_iff : (∃ text, ((release h).exec p).1 = .error (.overflow text)) ↔ p.refs h = 0
  last : p.refs h = 1 →
    ((release h).exec p).2.stats = { p.stats with frees := p.stats.frees + 1 } ∧
      ((release h).exec p).2.free.toList = p.free.toList ++ [h.index]
  surplus : p.refs h = 0 → ((release h).exec p).2 =
    { p with stats.releaseUnderflow := p.stats.releaseUnderflow + 1 }

lemma alloc_eq_none_iff : p.alloc.1 = none ↔ p.free.toList = [] := by
  rcases ha : p.alloc with ⟨_ | h, p'⟩
  · exact iff_of_true rfl (alloc_eq_none ha).1
  · obtain ⟨free, hfree, -⟩ := alloc_eq_some ha
    rw [hfree]
    exact iff_of_false nofun nofun

lemma Tidy.conserved (hp : p.Tidy) : p.Conserved p.capacity where
  free_iff := hp.mem_free
  once := hp.free_nodup
  slots := hp.available_add_held
  balance := by
    have hbalance := hp.balance
    omega
  exhausted := by
    rw [alloc_eq_none_iff, List.eq_nil_iff_forall_not_mem]
    constructor
    · intro hnone h hlt hh
      exact hnone h.index (hp.listed h hlt hh)
    · intro hall i hi
      obtain ⟨hlt, hh⟩ := (hp.mem_free ⟨i⟩).1 hi
      exact hall ⟨i⟩ hlt hh

lemma Sound.release_last (hp : p.Sound) (hh : p.refs h = 1) :
    ((Pool.release h).exec p).2.stats = { p.stats with frees := p.stats.frees + 1 } ∧
      ((Pool.release h).exec p).2.free.toList = p.free.toList ++ [h.index] := by
  rw [exec_release_of_last hh, hp.reclaim_eq (ne_zero_of_eq_one hh)]
  exact ⟨rfl, Queue.toList_push p.free h.index⟩

lemma Sound.accountable (hp : p.Sound) (h : Handle) : p.Accountable h := by
  have hanswer : (((Pool.release h).exec p).1 = .ok true ↔ p.refs h = 1) ∧
      (((Pool.release h).exec p).1 = .ok false ↔ 1 < p.refs h) ∧
      ((∃ text, ((Pool.release h).exec p).1 = .error (.overflow text)) ↔ p.refs h = 0) := by
    rcases release_cases p h with hh | hh | hh
    · simp [exec_release_of_unheld hh, hh]
    · simp [exec_release_of_last hh, hh]
    · simp [exec_release_of_shared hh, hh, ne_of_one_lt hh]
  obtain ⟨hlast, hshared, hsurplus⟩ := hanswer
  exact ⟨hlast, hshared, hsurplus, hp.release_last, fun hh => by rw [exec_release_of_unheld hh]⟩

/-- A held slot whose counter has room for one more holder. -/
def Retainable (p : Pool) (h : Handle) : Prop :=
  p.refs h ≠ 0 ∧ p.refs h < 4294967295

instance (p : Pool) (h : Handle) : Decidable (p.Retainable h) :=
  inferInstanceAs (Decidable (_ ∧ _))

lemma Tidy.perform {s : History} (hs : s.pool.Tidy) {request : Request}
    (ha : s.Admits Retainable request) : (s.perform request).pool.Tidy := by
  cases request with
  | alloc => exact hs.alloc
  | fill h sequence raw => exact hs.fill h sequence raw
  | retain h => exact hs.retain ha.2.1 ha.2.2
  | release h => exact hs.release h

/-- Whatever handles are filled and released, live or stale, and however often: as long as holders
are added to held slots only, the slots that nobody holds are the free ones, everything adds up, and
a release frees a slot exactly if it was the last one due. -/
theorem conserved_of_requests {size perSet : Nat} (hnew : new size perSet = .ok p)
    {requests : List Request} (ha : (History.start p).AdmitsAll Retainable requests) :
    let s := (History.start p).performAll requests
    s.pool.Conserved size ∧ ∀ h ∈ s.issued, s.pool.Accountable h := by
  intro s
  have htidy : s.pool.Tidy :=
    History.performAll_invariant Tidy (fun s request hs hadmits => hs.perform hadmits)
      (tidy_new hnew) ha
  have hsize : s.pool.capacity = size :=
    (shape_performAll _ requests).1.trans (accounts_new hnew).2.1
  exact ⟨hsize ▸ htidy.conserved, fun h _ => htidy.toSound.accountable h⟩

/-- A slot that is shared, freed and released once too often, and given out again to a second user
while the first one still has its handle. -/
theorem conserved_of_surplus_releases : ∃ p, new 1 4 = .ok p ∧
    let s := (History.start p).performAll [.alloc, .fill ⟨0⟩ 7 [1, 2], .retain ⟨0⟩, .release ⟨0⟩,
      .release ⟨0⟩, .release ⟨0⟩, .alloc, .release ⟨0⟩, .release ⟨0⟩]
    s.pool.Conserved 1 ∧ s.pool.Accountable ⟨0⟩ := by
  have hnew : new 1 4 = .ok _ := rfl
  refine ⟨_, hnew, ?_⟩
  exact (conserved_of_requests hnew (by decide)).imp_right fun hall => hall ⟨0⟩ (by decide)

/-! ## Slots that are given out -/

/-- Only slots that nobody holds are given out, and a slot that is given back is listed once. -/
structure Exclusive (p : Pool) : Prop where
  fresh : ∀ h p', p.alloc = (some h, p') → p.refs h = 0
  once : p.free.toList.Nodup
  freed : ∀ h, ((release h).exec p).1 = .ok true →
    ((release h).exec p).2.stats.frees = p.stats.frees + 1 ∧
      ((release h).exec p).2.free.toList = p.free.toList ++ [h.index]

lemma Sound.exclusive (hp : p.Sound) : p.Exclusive where
  fresh h p' halloc := by
    obtain ⟨free, hfree, -⟩ := alloc_eq_some halloc
    exact hp.unheld h (hfree ▸ List.mem_cons_self)
  once := hp.free_nodup
  freed h hok := by
    obtain ⟨hstats, hfree⟩ := hp.release_last ((hp.accountable h).last_iff.1 hok)
    exact ⟨congrArg PoolCounts.frees hstats, hfree⟩

lemma Sound.perform {s : History} (hs : s.pool.Sound) {request : Request}
    (ha : s.Admits (fun p h => h.index ∉ p.free.toList) request) :
    (s.perform request).pool.Sound := by
  cases request with
  | alloc => exact hs.alloc
  | fill h sequence raw => exact hs.fill h sequence raw
  | retain h => exact hs.retain ha.2
  | release h => exact hs.release h

/-- A slot of the free list is given out when the ones before it are, even if it is held. -/
lemma exists_alloc_of_mem_free {s : History} (hm : h.index ∈ s.pool.free.toList) :
    ∃ n, let after := (s.performAll (List.replicate n .alloc)).pool
      after.alloc.1 = some h ∧ after.refs h = s.pool.refs h := by
  generalize hfree : s.pool.free.toList = free at hm
  induction free generalizing s with
  | nil => cases hm
  | cons i rest ih =>
    rcases ha : s.pool.alloc with ⟨_ | k, p'⟩
    · rw [(alloc_eq_none ha).1] at hfree
      cases hfree
    · obtain ⟨free, hcons, hp'⟩ := alloc_eq_some ha
      rw [hfree, List.cons.injEq] at hcons
      obtain ⟨hi, hrest⟩ := hcons
      by_cases hk : k = h
      · subst hk
        exact ⟨0, congrArg Prod.fst ha, rfl⟩
      · have hmem : h.index ∈ rest := by
          refine (List.mem_cons.1 hm).resolve_left fun he => hk ?_
          exact Handle.index_injective (hi.symm.trans he.symm)
        have hnext : (s.perform .alloc).pool = p' := congrArg Prod.snd ha
        have hrefs : p'.refs h = s.pool.refs h := by
          rw [hp']
          exact refs_updateSlot_of_ne _ fun he => hk he.symm
        obtain ⟨n, hgiven, hsame⟩ := ih (s := s.perform .alloc) (by rw [hnext, hp', hrest]) hmem
        exact ⟨n + 1, hgiven, hsame.trans (by rw [hnext, hrefs])⟩

/-- A slot is never given out while it is held, the free list has no slot twice, and the last
release of a slot puts it there, as long as no holder is added to a slot of the free list. Adding
one there is what goes wrong: the slot stays on the list and is given out although it is held. -/
theorem exclusive_of_requests {size perSet : Nat} (hnew : new size perSet = .ok p)
    {requests : List Request}
    (ha : (History.start p).AdmitsAll (fun p h => h.index ∉ p.free.toList) requests) :
    let s := (History.start p).performAll requests
    s.pool.Exclusive ∧ ∀ h ∈ s.issued, h.index ∈ s.pool.free.toList →
      ∃ n, let after := (s.performAll (.retain h :: List.replicate n .alloc)).pool
        after.alloc.1 = some h ∧ after.refs h ≠ 0 := by
  intro s
  have hsound : s.pool.Sound :=
    History.performAll_invariant Sound (fun s request hs hadmits => hs.perform hadmits)
      (tidy_new hnew).toSound ha
  refine ⟨hsound.exclusive, fun h _ hm => ?_⟩
  have hlt := hsound.free_lt h hm
  have hunheld := hsound.unheld h hm
  have hheld : (s.pool.retain h).refs h = 1 := by
    rw [Pool.retain, refs_updateSlot_self _ hlt]
    change s.pool.refs h + 1 = 1
    rw [hunheld]
    rfl
  obtain ⟨n, hgiven, hsame⟩ := exists_alloc_of_mem_free (s := s.perform (.retain h)) hm
  have hone : (s.performAll (.retain h :: List.replicate n .alloc)).pool.refs h = 1 :=
    hsame.trans hheld
  exact ⟨n, hgiven, fun hzero => absurd (hone.symm.trans hzero) (by decide)⟩

/-- A set that is shared and released once too often before it is stored again, and a free slot
that is held through the handle it had before. -/
theorem exclusive_of_stale_releases : ∃ p, new 2 1 = .ok p ∧
    let s := (History.start p).performAll [.alloc, .retain ⟨0⟩, .release ⟨0⟩, .release ⟨0⟩,
      .release ⟨0⟩, .alloc, .alloc, .fill ⟨0⟩ 1 [5], .release ⟨0⟩]
    s.pool.Exclusive ∧ ∃ n,
      let after := (s.performAll (.retain ⟨0⟩ :: List.replicate n .alloc)).pool
      after.alloc.1 = some ⟨0⟩ ∧ after.refs ⟨0⟩ ≠ 0 := by
  have hnew : new 2 1 = .ok _ := rfl
  refine ⟨_, hnew, ?_⟩
  exact (exclusive_of_requests hnew (by decide)).imp_right fun hstale =>
    hstale ⟨0⟩ (by decide) (by decide)

/-- Of two slots the first one is held once more after it was freed. Given back while the other one
is in use, it is listed twice, and two users get it. Where the free list is full, a release reports
that it freed the slot and frees none. -/
theorem given_out_twice_after_stale_retain :
    (∃ p, new 2 1 = .ok p ∧
      let requests : List Request := [.alloc, .release ⟨0⟩, .retain ⟨0⟩, .alloc, .release ⟨0⟩]
      let s := (History.start p).performAll requests
      (History.start p).AdmitsAll (fun _ _ => True) requests ∧ s.pool.free.toList = [0, 0] ∧
        (s.perform .alloc).pool.refs ⟨0⟩ = 1 ∧ (s.perform .alloc).pool.alloc.1 = some ⟨0⟩) ∧
    ∃ p, new 1 1 = .ok p ∧
      let requests : List Request := [.alloc, .release ⟨0⟩, .retain ⟨0⟩]
      let s := (History.start p).performAll requests
      (History.start p).AdmitsAll (fun _ _ => True) requests ∧
        ((release ⟨0⟩).exec s.pool).1 = .ok true ∧
        ((release ⟨0⟩).exec s.pool).2.stats = s.pool.stats := by
  have htwo : new 2 1 = .ok _ := rfl
  have hone : new 1 1 = .ok _ := rfl
  exact ⟨⟨_, htwo, by decide, by decide, by decide, by decide⟩,
    ⟨_, hone, by decide, by decide, by decide⟩⟩

end Instrument.Pool
