import Instrument.Proofs.PoolContents
import Instrument.Proofs.PoolHistory

/-!
# Slots of the flat store

All sets lie in one store, slot after slot, and a slot is found by its number. The stretches of two
slots have no cell in common, and the last one ends where the store ends, so a slot holds what it
was last filled with, whatever else the pool is asked for, and the store never becomes longer than
all slots together. No number is cut on the way: neither a slot's nor that of its samples.
-/

namespace Instrument

namespace SampleStore

variable {s : SampleStore} {start n : Nat}

lemma size_set_le (hs : s.cells.size ≤ n) (hstart : start < n) (v : UInt16) :
    (s.set start v).cells.size ≤ n := by
  unfold set
  by_cases hin : start < s.cells.size
  · rw [if_pos hin, Array.size_setIfInBounds]
    exact hs
  · rw [if_neg hin, Array.size_push, Array.size_append, Array.size_replicate]
    omega

lemma size_write_le {vs : List UInt16} (hs : s.cells.size ≤ n) (hend : start + vs.length ≤ n) :
    (s.write start vs).cells.size ≤ n := by
  induction vs generalizing s start with
  | nil => exact hs
  | cons v vs ih =>
    rw [List.length_cons] at hend
    rw [write]
    apply ih
    · exact size_set_le hs (by omega) v
    · omega

lemma get_write_of_outside {vs : List UInt16} {i : Nat}
    (hi : i < start ∨ start + vs.length ≤ i) : (s.write start vs).get i = s.get i := by
  rw [get_write, if_neg (by omega)]

end SampleStore

namespace Pool

variable {p : Pool} {h k : Handle} {size perSet : Nat}

lemma start_add_le (p : Pool) (hh : h.index.toNat < p.capacity) :
    p.start h + p.samplesPerSet ≤ p.capacity * p.samplesPerSet := by
  rw [start, ← Nat.succ_mul]
  exact Nat.mul_le_mul_right _ hh

/-- A conversion has come into a slot, `n` values of it, and the rest of the pool is as it was. -/
structure Stored (p : Pool) (h : Handle) (sequence : UInt16) (raw : List UInt16) (n : Nat)
    (p' : Pool) : Prop where
  count : n = min raw.length p.samplesPerSet
  length : (p'.slot h).length.toNat = n
  sequence_eq : p'.sequence h = sequence
  samples_eq : p'.samples h = raw.take n
  cells : ∀ i, i < p.start h ∨ p.start h + n ≤ i → p'.store.get i = p.store.get i
  others : ∀ k, k ≠ h → p'.sequence k = p.sequence k ∧ p'.samples k = p.samples k
  refs : ∀ k, p'.refs k = p.refs k

lemma stored_fill (hh : h.index.toNat < p.capacity) (hper : p.samplesPerSet ≤ maxSize)
    (sequence : UInt16) (raw : List UInt16) :
    p.Stored h sequence raw (p.fill h sequence raw).1 (p.fill h sequence raw).2 := by
  have hn : (p.fill h sequence raw).1 = (raw.take p.samplesPerSet).length := rfl
  have hslot := slot_fill_self hh sequence raw
  have hself := content_fill_self hh hper sequence raw
  rw [hn]
  exact
    { count := by rw [List.length_take, min_comm]
      length := by rw [hslot, toNat_length_take hper]
      sequence_eq := congrArg Prod.fst hself
      samples_eq := by
        have hsamples : (p.fill h sequence raw).2.samples h = raw.take p.samplesPerSet :=
          congrArg Prod.snd hself
        rw [hsamples, List.length_take, List.take_eq_take_iff]
        omega
      cells := by
        intro i hi
        exact SampleStore.get_write_of_outside hi
      others := by
        intro k hk
        exact Prod.mk.inj (content_fill_of_ne hk sequence raw)
      refs := by
        intro k
        by_cases hk : k = h
        · rw [hk, refs, hslot, refs]
        · rw [refs, slot_fill_of_ne hk, refs] }

/-- The store goes no further than the slots. -/
def Compact (p : Pool) : Prop :=
  p.store.cells.size ≤ p.capacity * p.samplesPerSet

lemma store_alloc (p : Pool) : p.alloc.2.store = p.store := by
  unfold alloc
  split <;> rfl

lemma store_release (p : Pool) (h : Handle) : ((release h).exec p).2.store = p.store := by
  rcases release_cases p h with hh | hh | hh
  · rw [exec_release_of_unheld hh]
  · rw [exec_release_of_last hh, reclaim]
    split <;> rfl
  · rw [exec_release_of_shared hh]
    rfl

lemma compact_new (hnew : new size perSet = .ok p) : p.Compact := by
  have hstore : p.store = .empty := by
    unfold new at hnew
    split_ifs at hnew
    cases hnew
    rfl
  rw [Compact, hstore]
  exact Nat.zero_le _

/-- The handle that a request is about. -/
def Request.handle? : Request → Option Handle
  | .alloc => none
  | .fill h _ _ => some h
  | .retain h => some h
  | .release h => some h

/-- What a slot holds after a request, if it held `held` before. -/
def Request.leaves (perSet : Nat) (k : Handle) (held : UInt16 × List UInt16) :
    Request → UInt16 × List UInt16
  | .fill h sequence raw => if h = k then (sequence, raw.take perSet) else held
  | _ => held

lemma Compact.fill (hp : p.Compact) (hh : h.index.toNat < p.capacity) (sequence : UInt16)
    (raw : List UInt16) : (p.fill h sequence raw).2.Compact := by
  have hend := p.start_add_le hh
  have hle := List.length_take_le p.samplesPerSet raw
  rw [Compact, capacity_fill]
  exact SampleStore.size_write_le hp ((Nat.add_le_add_left hle _).trans hend)

lemma Compact.perform {s : History} (hs : s.pool.Compact) {request : Request}
    (hin : ∀ h ∈ request.handle?, h.index.toNat < s.pool.capacity) :
    (s.perform request).pool.Compact := by
  have hstore (he : (s.perform request).pool.store = s.pool.store) :
      (s.perform request).pool.Compact := by
    rw [Compact, he, capacity_perform, samplesPerSet_perform]
    exact hs
  cases request with
  | alloc => exact hstore (store_alloc s.pool)
  | fill h sequence raw => exact hs.fill (hin h rfl) sequence raw
  | retain h => exact hstore rfl
  | release h => exact hstore (store_release s.pool h)

lemma content_perform {s : History} (hs : s.pool.Usable) (request : Request)
    (hk : k.index.toNat < s.pool.capacity) : (s.perform request).pool.content k =
      request.leaves s.pool.samplesPerSet k (s.pool.content k) := by
  cases request with
  | alloc => exact content_alloc s.pool k
  | fill h sequence raw =>
    rw [History.perform, Request.leaves]
    by_cases hh : h = k
    · subst hh
      rw [if_pos rfl, content_fill_self hk hs.perSet_le]
    · rw [if_neg hh, content_fill_of_ne (Ne.symm hh)]
  | retain h => exact content_retain s.pool h k
  | release h => exact content_release s.pool h k

lemma compact_performAll {s : History} (hs : s.pool.Compact) {requests : List Request}
    (hin : ∀ request ∈ requests, ∀ h ∈ request.handle?, h.index.toNat < s.pool.capacity) :
    (s.performAll requests).pool.Compact := by
  induction requests generalizing s with
  | nil => exact hs
  | cons request requests ih =>
    refine ih (hs.perform (hin request List.mem_cons_self)) fun r hr => ?_
    rw [capacity_perform]
    exact hin r (List.mem_cons_of_mem _ hr)

/-- A slot holds what it was last filled with, whatever came before and after that. -/
lemma content_performAll {s : History} (hs : s.pool.Usable) (requests : List Request)
    (hk : k.index.toNat < s.pool.capacity) : (s.performAll requests).pool.content k =
      requests.foldl (Request.leaves s.pool.samplesPerSet k) (s.pool.content k) := by
  induction requests generalizing s with
  | nil => rfl
  | cons request requests ih =>
    have hnext : k.index.toNat < (s.perform request).pool.capacity := by
      rwa [capacity_perform]
    have hrest := ih (hs.perform request) hnext
    rw [samplesPerSet_perform, content_perform hs request hk] at hrest
    exact hrest

lemma content_new (hnew : new size perSet = .ok p) (k : Handle) : p.content k = (0, []) := by
  have hslot : p.slot k = ⟨0, 0, 0⟩ := by
    unfold new at hnew
    split_ifs at hnew
    cases hnew
    rw [slot, Array.getD_eq_getD_getElem?, Array.getElem?_replicate]
    split <;> rfl
  rw [content, sequence, samples, hslot]
  change ((0 : UInt16), p.store.read (p.start k) (min 0 p.samplesPerSet)) = (0, [])
  rw [Nat.zero_min]
  rfl

/-- A new pool lists its slots by their numbers, none of which is cut to 16 bits. -/
lemma free_new (hnew : new size perSet = .ok p) :
    p.free.toList.map UInt16.toNat = List.range size := by
  unfold new at hnew
  split_ifs at hnew with hsize hper
  cases hnew
  rw [Queue.toList_ofList, List.map_map]
  conv_rhs => rw [← List.map_id (List.range size)]
  apply List.map_congr_left
  intro i hi
  rw [List.mem_range] at hi
  unfold maxSize at hsize
  rw [Function.comp_apply, UInt16.toNat_ofNat']
  exact Nat.mod_eq_of_lt (by omega)

/-- Filling a slot loses nothing and disturbs nobody. Whatever was asked of a pool of any size
before, the stretch of the slot lies in the store and apart from those of the other slots; as much
of the conversion as the slot takes is read back from it, however long the last one was; and no
other slot, and no count of holders, is changed. So every slot holds what it was last filled
with. -/
theorem lossless_of_requests (hnew : new size perSet = .ok p) {requests : List Request}
    (hin : ∀ request ∈ requests, ∀ h ∈ request.handle?, h.index.toNat < size)
    (hh : h.index.toNat < size) (sequence : UInt16) (raw : List UInt16) :
    let used := ((History.start p).performAll requests).pool
    let filled := used.fill h sequence raw
    p.free.toList.map UInt16.toNat = List.range size ∧
    used.start h + perSet ≤ size * perSet ∧ filled.2.store.cells.size ≤ size * perSet ∧
    (∀ k, k ≠ h → used.start k + perSet ≤ used.start h ∨ used.start h + perSet ≤ used.start k) ∧
    filled.1 = min raw.length perSet ∧ used.Stored h sequence raw filled.1 filled.2 ∧
    ∀ k : Handle, k.index.toNat < size →
      used.content k = requests.foldl (Request.leaves perSet k) (0, []) := by
  intro used filled
  obtain ⟨-, hsize, hper, -⟩ := accounts_new hnew
  have husable : (History.start p).pool.Usable := usable_new hnew
  have hcapacity : used.capacity = size := (shape_performAll _ requests).1.trans hsize
  have hperSet : used.samplesPerSet = perSet := (shape_performAll _ requests).2.trans hper
  have hlt : h.index.toNat < used.capacity := hcapacity ▸ hh
  have hend := used.start_add_le hlt
  have hcompact : used.Compact := by
    refine compact_performAll (compact_new hnew) fun request hr k hk => ?_
    change k.index.toNat < p.capacity
    rw [hsize]
    exact hin request hr k hk
  have hcells := hcompact.fill hlt sequence raw
  have hused : used.Usable :=
    History.performAll_induction (fun _ request hs => hs.perform request) husable requests
  have hstored : used.Stored h sequence raw filled.1 filled.2 :=
    stored_fill hlt hused.perSet_le sequence raw
  rw [Compact, capacity_fill] at hcells
  rw [← hcapacity, ← hperSet]
  refine ⟨?_, hend, hcells, fun k hk => used.start_apart hk, hstored.count, hstored, ?_⟩
  · rw [hcapacity]
    exact free_new hnew
  · intro k hk
    rw [hperSet, ← hper, ← content_new hnew k]
    exact content_performAll husable requests (hsize.symm ▸ hcapacity ▸ hk)

/-- A slot that was overfilled takes a shorter conversion, beside a neighbour that is in use. -/
theorem lossless_of_shorter_fill : ∃ p, new 2 3 = .ok p ∧
    let used := ((History.start p).performAll [.alloc, .fill ⟨0⟩ 9 [1, 2, 3, 4], .alloc,
      .fill ⟨1⟩ 8 [5]]).pool
    used.content ⟨0⟩ = (9, [1, 2, 3]) ∧ used.content ⟨1⟩ = (8, [5]) ∧
      used.Stored ⟨0⟩ 10 [6] 1 (used.fill ⟨0⟩ 10 [6]).2 := by
  have hnew : new 2 3 = .ok _ := rfl
  have hin : ∀ request ∈ ([.alloc, .fill ⟨0⟩ 9 [1, 2, 3, 4], .alloc, .fill ⟨1⟩ 8 [5]] :
      List Request), ∀ h ∈ request.handle?, h.index.toNat < 2 := by decide
  refine ⟨_, hnew, ?_⟩
  intro used
  obtain ⟨-, -, -, -, hn, hstored, hcontent⟩ :=
    lossless_of_requests hnew hin (h := ⟨0⟩) (by decide) 10 [6]
  rw [hn] at hstored
  exact ⟨hcontent ⟨0⟩ (by decide), hcontent ⟨1⟩ (by decide), hstored⟩

end Pool

end Instrument
