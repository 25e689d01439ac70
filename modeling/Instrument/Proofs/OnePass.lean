import Instrument.Proofs.QueueRefinement

/-!
# One pass over the sinks

A pass first holds the slot for every sink and lets go again where the post is refused, so the
count of the slot goes up and down on the way. What is left of that is one holder for each sink
that took the handle; the rest of the module reads off what a whole conversion does to the pool
and to the sinks.
-/

namespace Instrument

namespace Pool

variable {p : Pool} {h k : Handle} {n : Nat}

/-- The pool with `n` holders of a slot. -/
def holding (p : Pool) (h : Handle) (n : Nat) : Pool :=
  p.updateSlot h ({ · with refs := UInt32.ofNat n })

lemma updateSlot_updateSlot (p : Pool) (h : Handle) (f g : Slot → Slot) :
    (p.updateSlot h f).updateSlot h g = p.updateSlot h (g ∘ f) := by
  simp only [updateSlot, Pool.mk.injEq, true_and, and_true]
  refine Array.ext_getElem? fun i => ?_
  by_cases hi : h.index.toNat = i
  · simp [Array.getElem?_modify, hi]
  · simp [Array.getElem?_modify, hi]

@[simp] lemma capacity_holding (p : Pool) (h : Handle) (n : Nat) :
    (p.holding h n).capacity = p.capacity :=
  capacity_updateSlot _ _ _

lemma slot_holding_self (n : Nat) (hh : h.index.toNat < p.capacity) :
    (p.holding h n).slot h = { p.slot h with refs := UInt32.ofNat n } :=
  slot_updateSlot_self _ hh

lemma slot_holding_of_ne (n : Nat) (hk : k ≠ h) : (p.holding h n).slot k = p.slot k :=
  slot_updateSlot_of_ne _ hk.symm

lemma refs_holding (hh : h.index.toNat < p.capacity) (hn : n < 2 ^ 32) :
    ((p.holding h n).refs h).toNat = n := by
  rw [refs, slot_holding_self n hh, UInt32.toNat_ofNat']
  exact Nat.mod_eq_of_lt hn

lemma content_holding (p : Pool) (h k : Handle) (n : Nat) :
    (p.holding h n).content k = p.content k :=
  p.content_setRefs h k fun _ => UInt32.ofNat n

lemma retain_holding (p : Pool) (h : Handle) (n : Nat) :
    (p.holding h n).retain h = p.holding h (n + 1) := by
  rw [retain, holding, updateSlot_updateSlot, holding]
  congr 1
  funext slot
  simp only [Function.comp_apply, UInt32.ofNat_add]
  rfl

/-- A slot is stored into alike however many hold it. -/
lemma fill_holding (p : Pool) (h : Handle) (n : Nat) (sequence : UInt16) (raw : List UInt16) :
    ((p.holding h n).fill h sequence raw).2 = (p.fill h sequence raw).2.holding h n := by
  let stored : Pool := { p with store := p.store.write (p.start h) (raw.take p.samplesPerSet) }
  let length := UInt16.ofNat (raw.take p.samplesPerSet).length
  have hfirst : ((p.holding h n).fill h sequence raw).2 =
      (stored.updateSlot h ({ · with refs := UInt32.ofNat n })).updateSlot h
        ({ · with sequence, length }) := rfl
  have hlast : (p.fill h sequence raw).2.holding h n =
      (stored.updateSlot h ({ · with sequence, length })).updateSlot h
        ({ · with refs := UInt32.ofNat n }) := rfl
  rw [hfirst, hlast, updateSlot_updateSlot, updateSlot_updateSlot]
  rfl

lemma leave_holding (hh : h.index.toNat < p.capacity) (n : Nat) :
    (p.holding h (n + 1)).updateSlot h ({ · with refs := (p.holding h (n + 1)).refs h - 1 }) =
      p.holding h n := by
  have hrefs : (p.holding h (n + 1)).refs h - 1 = UInt32.ofNat n := by
    rw [refs, slot_holding_self _ hh, UInt32.ofNat_add]
    exact UInt32.add_sub_cancel _ _
  rw [hrefs, holding, updateSlot_updateSlot, holding]
  rfl

/-- One holder of several leaves. -/
lemma release_holding (hh : h.index.toNat < p.capacity) (hpos : 0 < n) (hn : n + 1 < 2 ^ 32) :
    (release h).exec (p.holding h (n + 1)) = (.ok false, p.holding h n) := by
  have hrefs := refs_holding (p := p) hh hn
  have hzero : (p.holding h (n + 1)).refs h ≠ 0 := fun he => by
    rw [he] at hrefs
    exact absurd hrefs (Nat.succ_ne_zero n).symm
  have hone : (p.holding h (n + 1)).refs h ≠ 1 := fun he => by
    rw [he] at hrefs
    change 1 = n + 1 at hrefs
    omega
  simp only [release, Act.exec, if_neg hzero, if_neg hone, leave_holding hh]

/-- The last holder leaves. -/
lemma release_last (hh : h.index.toNat < p.capacity) :
    (release h).exec (p.holding h 1) = (.ok true, (p.holding h 0).reclaim h) := by
  have hrefs : (p.holding h 1).refs h = 1 := by
    rw [refs, slot_holding_self _ hh]
    rfl
  have hleft := leave_holding hh 0
  have hne : (1 : UInt32) ≠ 0 := by decide
  simp only [hrefs] at hleft
  simp only [release, Act.exec, hrefs, if_neg hne, if_pos, hleft]

end Pool

namespace Mailbox

variable {α : Type}

/-- A sink takes the message if it is below its capacity, and counts the post otherwise. -/
structure Offered (a : α) (m m' : Mailbox α) : Prop where
  same : Same m m'
  messages : m'.messages =
    if m.messages.length < m.capacity then m.messages ++ [a] else m.messages
  overflow : m'.overflow =
    if m.messages.length < m.capacity then m.overflow else m.overflow + 1

lemma offered_post (m : Mailbox α) (a : α) : Offered a m (m.post a).2 := by
  by_cases hroom : m.messages.length < m.capacity
  · have hsize : m.size < m.capacity := m.length_messages ▸ hroom
    rw [post, if_pos hsize]
    exact ⟨⟨rfl, rfl⟩, by rw [if_pos hroom]; exact Queue.toList_push m.queue a,
      by rw [if_pos hroom]⟩
  · have hsize : ¬ m.size < m.capacity := m.length_messages ▸ hroom
    rw [post, if_neg hsize]
    exact ⟨⟨rfl, rfl⟩, by rw [if_neg hroom]; rfl, by rw [if_neg hroom]⟩

end Mailbox

namespace Source

variable {s : Source} {p : Pool} {h : Handle} {n : Nat}

/-- How many sinks are below their capacity. -/
def takers (sinks : List (Mailbox Handle)) : Nat :=
  sinks.countP fun sink => sink.messages.length < sink.capacity

/-! ## The pass -/

/-- An offer leaves one more holder if the sink takes the handle, and as many as before if it
does not. -/
lemma offer_holding (hh : h.index.toNat < p.capacity) (hpos : 0 < n) (hn : n + 1 < 2 ^ 32)
    (sink : Mailbox Handle) :
    (offer h (p.holding h n) sink).2.1 = p.holding h (n + takers [sink]) := by
  rw [offer, Pool.retain_holding]
  by_cases hroom : sink.messages.length < sink.capacity
  · obtain ⟨sink', hpost, -⟩ := Mailbox.post_of_lt hroom h
    have htakers : takers [sink] = 1 := by simp [takers, hroom]
    rw [hpost, htakers]
  · obtain ⟨sink', hpost, -⟩ := Mailbox.post_of_le (Nat.not_lt.1 hroom) h
    have htakers : takers [sink] = 0 := by simp [takers, hroom]
    rw [hpost, htakers]
    simp only [Pool.release_holding hh hpos hn, Nat.add_zero]

lemma takers_cons (sink : Mailbox Handle) (rest : List (Mailbox Handle)) :
    takers (sink :: rest) = takers [sink] + takers rest := by
  rw [← List.singleton_append, takers, List.countP_append, takers, takers]

lemma takers_le (sinks : List (Mailbox Handle)) : takers sinks ≤ sinks.length :=
  List.countP_le_length

/-- The induction is over the sinks still to come; the count of the slot is its own holder and
one for each sink that has taken the handle so far. -/
lemma fanOut_holding (hh : h.index.toNat < p.capacity) (sinks : List (Mailbox Handle))
    (hpos : 0 < n) (hn : n + sinks.length < 2 ^ 32) :
    (fanOut h (p.holding h n) sinks).2.1 = p.holding h (n + takers sinks) := by
  induction sinks generalizing n with
  | nil => rfl
  | cons sink rest ih =>
    rw [List.length_cons] at hn
    have hone : takers [sink] ≤ 1 := takers_le [sink]
    rw [fanOut_cons, offer_holding hh hpos (by omega), ih (by omega) (by omega),
      takers_cons sink rest, Nat.add_assoc]

lemma count_answers (h : Handle) (sinks : List (Mailbox Handle)) :
    (sinks.map fun sink => (sink.post h).1).count true = takers sinks ∧
      (sinks.map fun sink => (sink.post h).1).count false = sinks.length - takers sinks := by
  have htaken : (sinks.map fun sink => (sink.post h).1).count true = takers sinks := by
    rw [List.count, List.countP_map, takers]
    refine List.countP_congr fun sink _ => ?_
    simp [Mailbox.post_fst]
  have hsum := List.count_true_add_count_false (sinks.map fun sink => (sink.post h).1)
  rw [List.length_map, htaken] at hsum
  exact ⟨htaken, by omega⟩

/-! ## The conversion -/

/-- The pool that a pass leaves: the slot goes straight back if no sink took the handle. -/
def settled (p : Pool) (h : Handle) (accepted : Nat) : Pool :=
  if accepted = 0 then (p.holding h 0).reclaim h else p.holding h accepted

/-- The pass lets go of the slot in the end. -/
lemma release_fanOut (hh : h.index.toNat < p.capacity) (sinks : List (Mailbox Handle))
    (hn : sinks.length + 1 < 2 ^ 32) :
    (Pool.release h).exec (fanOut h (p.holding h 1) sinks).2.1 =
      (.ok (takers sinks == 0), settled p h (takers sinks)) := by
  have hle := takers_le sinks
  rw [fanOut_holding hh sinks Nat.one_pos (by omega), Nat.add_comm]
  by_cases hnone : takers sinks = 0
  · rw [hnone, settled, if_pos rfl]
    exact Pool.release_last hh
  · rw [settled, if_neg hnone, Pool.release_holding hh (Nat.pos_of_ne_zero hnone) (by omega),
      beq_eq_false_iff_ne.2 hnone]

/-- The pool with the next free slot taken off the list. -/
def taken (p : Pool) (free : Queue UInt16) : Pool :=
  { p with free, stats.allocs := p.stats.allocs + 1 }

lemma complete_eq {free : Queue UInt16}
    (ha : s.pool.alloc = (some h, (taken s.pool free).holding h 1))
    (hh : h.index.toNat < s.pool.capacity) (hn : s.sinks.length + 1 < 2 ^ 32)
    (raw : List UInt16) :
    s.complete raw =
      (some ⟨s.sequence, takers s.sinks, s.sinks.length - takers s.sinks, takers s.sinks == 0⟩,
        { s with
          pool := settled ((taken s.pool free).fill h s.sequence raw).2 h (takers s.sinks)
          sinks := s.sinks.map fun sink => (sink.post h).2
          conversions := s.conversions + 1, sequence := s.sequence + 1 }) := by
  let stored := ((taken s.pool free).fill h s.sequence raw).2
  have hstored : h.index.toNat < stored.capacity := by
    rw [Pool.capacity_fill]
    exact hh
  have hfill := Pool.fill_holding (taken s.pool free) h 1 s.sequence raw
  obtain ⟨hanswers, hsinks⟩ := fanOut_sinks h (stored.holding h 1) s.sinks
  obtain ⟨haccepted, hrejected⟩ := count_answers h s.sinks
  have hrelease := release_fanOut hstored s.sinks hn
  simp only [complete, ha, hfill]
  rcases hpass : fanOut h (stored.holding h 1) s.sinks with ⟨answers, passed, sinks⟩
  rw [hpass] at hanswers hsinks hrelease
  dsimp only at hanswers hsinks hrelease ⊢
  subst hanswers hsinks
  simp only [hrelease, haccepted, hrejected]
  cases takers s.sinks == 0 <;> rfl

/-- What a conversion does that is stored in the slot `h`, which heads the free list and is
followed there by `rest`. -/
structure Passed (h : Handle) (rest : List UInt16) (raw : List UInt16) (s : Source) (d : Delivery)
    (s' : Source) : Prop where
  sequence : d.sequence = s.sequence
  accepted : d.accepted = s.sinks.countP fun sink => sink.messages.length < sink.capacity
  rejected : d.rejected = s.sinks.countP fun sink => sink.capacity ≤ sink.messages.length
  total : d.accepted + d.rejected = s.sinks.length
  reclaimed : d.reclaimed = true ↔ d.accepted = 0
  sinks : List.Forall₂ (Mailbox.Offered h) s.sinks s'.sinks
  content : s'.pool.content h = (s.sequence, raw.take s.pool.samplesPerSet)
  refs : (s'.pool.refs h).toNat = d.accepted
  free : s'.pool.free.toList = if d.accepted = 0 then rest ++ [h.index] else rest
  stats : s'.pool.stats = { s.pool.stats with
    allocs := s.pool.stats.allocs + 1
    frees := s.pool.stats.frees + if d.accepted = 0 then 1 else 0 }
  others : ∀ k, k ≠ h → s'.pool.slot k = s.pool.slot k ∧ s'.pool.content k = s.pool.content k
  size : s'.pool.capacity = s.pool.capacity ∧ s'.pool.samplesPerSet = s.pool.samplesPerSet
  counters : s' = { s with
    pool := s'.pool, sinks := s'.sinks
    conversions := s.conversions + 1, sequence := s.sequence + 1 }

lemma countP_full (sinks : List (Mailbox Handle)) :
    sinks.countP (fun sink => sink.capacity ≤ sink.messages.length) =
      sinks.length - takers sinks := by
  have hfull : sinks.countP (fun sink => sink.capacity ≤ sink.messages.length) =
      sinks.countP fun sink => ¬ decide (sink.messages.length < sink.capacity) :=
    List.countP_congr fun sink _ => by simp
  have hsum := List.length_eq_countP_add_countP
    (fun sink : Mailbox Handle => decide (sink.messages.length < sink.capacity)) (l := sinks)
  rw [hfull, takers]
  omega

/-- What the free list and the counters of a settled pool are, if the list has room. -/
lemma settled_free (hroom : p.available < p.capacity) (h : Handle) (accepted : Nat) :
    (settled p h accepted).free.toList =
        (if accepted = 0 then p.free.toList ++ [h.index] else p.free.toList) ∧
      (settled p h accepted).stats =
        { p.stats with frees := p.stats.frees + if accepted = 0 then 1 else 0 } := by
  unfold settled
  split
  · have hroom' : (p.holding h 0).available < (p.holding h 0).capacity := by
      rw [Pool.capacity_holding]
      exact hroom
    rw [Pool.reclaim, if_pos hroom']
    exact ⟨Queue.toList_push p.free h.index, rfl⟩
  · exact ⟨rfl, rfl⟩

/-- Apart from the free list and the counters, a settled pool only counts the new holders. -/
lemma settled_keeps {β : Type} (f : Pool → β)
    (hf : ∀ p free stats, f { p with free, stats } = f p) (p : Pool) (h : Handle)
    (accepted : Nat) : f (settled p h accepted) = f (p.holding h accepted) := by
  unfold settled Pool.reclaim
  split
  · next hzero =>
    subst hzero
    split
    · exact hf _ _ _
    · rfl
  · rfl

/-- A conversion is stored in the slot that heads the free list. -/
lemma exists_passed {free : Queue UInt16}
    (ha : s.pool.alloc = (some h, (taken s.pool free).holding h 1))
    (hh : h.index.toNat < s.pool.capacity) (hroom : free.size < s.pool.capacity)
    (hn : s.sinks.length + 1 < 2 ^ 32) (hper : s.pool.samplesPerSet ≤ Pool.maxSize)
    (raw : List UInt16) :
    ∃ d s', s.complete raw = (some d, s') ∧ Passed h free.toList raw s d s' := by
  let stored := ((taken s.pool free).fill h s.sequence raw).2
  have hcapacity : stored.capacity = s.pool.capacity := Pool.capacity_fill _ _ _ _
  have hlt : h.index.toNat < stored.capacity := hcapacity ▸ hh
  have hle := takers_le s.sinks
  obtain ⟨hfree, hstats⟩ := settled_free (p := stored) (hcapacity ▸ hroom) h (takers s.sinks)
  have hslot : ∀ k, k ≠ h → stored.slot k = s.pool.slot k := fun k hk =>
    Pool.slot_updateSlot_of_ne _ hk.symm
  have hcontent : ∀ k, (settled stored h (takers s.sinks)).content k = stored.content k := fun k =>
    (settled_keeps (·.content k) (fun _ _ _ => rfl) _ _ _).trans (Pool.content_holding _ _ _ _)
  refine ⟨_, _, complete_eq ha hh hn raw, ?_⟩
  exact
    { sequence := rfl
      accepted := rfl
      rejected := (countP_full s.sinks).symm
      total := Nat.add_sub_cancel' hle
      reclaimed := beq_iff_eq
      sinks := List.forall₂_map_right_iff.2 (List.forall₂_same.2 fun sink _ =>
        Mailbox.offered_post sink h)
      content := (hcontent h).trans (Pool.content_fill_self hh hper s.sequence raw)
      refs := by
        rw [settled_keeps (·.refs h) fun _ _ _ => rfl]
        exact Pool.refs_holding hlt (by omega)
      free := hfree
      stats := hstats
      others := fun k hk => by
        rw [hcontent k, settled_keeps (·.slot k) fun _ _ _ => rfl, Pool.slot_holding_of_ne _ hk]
        exact ⟨hslot k hk, Pool.content_fill_of_ne hk s.sequence raw⟩
      size := by
        rw [settled_keeps (·.capacity) fun _ _ _ => rfl,
          settled_keeps (·.samplesPerSet) fun _ _ _ => rfl, Pool.capacity_holding]
        exact ⟨hcapacity, rfl⟩
      counters := rfl }

/-- Without a free slot only the counters go on. -/
lemma complete_of_exhausted (hfree : s.pool.free.toList = []) (raw : List UInt16) :
    s.complete raw = (none, { s with
      pool.stats.allocFailed := s.pool.stats.allocFailed + 1
      conversions := s.conversions + 1, sequence := s.sequence + 1 }) := by
  rcases ha : s.pool.alloc with ⟨_ | h, pool⟩
  · obtain ⟨-, rfl⟩ := Pool.alloc_eq_none ha
    exact complete_of_alloc_none ha raw
  · obtain ⟨free, hhead, -⟩ := Pool.alloc_eq_some ha
    rw [hfree] at hhead
    cases hhead

end Source

namespace Refines

variable {owner : Handle → Nat} {s : HandleQueues} {q : ValueQueues}

lemma exists_passed (hr : Refines owner s q) {index : UInt16} {rest : List UInt16}
    (hfree : s.source.pool.free.toList = index :: rest) (raw : List UInt16) :
    ∃ d source, s.source.complete raw = (some d, source) ∧
      Source.Passed ⟨index⟩ rest raw s.source d source := by
  rcases ha : s.source.pool.alloc with ⟨_ | h, pool⟩
  · rw [(Pool.alloc_eq_none ha).1] at hfree
    cases hfree
  · obtain ⟨hlt, hzero⟩ := hr.accounts.free_of_alloc ha
    -- The slot is held by the pass alone, so the rest of the free list is short of one.
    let copies' := Function.update s.copies h 1
    have haccounts : pool.Accounts copies' :=
      hr.accounts.alloc_some ha (Function.update_self ..) fun k hk => Function.update_of_ne hk ..
    have hroom := haccounts.available_lt (h := h) (by simp [copies'])
    obtain ⟨free, hhead, rfl⟩ := Pool.alloc_eq_some ha
    rw [hfree, List.cons.injEq] at hhead
    obtain ⟨rfl, rfl⟩ := hhead
    have hcapacity : s.source.pool.alloc.2.capacity = s.source.pool.capacity :=
      s.source.pool.capacity_alloc
    rw [ha] at hcapacity
    rw [hcapacity] at hroom
    exact Source.exists_passed ha hlt hroom hr.narrow (hr.perSet ▸ hr.perSet_le) raw

end Refines

/-- One conversion, after whatever was converted, fetched, released and consumed before. Without a
free slot it only gets its number and is counted. Otherwise it is stored in the slot at the head of
the free list, every sink below its capacity gets the handle and every other sink counts a refusal,
and the slot goes to the end of the free list if all sinks refused. The counter of a slot has 32
bits and counts a copy for each sink and one more. -/
theorem passed_of_run {size perSet : Nat} {pool : Pool} (hpool : Pool.new size perSet = .ok pool)
    (sinks : List Config.Sink) (hsinks : sinks.length + 1 < 2 ^ 32) (script : List Move)
    (raw : List UInt16) :
    let s := ((HandleQueues.start pool sinks).run script).2.source
    (s.pool.free.toList = [] → s.complete raw = (none, { s with
      pool.stats.allocFailed := s.pool.stats.allocFailed + 1
      conversions := s.conversions + 1, sequence := s.sequence + 1 })) ∧
    ∀ index rest, s.pool.free.toList = index :: rest →
      ∃ d s', s.complete raw = (some d, s') ∧ Source.Passed ⟨index⟩ rest raw s d s' := by
  obtain ⟨owner, hr, -⟩ := (Refines.start hpool hsinks).run script
  exact ⟨fun hfree => Source.complete_of_exhausted hfree raw,
    fun index rest hfree => hr.exists_passed hfree raw⟩

/-- The only slot is fetched from a sink and released, so that the pass stores there again; one sink
has room for a set and the other has none. -/
theorem passed_of_mixed_sinks : ∃ pool, Pool.new 1 2 = .ok pool ∧
    let sinks : List Config.Sink := [⟨"adc", 1⟩, ⟨"log", 0⟩]
    let script : List Move := [.convert [1, 2, 3], .convert [4], .fetch 0, .release 0]
    let s := ((HandleQueues.start pool sinks).run script).2.source
    s.pool.free.toList = [0] ∧ s.sequence = 2 ∧
      ∃ d s', s.complete [5, 6, 7] = (some d, s') ∧ Source.Passed ⟨0⟩ [] [5, 6, 7] s d s' := by
  have hpool : Pool.new 1 2 = .ok _ := rfl
  refine ⟨_, hpool, by decide +kernel, by decide +kernel, ?_⟩
  exact (passed_of_run hpool _ (by decide) _ [5, 6, 7]).2 0 [] (by decide +kernel)

end Instrument
