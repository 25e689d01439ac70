import Instrument.Proofs.OnePass

/-!
# Conversions that nobody consumes

The pool and the sinks fill up together. A set that every sink refuses goes straight back, so the
largest sink decides whether the pool runs dry: with no more slots than that sink takes sets, the
later conversions are dropped, and with more slots they are stored and refused.
-/

namespace Instrument

structure Mailbox.Filled (offers : Nat) (origin : Config.Sink) (sink : Mailbox Handle) : Prop where
  name : sink.name = origin.name
  capacity : sink.capacity = origin.capacity
  pending : sink.size = min offers origin.capacity
  overflow : sink.overflow = offers - min offers origin.capacity

def Config.Sink.largest (sinks : List Config.Sink) : Nat :=
  sinks.foldr (fun sink c => max sink.capacity c) 0

namespace Source

def completeAll : List (List UInt16) → Source → List Delivery × Source
  | [], s => ([], s)
  | raw :: rest, s =>
    let (delivery, s) := s.complete raw
    let (deliveries, s) := completeAll rest s
    (delivery.toList ++ deliveries, s)

variable {sinks : List Config.Sink} {boxes boxes' : List (Mailbox Handle)} {s : Source} {h : Handle}
  {size conversions deliveries offers : Nat}

lemma filled_of_offered {origin : Config.Sink} {sink sink' : Mailbox Handle}
    (hf : sink.Filled offers origin) (ho : Mailbox.Offered h sink sink') :
    sink'.Filled (offers + 1) origin := by
  have hpending := hf.pending
  rw [← Mailbox.length_messages] at hpending
  have hmessages := congrArg List.length ho.messages
  have hoverflow := ho.overflow
  rw [hpending, hf.capacity] at hmessages hoverflow
  refine ⟨ho.same.name.trans hf.name, ho.same.capacity.trans hf.capacity, ?_, ?_⟩
  · rw [← Mailbox.length_messages, hmessages]
    split
    · rw [List.length_append, List.length_singleton, hpending]
      omega
    · omega
  · rw [hoverflow, hf.overflow]
    split <;> omega

lemma forall₂_filled_of_offered (hf : List.Forall₂ (Mailbox.Filled offers) sinks boxes)
    (ho : List.Forall₂ (Mailbox.Offered h) boxes boxes') :
    List.Forall₂ (Mailbox.Filled (offers + 1)) sinks boxes' := by
  induction hf generalizing boxes' with
  | nil =>
    cases ho
    exact .nil
  | cons hsink _ ih =>
    cases ho with
    | cons hoffered hrest => exact .cons (filled_of_offered hsink hoffered) (ih hrest)

lemma takers_eq_zero_iff (hf : List.Forall₂ (Mailbox.Filled offers) sinks boxes) :
    takers boxes = 0 ↔ Config.Sink.largest sinks ≤ offers := by
  induction hf with
  | nil => simp [takers, Config.Sink.largest]
  | @cons origin sink sinks boxes hsink _ ih =>
    have hfull : takers [sink] = 0 ↔ origin.capacity ≤ offers := by
      have hpending := hsink.pending
      rw [← Mailbox.length_messages] at hpending
      rw [takers, List.countP_eq_zero]
      simp only [List.mem_singleton, forall_eq, hpending, hsink.capacity, decide_eq_true_eq]
      omega
    rw [takers_cons, Nat.add_eq_zero_iff, hfull, ih]
    exact max_le_iff.symm

/-! ## Conversions -/

/-- After some conversions of which none was consumed: what is not delivered has found no slot, and
what no sink could take has gone back. -/
structure Unconsumed (size : Nat) (sinks : List Config.Sink) (conversions deliveries : Nat)
    (s : Source) : Prop where
  delivered : deliveries =
    if size ≤ Config.Sink.largest sinks then min conversions size else conversions
  filled : List.Forall₂ (Mailbox.Filled deliveries) sinks s.sinks
  available : s.pool.available = size - min deliveries (Config.Sink.largest sinks)
  frees : s.pool.stats.frees = deliveries - min deliveries (Config.Sink.largest sinks)
  allocFailed : s.pool.stats.allocFailed = conversions - deliveries

lemma unconsumed_new {perSet : Nat} {pool : Pool} (hpool : Pool.new size perSet = .ok pool)
    (sinks : List Config.Sink) :
    Unconsumed size sinks 0 0 (.new pool (sinks.map fun sink => .new sink.name sink.capacity)) := by
  obtain ⟨haccounts, hcapacity, -⟩ := Pool.accounts_new hpool
  obtain ⟨havailable, -⟩ := haccounts.available_eq fun _ => rfl
  have hstats := Pool.stats_new hpool
  refine ⟨by simp, ?_, ?_, ?_, ?_⟩
  · exact List.forall₂_map_right_iff.2 (List.forall₂_same.2 fun sink _ =>
      ⟨rfl, rfl, (Nat.zero_min _).symm, (Nat.zero_sub _).symm⟩)
  · rw [Nat.zero_min, Nat.sub_zero]
    exact havailable.trans hcapacity
  · exact (congrArg PoolCounts.frees hstats).trans (Nat.zero_sub _).symm
  · exact congrArg PoolCounts.allocFailed hstats

namespace Unconsumed

/-- Without a free slot there are no more slots than deliveries, nor than the largest sink takes. -/
lemma complete_of_exhausted (hu : Unconsumed size sinks conversions deliveries s)
    (hfree : s.pool.free.toList = []) (raw : List UInt16) :
    (s.complete raw).1 = none ∧
      Unconsumed size sinks (conversions + 1) deliveries (s.complete raw).2 := by
  have havailable := hu.available
  rw [Pool.available, ← Queue.length_toList, hfree, List.length_nil] at havailable
  have hdelivered := hu.delivered
  have hfailed := hu.allocFailed
  rw [Source.complete_of_exhausted hfree]
  refine ⟨rfl, ?_, hu.filled, hu.available, hu.frees, ?_⟩
  · split at hdelivered
    · next hle =>
      rw [if_pos hle]
      omega
    · omega
  · change s.pool.stats.allocFailed + 1 = _
    split at hdelivered <;> omega

/-- A set that is stored stays in a slot unless the largest sink is full. -/
lemma complete_of_passed (hu : Unconsumed size sinks conversions deliveries s)
    {index : UInt16} {rest raw : List UInt16} {d : Delivery} {s' : Source}
    (hfree : s.pool.free.toList = index :: rest) (hp : Passed ⟨index⟩ rest raw s d s') :
    Unconsumed size sinks (conversions + 1) (deliveries + 1) s' := by
  have havailable := hu.available
  rw [Pool.available, ← Queue.length_toList, hfree, List.length_cons] at havailable
  have hdelivered := hu.delivered
  have hnone : d.accepted = 0 ↔ Config.Sink.largest sinks ≤ deliveries := by
    rw [hp.accepted]
    exact takers_eq_zero_iff hu.filled
  refine ⟨?_, forall₂_filled_of_offered hu.filled hp.sinks, ?_, ?_, ?_⟩
  · split at hdelivered
    · next hle =>
      rw [if_pos hle]
      omega
    · next hlt =>
      rw [if_neg hlt]
      omega
  · rw [Pool.available, ← Queue.length_toList, hp.free]
    split
    · rw [List.length_append, List.length_singleton]
      omega
    · omega
  · rw [hp.stats, hu.frees]
    dsimp only
    split <;> omega
  · rw [hp.stats, hu.allocFailed]
    omega

end Unconsumed

end Source

/-- The number of deliveries and the counters after some conversions follow from the number of
conversions alone; the induction is over the conversions still to come. -/
lemma Refines.completeAll {owner : Handle → Nat} {s : Source} {held : List Handle} {q : ValueQueues}
    {sinks : List Config.Sink} {size conversions deliveries : Nat} (hr : Refines owner ⟨s, held⟩ q)
    (hu : s.Unconsumed size sinks conversions deliveries) (raws : List (List UInt16)) :
    (s.completeAll raws).2.Unconsumed size sinks (conversions + raws.length)
      (deliveries + (s.completeAll raws).1.length) := by
  induction raws generalizing owner s q conversions deliveries with
  | nil => exact hu
  | cons raw rest ih =>
    obtain ⟨owner', hr', -⟩ := hr.convert raw
    simp only [Source.completeAll, List.length_append, List.length_cons]
    cases hfree : s.pool.free.toList with
    | nil =>
      obtain ⟨hd, hu'⟩ := hu.complete_of_exhausted hfree raw
      have hrest := ih hr' hu'
      rw [hd]
      simpa only [Option.toList_none, List.length_nil, Nat.zero_add, Nat.add_assoc,
        Nat.add_comm 1] using hrest
    | cons index free =>
      obtain ⟨d, s', hs, hp⟩ := hr.exists_passed hfree raw
      rw [hs] at hr' ⊢
      have hrest := ih hr' (hu.complete_of_passed hfree hp)
      simpa only [Option.toList_some, List.length_singleton, Nat.add_assoc, Nat.add_comm 1] using
        hrest

/-- Conversions of which no set is consumed. If the largest sink takes as many sets as there are
slots, every slot is delivered once and the other conversions find none free; otherwise all are
delivered, and those that come after the largest sink is full go straight back to the pool. Every
sink takes sets up to its capacity and refuses the others, and the free slots are those that the
largest sink leaves. The counter of a slot has 32 bits and counts a copy for each sink and one
more. -/
theorem exhausted_of_conversions {size perSet : Nat} {pool : Pool}
    (hpool : Pool.new size perSet = .ok pool) (sinks : List Config.Sink)
    (hsinks : sinks.length + 1 < 2 ^ 32) (raws : List (List UInt16)) :
    let start := Source.new pool (sinks.map fun sink => .new sink.name sink.capacity)
    let s := (start.completeAll raws).2
    let delivered := (start.completeAll raws).1.length
    let largest := Config.Sink.largest sinks
    (size ≤ largest → delivered = min raws.length size ∧
      s.pool.stats.allocFailed = raws.length - min raws.length size ∧ s.pool.stats.frees = 0) ∧
    (largest < size → delivered = raws.length ∧
      s.pool.stats.allocFailed = 0 ∧ s.pool.stats.frees = raws.length - min raws.length largest) ∧
    List.Forall₂ (Mailbox.Filled delivered) sinks s.sinks ∧
    s.pool.available = size - min delivered largest := by
  intro start s delivered largest
  have hr : Refines _ ⟨start, []⟩ _ := Refines.start hpool hsinks
  have hu := hr.completeAll (Source.unconsumed_new hpool sinks) raws
  rw [Nat.zero_add, Nat.zero_add] at hu
  have hdelivered := hu.delivered
  refine ⟨fun hle => ?_, fun hlt => ?_, hu.filled, hu.available⟩
  · rw [if_pos hle] at hdelivered
    refine ⟨hdelivered, ?_, ?_⟩
    · rw [hu.allocFailed, hdelivered]
    · rw [hu.frees, hdelivered]
      omega
  · rw [if_neg (Nat.not_le.2 hlt)] at hdelivered
    refine ⟨hdelivered, ?_, ?_⟩
    · rw [hu.allocFailed, hdelivered, Nat.sub_self]
    · rw [hu.frees, hdelivered]

/-- Ten conversions for four slots, first with a sink that takes more sets than there are slots, and
then with sinks that take fewer. -/
theorem exhausted_of_ten_conversions : ∃ pool, Pool.new 4 2 = .ok pool ∧
    let raws : List (List UInt16) := List.replicate 10 [0xabc, 7, 5]
    let run (sinks : List Config.Sink) :=
      (Source.new pool (sinks.map fun sink => .new sink.name sink.capacity)).completeAll raws
    let deep := run [⟨"adc", 16⟩, ⟨"off", 0⟩, ⟨"log", 1⟩]
    let shallow := run [⟨"adc", 1⟩, ⟨"log", 3⟩]
    (deep.1.length = 4 ∧ deep.2.pool.stats.allocFailed = 6 ∧ deep.2.pool.stats.frees = 0) ∧
      shallow.1.length = 10 ∧ shallow.2.pool.stats.allocFailed = 0 ∧
        shallow.2.pool.stats.frees = 7 := by
  have hpool : Pool.new 4 2 = .ok _ := rfl
  refine ⟨_, hpool, ?_, ?_⟩
  · exact (exhausted_of_conversions hpool _ (by decide) _).1 (by decide)
  · exact (exhausted_of_conversions hpool _ (by decide) _).2.1 (by decide)

end Instrument
