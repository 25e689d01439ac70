import Instrument.Proofs.OnePass

/-!
# A source among other users of its pool

Conversions, faults and consumers come in any order, and others may take slots of the same pool.
Whatever happens, at most one thing changes in the queue of a sink, read as the numbers of its
sets: a fetch takes the head away, and a conversion appends its own number.
-/

namespace Instrument

/-- What happens around a source. -/
inductive Incident where
  | move (move : Move)
  | fault (fault : ConversionFault)
  /-- Another user of the pool takes a slot, if one is free, and stores a set there. The handle is
  held until it is released. -/
  | borrow (sequence : UInt16) (raw : List UInt16)

/-- What is converted, if the incident is a conversion. -/
def Incident.raw? : Incident → Option (List UInt16)
  | .move m => m.raw?
  | _ => none

/-- Whether another user asks the pool for a slot. -/
def Incident.borrows : Incident → Bool
  | .borrow _ _ => true
  | _ => false

namespace Pool

/-- How often a slot was asked for. -/
def requests (p : Pool) : Nat :=
  p.stats.allocs + p.stats.allocFailed

lemma requests_alloc (p : Pool) : p.alloc.2.requests = p.requests + 1 := by
  unfold alloc
  split
  · exact (Nat.add_assoc _ _ _).symm
  · exact Nat.add_right_comm _ _ _

lemma requests_release (p : Pool) (h : Handle) :
    ((release h).exec p).2.requests = p.requests := by
  simp only [release, Act.exec, reclaim]
  split
  · rfl
  · split
    · split <;> rfl
    · rfl

end Pool

namespace Source

lemma requests_offer (h : Handle) (pool : Pool) (sink : Mailbox Handle) :
    (offer h pool sink).2.1.requests = pool.requests := by
  unfold offer
  rcases sink.post h with ⟨_ | _, sink'⟩
  · exact Pool.requests_release _ h
  · rfl

/-- A conversion takes the next number and asks for one slot, whatever becomes of it. -/
lemma complete_counters (s : Source) (raw : List UInt16) :
    (s.complete raw).2.sequence = s.sequence + 1 ∧
      (s.complete raw).2.conversions = s.conversions + 1 ∧
      (s.complete raw).2.sinks.length = s.sinks.length ∧
      (s.complete raw).2.pool.requests = s.pool.requests + 1 ∧
      ∀ d, (s.complete raw).1 = some d → d.sequence = s.sequence := by
  have hrequests := s.pool.requests_alloc
  rcases ha : s.pool.alloc with ⟨_ | h, pool⟩
  · rw [ha] at hrequests
    rw [complete_of_alloc_none ha]
    exact ⟨rfl, rfl, rfl, hrequests, nofun⟩
  · rw [ha] at hrequests
    let filled := (pool.fill h s.sequence raw).2
    have hpass : (fanOut h filled s.sinks).2.1.requests = filled.requests :=
      fanOut_keeps (·.requests) (fun pool sink => requests_offer h pool sink) filled s.sinks
    have hreleased := Pool.requests_release (fanOut h filled s.sinks).2.1 h
    have hsinks : (fanOut h filled s.sinks).2.2.length = s.sinks.length := by
      rw [(fanOut_sinks h filled s.sinks).2, List.length_map]
    simp only [complete, ha]
    refine ⟨trivial, trivial, hsinks, (hreleased.trans hpass).trans hrequests, ?_⟩
    rintro d ⟨⟩
    rfl

end Source

/-! ## Incidents -/

namespace HandleQueues

def happen (s : HandleQueues) : Incident → HandleQueues
  | .move move => (s.step move).2
  | .fault fault => { s with source := s.source.fault fault }
  | .borrow sequence raw =>
    match s.source.pool.alloc with
    | (none, pool) => { s with source.pool := pool }
    | (some h, pool) => ⟨{ s.source with pool := (pool.fill h sequence raw).2 }, h :: s.held⟩

/-- The numbers of the sets that wait in the sink at a position, the oldest first. -/
def waiting (s : HandleQueues) (i : Nat) : List UInt16 :=
  ((s.source.sinks[i]?).map fun sink => sink.messages.map s.source.pool.sequence).getD []

/-- How many sets the sink at a position has refused. -/
def refusals (s : HandleQueues) (i : Nat) : Nat :=
  ((s.source.sinks[i]?).map (·.overflow)).getD 0

/-- The number of the set that an incident takes from the sink at a position. -/
def yielded? (s : HandleQueues) (i : Nat) : Incident → Option UInt16
  | .move (.fetch j) => if j = i then (s.source.fetch j).1.map s.source.pool.sequence else none
  | .move (.consume j _ _) =>
    if j = i then (s.source.fetch j).1.map s.source.pool.sequence else none
  | _ => none

variable {s s' : HandleQueues} {h : Handle} {i : Nat}

lemma waiting_eq {sink : Mailbox Handle} (hi : s.source.sinks[i]? = some sink) :
    s.waiting i = sink.messages.map s.source.pool.sequence := by
  rw [waiting, hi]
  rfl

lemma refusals_eq {sink : Mailbox Handle} (hi : s.source.sinks[i]? = some sink) :
    s.refusals i = sink.overflow := by
  rw [refusals, hi]
  rfl

lemma copies_pos_of_mem {sink : Mailbox Handle} (hi : s.source.sinks[i]? = some sink)
    (hh : h ∈ sink.messages) : 0 < s.copies h :=
  copies_pos_iff.2 (List.mem_append_right _
    (List.mem_flatMap.2 ⟨sink, List.mem_of_getElem? hi, hh⟩))

/-- As long as a handle is queued, nothing else is stored in its slot. -/
lemma waiting_congr (hsinks : s'.source.sinks = s.source.sinks)
    (hcontent : ∀ k, 0 < s.copies k → s'.source.pool.content k = s.source.pool.content k)
    (i : Nat) : s'.waiting i = s.waiting i := by
  cases hi : s.source.sinks[i]? with
  | none => rw [waiting, waiting, hsinks, hi]; rfl
  | some sink =>
    rw [waiting_eq hi, waiting_eq (hsinks ▸ hi)]
    exact List.map_congr_left fun k hk =>
      congrArg Prod.fst (hcontent k (copies_pos_of_mem hi hk))

/-- What becomes of a conversion: it finds no slot, or it is stored in one that nobody held and
offered to every sink. -/
lemma Counted.complete_cases (hs : s.Counted) (raw : List UInt16) :
    (∃ pool, s.source.complete raw = (none, { s.source with
        pool, conversions := s.source.conversions + 1, sequence := s.source.sequence + 1 }) ∧
      pool.samplesPerSet = s.source.pool.samplesPerSet ∧
      ∀ k, pool.content k = s.source.pool.content k) ∨
    ∃ h d pool, s.copies h = 0 ∧ s.source.complete raw = (some d, { s.source with
        pool, sinks := s.source.sinks.map fun sink => (sink.post h).2
        conversions := s.source.conversions + 1, sequence := s.source.sequence + 1 }) ∧
      pool.samplesPerSet = s.source.pool.samplesPerSet ∧
      pool.sequence h = s.source.sequence ∧
      ∀ k, k ≠ h → pool.content k = s.source.pool.content k := by
  rcases ha : s.source.pool.alloc with ⟨_ | h, pool⟩
  · have hpool : s.source.pool.alloc.2 = pool := by rw [ha]
    refine .inl ⟨pool, Source.complete_of_alloc_none ha raw, ?_, fun k => ?_⟩
    · exact hpool ▸ s.source.pool.samplesPerSet_alloc
    · exact hpool ▸ s.source.pool.content_alloc k
  · obtain ⟨hlt, hzero⟩ := hs.accounts.free_of_alloc ha
    obtain ⟨reclaimed, pool', hcomplete, -, hperSet, hself, hother⟩ :=
      Source.exists_complete ha hlt hs.perSet_le raw
    exact .inr ⟨h, _, pool', hzero, hcomplete, hperSet, congrArg Prod.fst hself, hother⟩

lemma Counted.complete (hs : s.Counted) (raw : List UInt16) :
    Counted { s with source := (s.source.complete raw).2 } := by
  obtain ⟨haccounts, -⟩ := hs.accounts_complete raw
  obtain ⟨-, -, hsinks, -⟩ := s.source.complete_counters raw
  refine ⟨haccounts, hsinks.symm ▸ hs.narrow, ?_⟩
  rcases hs.complete_cases raw with ⟨pool, hc, hperSet, -⟩ | ⟨h, d, pool, -, hc, hperSet, -⟩
  · rw [hc]
    exact hperSet.trans_le hs.perSet_le
  · rw [hc]
    exact hperSet.trans_le hs.perSet_le

/-- A conversion finds no slot, or the sink takes it under its number, or the sink refuses it. -/
lemma Counted.complete_at (hs : s.Counted) (raw : List UInt16) (hi : i < s.source.sinks.length)
    (hs' : s' = { s with source := (s.source.complete raw).2 }) :
    ((s.source.complete raw).1 = none ∧ s'.waiting i = s.waiting i ∧
      s'.refusals i = s.refusals i) ∨
    ((s.source.complete raw).1.isSome ∧ s'.waiting i = s.waiting i ++ [s.source.sequence] ∧
      s'.refusals i = s.refusals i) ∨
    ((s.source.complete raw).1.isSome ∧ s'.waiting i = s.waiting i ∧
      s'.refusals i = s.refusals i + 1) := by
  rcases hs.complete_cases raw with
    ⟨pool, hc, -, hcontent⟩ | ⟨h, d, pool, hzero, hc, -, hself, hother⟩
  · rw [hc] at hs' ⊢
    have hsinks : s'.source.sinks = s.source.sinks := congrArg (·.source.sinks) hs'
    have hkept : ∀ k, s'.source.pool.content k = s.source.pool.content k := hs' ▸ hcontent
    refine .inl ⟨rfl, waiting_congr hsinks (fun k _ => hkept k) i, ?_⟩
    rw [refusals, refusals, hsinks]
  · rw [hc] at hs' ⊢
    have hget := List.getElem?_eq_getElem hi
    generalize s.source.sinks[i] = sink at hget
    have hget' : s'.source.sinks[i]? = some (sink.post h).2 := by
      subst hs'
      rw [List.getElem?_map, hget, Option.map_some]
    have ho := sink.offered_post h
    have hsame : sink.messages.map s'.source.pool.sequence =
        sink.messages.map s.source.pool.sequence := by
      subst hs'
      refine List.map_congr_left fun k hk => congrArg Prod.fst (hother k ?_)
      rintro rfl
      exact (copies_pos_of_mem hget hk).ne' hzero
    have hnew : s'.source.pool.sequence h = s.source.sequence := by
      subst hs'
      exact hself
    have hwaiting := waiting_eq hget'
    have hrefusals := refusals_eq hget'
    rw [ho.messages] at hwaiting
    rw [ho.overflow] at hrefusals
    rw [waiting_eq hget, refusals_eq hget]
    by_cases hroom : sink.messages.length < sink.capacity
    · rw [if_pos hroom, List.map_append, hsame] at hwaiting
      rw [if_pos hroom] at hrefusals
      rw [← hnew]
      exact .inr (.inl ⟨rfl, hwaiting, hrefusals⟩)
    · rw [if_neg hroom, hsame] at hwaiting
      rw [if_neg hroom] at hrefusals
      exact .inr (.inr ⟨rfl, hwaiting, hrefusals⟩)

/-- A fetch takes the head of one queue. -/
lemma waiting_fetch {j : Nat} {source : Source} (hf : s.source.fetch j = (some h, source))
    (held : List Handle) (i : Nat) :
    (if j = i then some (s.source.pool.sequence h) else none).toList ++ waiting ⟨source, held⟩ i =
      s.waiting i := by
  obtain ⟨sink, sink', hj, hmessages, -, rfl⟩ := Source.fetch_eq_some hf
  by_cases hij : j = i
  · subst hij
    have hj' : (s.source.sinks.set j sink')[j]? = some sink' :=
      List.getElem?_set_self (List.getElem?_eq_some_iff.1 hj).1
    rw [if_pos rfl, waiting_eq hj, waiting_eq hj', hmessages]
    rfl
  · have hi' : (s.source.sinks.set j sink')[i]? = s.source.sinks[i]? := List.getElem?_set_ne hij
    rw [if_neg hij, waiting, hi']
    rfl

/-- A release touches neither the queues nor what is stored. -/
lemma waiting_release (source : Source) (h : Handle) (held held' : List Handle) (i : Nat) :
    waiting ⟨((Source.release h).exec source).2, held⟩ i = waiting ⟨source, held'⟩ i := by
  refine waiting_congr ?_ (fun k _ => ?_) i
  · rfl
  · exact Pool.content_release _ h k

lemma step_fetch_of_none {source : Source} (hf : s.source.fetch i = (none, source)) :
    (s.step (.fetch i)).2 = s := by
  obtain ⟨rfl, -⟩ := Source.fetch_eq_none hf
  simp only [step, hf]

lemma step_fetch_of_some {source : Source} (hf : s.source.fetch i = (some h, source)) :
    (s.step (.fetch i)).2 = ⟨source, h :: s.held⟩ := by
  simp only [step, hf]

lemma step_consume_of_none {source : Source} (hf : s.source.fetch i = (none, source))
    (tag : String) (console : Console) : (s.step (.consume i tag console)).2 = s := by
  obtain ⟨rfl, -⟩ := Source.fetch_eq_none hf
  simp only [step, Consumer.consume, Act.exec, hf]

/-- What a consumer does is a fetch and a release. -/
lemma step_consume_of_some {source : Source} (hf : s.source.fetch i = (some h, source))
    (tag : String) (console : Console) :
    (s.step (.consume i tag console)).2 = ⟨((Source.release h).exec source).2, s.held⟩ := by
  simp only [step, Consumer.consume, Act.exec, hf]

lemma step_release (s : HandleQueues) (place : Nat) :
    (s.step (.release place)).2 = s ∨ ∃ h, s.held[place]? = some h ∧
      (s.step (.release place)).2 =
        ⟨((Source.release h).exec s.source).2, s.held.eraseIdx place⟩ := by
  simp only [step]
  cases hplace : s.held[place]? with
  | none => exact .inl rfl
  | some h => exact .inr ⟨h, rfl, rfl⟩

lemma happen_borrow_of_none {pool : Pool} (ha : s.source.pool.alloc = (none, pool))
    (sequence : UInt16) (raw : List UInt16) :
    s.happen (.borrow sequence raw) = { s with source.pool := pool } := by
  simp only [happen, ha]

lemma happen_borrow_of_some {pool : Pool} (ha : s.source.pool.alloc = (some h, pool))
    (sequence : UInt16) (raw : List UInt16) :
    s.happen (.borrow sequence raw) =
      ⟨{ s.source with pool := (pool.fill h sequence raw).2 }, h :: s.held⟩ := by
  simp only [happen, ha]

namespace Counted

lemma borrow (hs : s.Counted) (sequence : UInt16) (raw : List UInt16) :
    (s.happen (.borrow sequence raw)).Counted := by
  have hperSet := s.source.pool.samplesPerSet_alloc
  rcases ha : s.source.pool.alloc with ⟨_ | h, pool⟩
  · rw [ha] at hperSet
    rw [happen_borrow_of_none ha]
    exact ⟨(hs.accounts.alloc_none ha).1, hs.narrow, hperSet.trans_le hs.perSet_le⟩
  · rw [ha] at hperSet
    rw [happen_borrow_of_some ha]
    have hzero := (hs.accounts.free_of_alloc ha).2
    let s' : HandleQueues :=
      ⟨{ s.source with pool := (pool.fill h sequence raw).2 }, h :: s.held⟩
    have hself : s'.copies h = 1 := by
      simp only [copies, s', List.count_cons_self] at hzero ⊢
      omega
    have hother : ∀ k, k ≠ h → s'.copies k = s.copies k := fun k hk => by
      simp only [copies, s', List.count_cons_of_ne (Ne.symm hk)]
    have haccounts : pool.Accounts s'.copies := hs.accounts.alloc_some ha hself hother
    exact ⟨haccounts.fill (hself ▸ Nat.one_pos) sequence raw, hs.narrow,
      hperSet.trans_le hs.perSet_le⟩

/-- Whatever happens, every slot goes on counting its copies. -/
lemma happen (hs : s.Counted) (incident : Incident) : (s.happen incident).Counted := by
  cases incident with
  | move move =>
    cases move with
    | convert raw => exact hs.complete raw
    | fetch i =>
      change (s.step (.fetch i)).2.Counted
      rcases hf : s.source.fetch i with ⟨_ | h, source⟩
      · rwa [step_fetch_of_none hf]
      · rw [step_fetch_of_some hf]
        exact hs.fetch hf
    | release place =>
      change (s.step (.release place)).2.Counted
      rcases s.step_release place with hsame | ⟨h, hplace, hleft⟩
      · rwa [hsame]
      · rw [hleft]
        exact (hs.release hplace).2
    | consume i tag console =>
      change (s.step (.consume i tag console)).2.Counted
      rcases hf : s.source.fetch i with ⟨_ | h, source⟩
      · rwa [step_consume_of_none hf]
      · rw [step_consume_of_some hf]
        have hplace : (h :: s.held)[0]? = some h := rfl
        exact ((hs.fetch hf).release hplace).2
  | fault fault => cases fault <;> exact ⟨hs.accounts, hs.narrow, hs.perSet_le⟩
  | borrow sequence raw => exact hs.borrow sequence raw

/-- Without a conversion nothing changes in a queue but that its head may be taken. -/
lemma waiting_happen (hs : s.Counted) {incident : Incident}
    (hincident : incident.raw? = none) (i : Nat) :
    (s.yielded? i incident).toList ++ (s.happen incident).waiting i = s.waiting i := by
  cases incident with
  | move move =>
    cases move with
    | convert raw => cases hincident
    | fetch j =>
      change _ ++ (s.step (.fetch j)).2.waiting i = _
      rw [yielded?]
      rcases hf : s.source.fetch j with ⟨_ | h, source⟩
      · rw [step_fetch_of_none hf, Option.map_none, ite_self]
        rfl
      · rw [step_fetch_of_some hf]
        exact waiting_fetch hf _ i
    | release place =>
      change (s.step (.release place)).2.waiting i = _
      rcases s.step_release place with hsame | ⟨h, -, hleft⟩
      · rw [hsame]
      · rw [hleft]
        exact waiting_release s.source h _ s.held i
    | consume j tag console =>
      change _ ++ (s.step (.consume j tag console)).2.waiting i = _
      rw [yielded?]
      rcases hf : s.source.fetch j with ⟨_ | h, source⟩
      · rw [step_consume_of_none hf, Option.map_none, ite_self]
        rfl
      · rw [step_consume_of_some hf, waiting_release source h _ s.held]
        exact waiting_fetch hf _ i
  | fault fault => cases fault <;> rfl
  | borrow sequence raw =>
    change (s.happen (.borrow sequence raw)).waiting i = _
    have hcontent := s.source.pool.content_alloc
    rcases ha : s.source.pool.alloc with ⟨_ | h, pool⟩
    · rw [ha] at hcontent
      have hsinks : (s.happen (.borrow sequence raw)).source.sinks = s.source.sinks := by
        rw [happen_borrow_of_none ha]
      refine waiting_congr hsinks (fun k _ => ?_) i
      rw [happen_borrow_of_none ha]
      exact hcontent k
    · rw [ha] at hcontent
      have hsinks : (s.happen (.borrow sequence raw)).source.sinks = s.source.sinks := by
        rw [happen_borrow_of_some ha]
      refine waiting_congr hsinks (fun k hk => ?_) i
      rw [happen_borrow_of_some ha]
      refine (Pool.content_fill_of_ne ?_ sequence raw).trans (hcontent k)
      rintro rfl
      exact hk.ne' (hs.accounts.free_of_alloc ha).2

end Counted

/-- Without a conversion the source counts nothing, and only other users ask for slots. -/
lemma counters_happen {incident : Incident} (hincident : incident.raw? = none)
    (s : HandleQueues) :
    (s.happen incident).source.sequence = s.source.sequence ∧
      (s.happen incident).source.conversions = s.source.conversions ∧
      (s.happen incident).source.sinks.length = s.source.sinks.length ∧
      (s.happen incident).source.pool.requests =
        s.source.pool.requests + if incident.borrows then 1 else 0 := by
  cases incident with
  | move move =>
    cases move with
    | convert raw => cases hincident
    | fetch i =>
      simp only [happen]
      rcases hf : s.source.fetch i with ⟨_ | h, source⟩
      · rw [step_fetch_of_none hf]
        exact ⟨rfl, rfl, rfl, rfl⟩
      · rw [step_fetch_of_some hf]
        obtain ⟨sink, sink', -, -, -, rfl⟩ := Source.fetch_eq_some hf
        exact ⟨rfl, rfl, List.length_set .., rfl⟩
    | release place =>
      simp only [happen]
      rcases s.step_release place with hsame | ⟨h, -, hleft⟩
      · rw [hsame]
        exact ⟨rfl, rfl, rfl, rfl⟩
      · rw [hleft]
        exact ⟨rfl, rfl, rfl, Pool.requests_release _ h⟩
    | consume i tag console =>
      simp only [happen]
      rcases hf : s.source.fetch i with ⟨_ | h, source⟩
      · rw [step_consume_of_none hf]
        exact ⟨rfl, rfl, rfl, rfl⟩
      · rw [step_consume_of_some hf]
        obtain ⟨sink, sink', -, -, -, rfl⟩ := Source.fetch_eq_some hf
        exact ⟨rfl, rfl, List.length_set .., Pool.requests_release _ h⟩
  | fault fault => cases fault <;> exact ⟨rfl, rfl, rfl, rfl⟩
  | borrow sequence raw =>
    have hrequests := s.source.pool.requests_alloc
    rcases ha : s.source.pool.alloc with ⟨_ | h, pool⟩
    · rw [ha] at hrequests
      rw [happen_borrow_of_none ha]
      exact ⟨rfl, rfl, rfl, hrequests⟩
    · rw [ha] at hrequests
      rw [happen_borrow_of_some ha]
      exact ⟨rfl, rfl, rfl, hrequests⟩

end HandleQueues

end Instrument
