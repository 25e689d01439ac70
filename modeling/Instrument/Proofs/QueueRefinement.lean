import Instrument.Proofs.HandleQueues
import Mathlib.Data.Bool.Count

/-!
# The pipeline behaves like queues of conversions

A slot is not given out as long as a copy of its handle is queued or held, so what is read back
through the handle is still what was stored. Every move of the pipeline therefore answers what the
queues of conversions answer.
-/

namespace Instrument

variable {owner : Handle → Nat} {s : HandleQueues} {q : ValueQueues} {h : Handle}

namespace Refines

lemma sequence_succ (hr : Refines owner s q) (raw : List UInt16) :
    s.source.sequence + 1 = UInt16.ofNat (q.raws ++ [raw]).length := by
  rw [hr.sequence, List.length_append, List.length_singleton, UInt16.ofNat_add]
  rfl

lemma convert_dropped (hr : Refines owner s q) {pool : Pool}
    (ha : s.source.pool.alloc = (none, pool)) (raw : List UInt16) :
    Refines owner { s with source := (s.source.complete raw).2 } (q.convert raw).2 ∧
      (s.source.complete raw).1 = (q.convert raw).1 := by
  obtain ⟨haccounts, -⟩ := hr.counted.accounts_complete raw
  have hlive := hr.length_live
  have hq : q.convert raw = (none, { q with raws := q.raws ++ [raw] }) := by
    have hfull := (hr.accounts.alloc_none ha).2
    rw [ValueQueues.convert, if_neg (by omega)]
  have hraws : ({ q with raws := q.raws ++ [raw] } : ValueQueues).raws = q.raws ++ [raw] := rfl
  have hpool : s.source.pool.alloc.2 = pool := by rw [ha]
  rw [Source.complete_of_alloc_none ha] at haccounts ⊢
  rw [hq]
  refine ⟨?_, rfl⟩
  exact
    { accounts := haccounts
      narrow := hr.narrow
      size := (hpool ▸ s.source.pool.capacity_alloc).trans hr.size
      perSet := (hpool ▸ s.source.pool.samplesPerSet_alloc).trans hr.perSet
      perSet_le := hr.perSet_le
      sequence := hr.sequence_succ raw
      sinks := hr.sinks
      held := hr.held
      content := fun k hk => by
        have hkept : pool.content k = s.source.pool.content k := hpool ▸ Pool.content_alloc _ k
        have hvalue := ValueQueues.value_of_lt hraws rfl (hr.older k hk)
        exact hkept.trans ((hr.content k hk).trans hvalue.symm)
      older := fun k hk => by
        rw [List.length_append]
        exact Nat.lt_add_right _ (hr.older k hk)
      injective := hr.injective }

lemma map_post_fst (hr : Refines owner s q) (h : Handle) :
    s.source.sinks.map (fun sink => (sink.post h).1) = q.sinks.map (·.hasRoom) := by
  have hviews := congrArg (List.map SinkView.hasRoom) hr.sinks
  rw [List.map_map, List.map_map] at hviews
  refine Eq.trans (List.map_congr_left fun sink _ => ?_) hviews
  exact (SinkView.hasRoom_mailbox owner sink h).symm

/-- Posting a handle to every sink posts to every queue what it stands for. -/
lemma map_view_post (hr : Refines owner s q) {owner' : Handle → Nat}
    (howner : ∀ k ∈ Source.queued s.source.sinks, owner' k = owner k) :
    (s.source.sinks.map fun sink => (sink.post h).2).map (Mailbox.view owner') =
      (q.sinks.map (·.post (owner' h))).map ValueSink.view := by
  have hpost : ∀ sink ∈ s.source.sinks, (sink.post h).2.view owner' =
      SinkView.post (owner' h) (sink.view owner) := fun sink hsink =>
    SinkView.view_mailbox_post h fun k hk => howner k (List.mem_flatMap.2 ⟨sink, hsink, hk⟩)
  calc (s.source.sinks.map fun sink => (sink.post h).2).map (Mailbox.view owner')
      = (s.source.sinks.map (Mailbox.view owner)).map (SinkView.post (owner' h)) := by
        rw [List.map_map, List.map_map]
        exact List.map_congr_left hpost
    _ = (q.sinks.map ValueSink.view).map (SinkView.post (owner' h)) := by rw [hr.sinks]
    _ = (q.sinks.map (·.post (owner' h))).map ValueSink.view := by
        rw [List.map_map, List.map_map]
        exact List.map_congr_left fun v _ => (SinkView.view_post (owner' h) v).symm

lemma delivery_eq (hr : Refines owner s q) (h : Handle) {reclaimed : Bool}
    (hreclaimed : reclaimed = ((s.source.sinks.map fun sink => (sink.post h).1).count true == 0)) :
    (⟨s.source.sequence, (s.source.sinks.map fun sink => (sink.post h).1).count true,
        (s.source.sinks.map fun sink => (sink.post h).1).count false, reclaimed⟩ : Delivery) =
      ⟨UInt16.ofNat q.raws.length, q.sinks.countP (·.hasRoom),
        q.sinks.length - q.sinks.countP (·.hasRoom), q.sinks.countP (·.hasRoom) == 0⟩ := by
  have hcount : (q.sinks.map (·.hasRoom)).count true = q.sinks.countP (·.hasRoom) := by
    rw [List.count, List.countP_map]
    exact List.countP_congr fun v _ => by simp
  have hsum := List.count_true_add_count_false (q.sinks.map (·.hasRoom))
  rw [List.length_map, hcount] at hsum
  rw [hreclaimed, hr.map_post_fst, hcount, hr.sequence, ← hsum, Nat.add_sub_cancel_left]

/-- A handle with copies after a post is the posted one or had copies before. -/
lemma copies_pos_of_post {s' : HandleQueues} {k : Handle} (hheld : s'.held = s.held)
    (hsinks : s'.source.sinks = s.source.sinks.map fun sink => (sink.post h).2)
    (hk : 0 < s'.copies k) (hne : k ≠ h) : 0 < s.copies k := by
  rw [HandleQueues.copies_pos_iff, List.mem_append] at hk ⊢
  rw [hheld, hsinks] at hk
  cases hk with
  | inl hk => exact .inl hk
  | inr hk => exact .inr ((Source.mem_queued_post hk).resolve_left hne)

/-- The newest conversion is unlike all the others. -/
lemma eq_of_update_eq {n : Nat} {k l : Handle} (hk : k ≠ h → owner k < n) (hl : l ≠ h → owner l < n)
    (hinjective : k ≠ h → l ≠ h → owner k = owner l → k = l)
    (he : Function.update owner h n k = Function.update owner h n l) : k = l := by
  by_cases hkh : k = h
  · subst hkh
    by_contra hne
    have hlt := hl (Ne.symm hne)
    rw [Function.update_self, Function.update_of_ne (Ne.symm hne)] at he
    omega
  · rw [Function.update_of_ne hkh] at he
    by_cases hlh : l = h
    · subst hlh
      rw [Function.update_self] at he
      exact absurd he (hk hkh).ne
    · rw [Function.update_of_ne hlh] at he
      exact hinjective hkh hlh he

/-- The slot that was free stands for the conversion that is stored in it. -/
lemma convert_stored (hr : Refines owner s q) {pool : Pool}
    (ha : s.source.pool.alloc = (some h, pool)) (raw : List UInt16) :
    Refines (Function.update owner h q.raws.length)
        { s with source := (s.source.complete raw).2 } (q.convert raw).2 ∧
      (s.source.complete raw).1 = (q.convert raw).1 := by
  let owner' := Function.update owner h q.raws.length
  obtain ⟨haccounts, hreported⟩ := hr.counted.accounts_complete raw
  obtain ⟨hlt, hzero⟩ := hr.accounts.free_of_alloc ha
  let q' : ValueQueues :=
    { q with raws := q.raws ++ [raw], sinks := q.sinks.map (·.post q.raws.length) }
  have hq : q.convert raw =
      (some ⟨UInt16.ofNat q.raws.length, q.sinks.countP (·.hasRoom),
        q.sinks.length - q.sinks.countP (·.hasRoom), q.sinks.countP (·.hasRoom) == 0⟩, q') := by
    have hlive := hr.length_live
    have havailable := Pool.Accounts.available_pos ha
    rw [ValueQueues.convert, if_pos (by omega)]
  obtain ⟨reclaimed, pool', hs, hcapacity, hperSet, hself, hother⟩ :=
    Source.exists_complete ha hlt (hr.perSet ▸ hr.perSet_le) raw
  have hraws : q'.raws = q.raws ++ [raw] := rfl
  have hnew : owner' h = q.raws.length := Function.update_self _ _ _
  have hold : ∀ k, k ≠ h → owner' k = owner k := fun k hk => Function.update_of_ne hk _ _
  have howner : ∀ k, k ∈ s.held ++ Source.queued s.source.sinks → owner' k = owner k := by
    intro k hk
    refine hold k ?_
    rintro rfl
    exact (HandleQueues.copies_pos_iff.2 hk).ne' hzero
  rw [hs] at haccounts hreported ⊢
  rw [hq]
  let s' : HandleQueues :=
    ⟨{ s.source with
      pool := pool', sinks := s.source.sinks.map fun sink => (sink.post h).2
      conversions := s.source.conversions + 1, sequence := s.source.sequence + 1 }, s.held⟩
  -- Nobody held the slot, so no handle that is still around changes what it stands for.
  have hcopies : ∀ k, 0 < s'.copies k → k ≠ h → 0 < s.copies k := fun k =>
    copies_pos_of_post rfl rfl
  refine ⟨?_, congrArg some (hr.delivery_eq h (hreported _ rfl))⟩
  exact
    { accounts := haccounts
      narrow := (List.length_map _).symm ▸ hr.narrow
      size := hcapacity.trans hr.size
      perSet := hperSet.trans hr.perSet
      perSet_le := hr.perSet_le
      sequence := hr.sequence_succ raw
      sinks := by
        have hsinks := hr.map_view_post (h := h) fun k hk => howner k (List.mem_append_right _ hk)
        rwa [hnew] at hsinks
      held := (List.map_congr_left fun k hk => howner k (List.mem_append_left _ hk)).trans hr.held
      content := fun k hk => by
        change pool'.content k = q'.value (owner' k)
        by_cases hkh : k = h
        · rw [hkh, hnew, hself, ValueQueues.value_length hraws rfl, hr.perSet, hr.sequence]
        · have hpos := hcopies k hk hkh
          rw [hother k hkh, hold k hkh, hr.content k hpos,
            ValueQueues.value_of_lt hraws rfl (hr.older k hpos)]
      older := fun k hk => by
        change owner' k < (q.raws ++ [raw]).length
        rw [List.length_append, List.length_singleton]
        by_cases hkh : k = h
        · rw [hkh, hnew]
          exact Nat.lt_succ_self _
        · rw [hold k hkh]
          exact Nat.lt_succ_of_lt (hr.older k (hcopies k hk hkh))
      injective := fun k l hk hl he =>
        eq_of_update_eq (fun hkh => hr.older k (hcopies k hk hkh))
          (fun hlh => hr.older l (hcopies l hl hlh))
          (fun hkh hlh => hr.injective k l (hcopies k hk hkh) (hcopies l hl hlh)) he }

lemma convert (hr : Refines owner s q) (raw : List UInt16) :
    ∃ owner', Refines owner' { s with source := (s.source.complete raw).2 } (q.convert raw).2 ∧
      (s.source.complete raw).1 = (q.convert raw).1 := by
  rcases ha : s.source.pool.alloc with ⟨_ | h, pool⟩
  · exact ⟨_, hr.convert_dropped ha raw⟩
  · exact ⟨_, hr.convert_stored ha raw⟩

/-! ## Moves -/

/-- A consumer sends what the handle at the head of the queue stands for, and releases it. -/
lemma consume (hr : Refines owner s q) (i : Nat) (tag : String) (console : Console) :
    ((Consumer.consume i tag).exec (s.source, console)).1 = (q.consume i tag console).1 ∧
      ((Consumer.consume i tag).exec (s.source, console)).2.2 = (q.consume i tag console).2.1 ∧
      Refines owner { s with source := ((Consumer.consume i tag).exec (s.source, console)).2.1 }
        (q.consume i tag console).2.2 := by
  rcases hf : s.source.fetch i with ⟨_ | h, source⟩
  · obtain ⟨rfl, hq⟩ := hr.fetch_none hf
    have hexec : (Consumer.consume i tag).exec (s.source, console) =
        (.ok false, s.source, console) := by
      simp only [Consumer.consume, Act.exec, hf]
    rw [hexec, ValueQueues.consume, hq]
    exact ⟨rfl, rfl, hr⟩
  · obtain ⟨q', hq, hvalue, hname, hr'⟩ := hr.fetch_some hf
    have hplace : (h :: s.held)[0]? = some h := rfl
    obtain ⟨⟨last, hlast⟩, hr''⟩ := hr'.release hplace
    have hset : source.dataLine tag h = ⟨tag, (q'.value (owner h)).1, (q'.value (owner h)).2⟩ := by
      have hcontent : source.pool.content h = q'.value (owner h) :=
        hr'.content h (HandleQueues.copies_pos_iff.2 List.mem_cons_self)
      rw [← hcontent]
      rfl
    rcases hrelease : (Source.release h).exec source with ⟨released, source'⟩
    rw [hrelease] at hlast hr''
    dsimp only at hlast
    subst hlast
    simp only [Act.exec] at hrelease
    rcases hsent : (Console.data ((source.sinks[i]?.map (·.name)).getD "")
      ⟨tag, (q'.value (owner h)).1, (q'.value (owner h)).2⟩).exec console with ⟨sent, console'⟩
    simp only [Act.exec] at hsent
    simp only [Consumer.consume, ValueQueues.consume, Act.exec, hf, hq, hset, hname, hrelease,
      hsent]
    exact ⟨trivial, trivial, hr''⟩

/-- Every move is answered alike, and afterwards the handles stand for conversions again. -/
lemma step (hr : Refines owner s q) (move : Move) :
    ∃ owner', Refines owner' (s.step move).2 (q.step move).2 ∧
      (s.step move).1 = (q.step move).1 := by
  cases move with
  | convert raw =>
    obtain ⟨owner', hr', hd⟩ := hr.convert raw
    exact ⟨owner', hr', congrArg Outcome.delivered hd⟩
  | fetch i =>
    refine ⟨owner, ?_⟩
    rcases hf : s.source.fetch i with ⟨_ | h, source⟩
    · obtain ⟨rfl, hq⟩ := hr.fetch_none hf
      simp only [HandleQueues.step, ValueQueues.step, hf, hq]
      exact ⟨hr, trivial⟩
    · obtain ⟨q', hq, hvalue, -, hr'⟩ := hr.fetch_some hf
      have hcontent : source.pool.content h = q'.value (owner h) :=
        hr'.content h (HandleQueues.copies_pos_iff.2 List.mem_cons_self)
      simp only [HandleQueues.step, ValueQueues.step, hf, hq, hcontent]
      exact ⟨hr', trivial⟩
  | release place =>
    refine ⟨owner, ?_⟩
    cases hplace : s.held[place]? with
    | none =>
      have hle : q.held.length ≤ place := by
        rw [← hr.held, List.length_map]
        exact List.getElem?_eq_none_iff.1 hplace
      simp only [HandleQueues.step, ValueQueues.step, hplace, List.eraseIdx_of_length_le hle]
      exact ⟨hr, trivial⟩
    | some h =>
      simp only [HandleQueues.step, ValueQueues.step, hplace]
      exact ⟨(hr.release hplace).2, trivial⟩
  | consume i tag console =>
    obtain ⟨hanswer, hconsole, hr'⟩ := hr.consume i tag console
    refine ⟨owner, hr', ?_⟩
    simp only [HandleQueues.step, ValueQueues.step, hanswer, hconsole]

lemma run (hr : Refines owner s q) (script : List Move) :
    ∃ owner', Refines owner' (s.run script).2 (q.run script).2 ∧
      (s.run script).1 = (q.run script).1 := by
  induction script generalizing owner s q with
  | nil => exact ⟨owner, hr, rfl⟩
  | cons move rest ih =>
    obtain ⟨owner', hr', hmove⟩ := hr.step move
    obtain ⟨owner'', hr'', hrest⟩ := ih hr'
    exact ⟨owner'', hr'', congrArg₂ List.cons hmove hrest⟩

lemma start {size perSet : Nat} {pool : Pool} (hpool : Pool.new size perSet = .ok pool)
    {sinks : List Config.Sink} (hsinks : sinks.length + 1 < 2 ^ 32) :
    Refines (fun _ => 0) (.start pool sinks) (.start size perSet sinks) := by
  obtain ⟨haccounts, hcapacity, hperSet, hle⟩ := Pool.accounts_new hpool
  have hempty : ∀ k, (HandleQueues.start pool sinks).copies k = 0 := by
    intro k
    have hqueued : Source.queued (HandleQueues.start pool sinks).source.sinks = [] :=
      Source.queued_of_new _ _ sinks
    rw [HandleQueues.copies, hqueued]
    rfl
  have hfree : ∀ k, ¬ 0 < (HandleQueues.start pool sinks).copies k := fun k hk =>
    hk.ne' (hempty k)
  exact
    { accounts := haccounts.congr hempty
      narrow := (List.length_map _).symm ▸ hsinks
      size := hcapacity
      perSet := hperSet
      perSet_le := hle
      sequence := rfl
      sinks := by
        simp only [HandleQueues.start, Source.new, ValueQueues.start, List.map_map]
        rfl
      held := rfl
      content := fun k hk => absurd hk (hfree k)
      older := fun k hk => absurd hk (hfree k)
      injective := fun k _ hk _ _ => absurd hk (hfree k) }

end Refines

/-! ## What a user of the pipeline sees -/

/-- The pipeline shows what the queues of conversions show. -/
structure Agrees (s : HandleQueues) (q : ValueQueues) : Prop where
  /-- What waits in a sink is read back as it was converted. -/
  queued : s.source.sinks.map (fun sink =>
      (sink.name, sink.capacity, sink.messages.map s.source.pool.content)) =
    q.sinks.map fun v => (v.name, v.capacity, v.pending.map q.value)
  held : s.held.map s.source.pool.content = q.held.map q.value
  refs : ∀ h, (s.source.pool.refs h).toNat = s.copies h
  /-- A conversion is dropped when as many others as there are slots still wait or are held. -/
  exhausted : ∀ raw, (s.source.complete raw).1 = none ↔ q.live.length = q.size
  unserved : ∀ i tag console,
    ((Consumer.consume i tag).exec (s.source, console)).1 = .ok false ↔
      ∀ sink, s.source.sinks[i]? = some sink → sink.messages = []
  /-- The head of a sink is sent, removed and released, whether its line gets through or not. -/
  served : ∀ i tag console sink h rest, s.source.sinks[i]? = some sink →
    sink.messages = h :: rest → ∃ sink' last, sink'.messages = rest ∧
      ((Pool.release h).exec s.source.pool).1 = .ok last ∧
      (Consumer.consume i tag).exec (s.source, console) =
        (((Console.data sink.name (s.source.dataLine tag h)).exec console).1.map fun _ => true,
          { s.source with
            pool := ((Pool.release h).exec s.source.pool).2
            sinks := s.source.sinks.set i sink' },
          ((Console.data sink.name (s.source.dataLine tag h)).exec console).2)

namespace Refines

lemma exists_release (hr : Refines owner s q) (hpos : 0 < s.copies h) :
    ∃ last, ((Pool.release h).exec s.source.pool).1 = .ok last := by
  have hone : Function.update s.copies h (s.copies h - 1) h + 1 = s.copies h := by
    rw [Function.update_self]
    omega
  exact ⟨_, (hr.accounts.release hpos hone fun k hk => Function.update_of_ne hk _ _).1⟩

lemma exec_consume (hr : Refines owner s q) {i : Nat} {sink : Mailbox Handle} {rest : List Handle}
    (hi : s.source.sinks[i]? = some sink) (hmessages : sink.messages = h :: rest) (tag : String)
    (console : Console) :
    ∃ sink' last, sink'.messages = rest ∧ ((Pool.release h).exec s.source.pool).1 = .ok last ∧
      (Consumer.consume i tag).exec (s.source, console) =
        (((Console.data sink.name (s.source.dataLine tag h)).exec console).1.map fun _ => true,
          { s.source with
            pool := ((Pool.release h).exec s.source.pool).2
            sinks := s.source.sinks.set i sink' },
          ((Console.data sink.name (s.source.dataLine tag h)).exec console).2) := by
  have hpos : 0 < s.copies h := by
    refine HandleQueues.copies_pos_iff.2 (List.mem_append_right _ (List.mem_flatMap.2 ?_))
    exact ⟨sink, List.mem_of_getElem? hi, hmessages ▸ List.mem_cons_self⟩
  obtain ⟨last, hlast⟩ := hr.exists_release hpos
  obtain ⟨sink', hrest, hsame, hf⟩ := Source.exists_fetch hi hmessages
  refine ⟨sink', last, hrest, hlast, ?_⟩
  have hname : (((s.source.sinks.set i sink')[i]?).map (·.name)).getD "" = sink.name := by
    rw [List.getElem?_set_self (List.getElem?_eq_some_iff.1 hi).1]
    exact hsame.name
  have hline : ({ s.source with sinks := s.source.sinks.set i sink' } : Source).dataLine tag h =
      s.source.dataLine tag h := rfl
  simp only [Act.exec] at hlast
  simp only [Consumer.consume, Source.release, Act.exec, hf, hname, hline, hlast]

lemma queued_eq (hr : Refines owner s q) :
    s.source.sinks.map (fun sink =>
        (sink.name, sink.capacity, sink.messages.map s.source.pool.content)) =
      q.sinks.map fun v => (v.name, v.capacity, v.pending.map q.value) := by
  have hread : ∀ sink ∈ s.source.sinks, ∀ h ∈ sink.messages,
      s.source.pool.content h = q.value (owner h) := by
    intro sink hsink h hh
    refine hr.content h (HandleQueues.copies_pos_iff.2 (List.mem_append_right _ ?_))
    exact List.mem_flatMap.2 ⟨sink, hsink, hh⟩
  let read (v : SinkView) : String × Nat × List (UInt16 × List UInt16) :=
    (v.1, v.2.1, v.2.2.map q.value)
  calc s.source.sinks.map (fun sink =>
        (sink.name, sink.capacity, sink.messages.map s.source.pool.content))
      = (s.source.sinks.map (Mailbox.view owner)).map read := by
        rw [List.map_map]
        refine List.map_congr_left fun sink hsink => ?_
        simp only [Function.comp_apply, Mailbox.view, read, List.map_map]
        rw [List.map_congr_left (hread sink hsink)]
        rfl
    _ = (q.sinks.map ValueSink.view).map read := by rw [hr.sinks]
    _ = q.sinks.map fun v => (v.name, v.capacity, v.pending.map q.value) := by
        rw [List.map_map]
        rfl

lemma agrees (hr : Refines owner s q) : Agrees s q where
  queued := hr.queued_eq
  held := by
    have hread : ∀ h ∈ s.held, s.source.pool.content h = q.value (owner h) := fun h hh =>
      hr.content h (HandleQueues.copies_pos_iff.2 (List.mem_append_left _ hh))
    rw [List.map_congr_left hread, ← hr.held, List.map_map]
    rfl
  refs := hr.accounts.refs
  exhausted raw := by
    obtain ⟨-, -, hdelivery⟩ := hr.convert raw
    have hlive := hr.length_live
    rw [hdelivery, ValueQueues.convert]
    split
    · exact iff_of_false (Option.some_ne_none _) (by omega)
    · exact iff_of_true rfl (by omega)
  unserved i tag console := by
    constructor
    · intro hfalse sink hi
      cases hmessages : sink.messages with
      | nil => rfl
      | cons h rest =>
        obtain ⟨sink', last, -, -, hexec⟩ := hr.exec_consume hi hmessages tag console
        rw [hexec] at hfalse
        dsimp only at hfalse
        cases hsent : ((Console.data sink.name (s.source.dataLine tag h)).exec console).1 with
        | error fault =>
          rw [hsent] at hfalse
          cases hfalse
        | ok u =>
          rw [hsent] at hfalse
          cases hfalse
    · intro hempty
      rcases hf : s.source.fetch i with ⟨_ | h, source⟩
      · simp only [Consumer.consume, Act.exec, hf]
      · obtain ⟨sink, sink', hi, hmessages, -⟩ := Source.fetch_eq_some hf
        rw [hempty sink hi] at hmessages
        cases hmessages
  served i tag console sink h rest hi hmessages := hr.exec_consume hi hmessages tag console

end Refines

/-- Whatever is converted, fetched, released and consumed, the handles behave as the conversions
that they stand for: they are read back unchanged, every sink yields what it took in the order of
conversion, and each once, and slots run out exactly when all of them are in use. The counter of a
slot has 32 bits and counts a copy for each sink and one more. -/
theorem handles_refine_conversions {size perSet : Nat} {pool : Pool}
    (hpool : Pool.new size perSet = .ok pool) (sinks : List Config.Sink)
    (hsinks : sinks.length + 1 < 2 ^ 32) (script : List Move) :
    ((HandleQueues.start pool sinks).run script).1 =
        ((ValueQueues.start size perSet sinks).run script).1 ∧
      Agrees ((HandleQueues.start pool sinks).run script).2
        ((ValueQueues.start size perSet sinks).run script).2 ∧
      ((ValueQueues.start size perSet sinks).run script).2.Ordered ∧
      ((ValueQueues.start size perSet sinks).run script).2.raws = script.filterMap Move.raw? := by
  obtain ⟨owner, hr, houtcomes⟩ := (Refines.start hpool hsinks).run script
  exact ⟨houtcomes, hr.agrees, (ValueQueues.ordered_start size perSet sinks).run script,
    ValueQueues.raws_run _ script⟩

/-- Two slots, a sink with room for one set and one without room, and a host that is gone. -/
theorem conversions_of_lossy_run : ∃ pool, Pool.new 2 3 = .ok pool ∧
    let sinks : List Config.Sink := [⟨"adc", 1⟩, ⟨"log", 0⟩]
    let script : List Move :=
      [.convert [1, 2, 3, 4], .convert [5], .fetch 0, .convert [6, 7],
        .consume 0 "A2" { Console.fresh with down := true }, .release 0]
    ((HandleQueues.start pool sinks).run script).1 =
        ((ValueQueues.start 2 3 sinks).run script).1 ∧
      Agrees ((HandleQueues.start pool sinks).run script).2
        ((ValueQueues.start 2 3 sinks).run script).2 ∧
      ((ValueQueues.start 2 3 sinks).run script).2.Ordered ∧
      ((ValueQueues.start 2 3 sinks).run script).2.raws = script.filterMap Move.raw? := by
  have hpool : Pool.new 2 3 = .ok _ := rfl
  exact ⟨_, hpool, handles_refine_conversions hpool _ (by decide) _⟩

end Instrument
