import Instrument.Proofs.FanOut
import Instrument.Proofs.SlotAccounting
import Instrument.Proofs.ValueQueues
import Mathlib.Data.List.InsertIdx
import Mathlib.Data.List.Perm.Basic

/-!
# Handles stand for conversions

The pipeline passes handles around, and slots are used again and again. `Refines` says which
conversion each handle stands for at the moment, and this module follows it through fetches and
releases, which only give copies of handles away. Below it lies the count of the copies (`Counted`),
which does not ask what a handle stands for.
-/

namespace Instrument

/-- The pipeline between its consumers and its converter, with the handles that are held. -/
structure HandleQueues where
  source : Source
  held : List Handle

namespace HandleQueues

def start (pool : Pool) (sinks : List Config.Sink) : HandleQueues :=
  ⟨.new pool (sinks.map fun sink => .new sink.name sink.capacity), []⟩

def step (move : Move) (s : HandleQueues) : Outcome × HandleQueues :=
  match move with
  | .convert raw =>
    let (delivery, source) := s.source.complete raw
    (.delivered delivery, { s with source })
  | .fetch i =>
    match s.source.fetch i with
    | (none, source) => (.fetched none, { s with source })
    | (some h, source) => (.fetched (some (source.pool.content h)), ⟨source, h :: s.held⟩)
  | .release place =>
    match s.held[place]? with
    | none => (.released, s)
    | some h => (.released, ⟨((Source.release h).exec s.source).2, s.held.eraseIdx place⟩)
  | .consume i tag console =>
    let (answer, source, console) := (Consumer.consume i tag).exec (s.source, console)
    (.consumed answer console, { s with source })

def run (script : List Move) (s : HandleQueues) : List Outcome × HandleQueues :=
  Move.all step script s

/-- How many copies of a handle are queued or held. -/
def copies (s : HandleQueues) (h : Handle) : Nat :=
  (Source.queued s.source.sinks).count h + s.held.count h

/-- Every slot counts the copies of its handle, and its counter is wide enough for a pass. -/
structure Counted (s : HandleQueues) : Prop where
  accounts : s.source.pool.Accounts s.copies
  narrow : s.source.sinks.length + 1 < 2 ^ 32
  perSet_le : s.source.pool.samplesPerSet ≤ Pool.maxSize

variable {s : HandleQueues} {h : Handle}

lemma copies_pos_iff : 0 < s.copies h ↔ h ∈ s.held ++ Source.queued s.source.sinks := by
  rw [copies, List.mem_append, ← List.count_pos_iff, ← List.count_pos_iff]
  omega

/-- A fetched copy is held instead of queued. -/
lemma copies_fetch {i : Nat} {source : Source} (hf : s.source.fetch i = (some h, source))
    (k : Handle) : copies ⟨source, h :: s.held⟩ k = s.copies k := by
  have hk := Source.count_queued_fetch hf k
  simp only [copies, List.count_cons, beq_iff_eq, ← hk]
  omega

/-- A release takes one held copy away. -/
lemma copies_release {place : Nat} (hplace : s.held[place]? = some h) (k : Handle) :
    copies ⟨((Source.release h).exec s.source).2, s.held.eraseIdx place⟩ k +
      (if h = k then 1 else 0) = s.copies k := by
  obtain ⟨hlt, hget⟩ := List.getElem?_eq_some_iff.1 hplace
  have hperm := List.getElem_cons_eraseIdx_perm hlt
  rw [hget] at hperm
  have hcount := hperm.count_eq k
  rw [List.count_cons] at hcount
  simp only [beq_iff_eq] at hcount
  change (Source.queued s.source.sinks).count k + (s.held.eraseIdx place).count k + _ = s.copies k
  rw [copies]
  omega

namespace Counted

lemma fetch (hs : s.Counted) {i : Nat} {source : Source}
    (hf : s.source.fetch i = (some h, source)) : Counted ⟨source, h :: s.held⟩ := by
  have hcopies := copies_fetch hf
  obtain ⟨sink, sink', -, -, -, rfl⟩ := Source.fetch_eq_some hf
  exact ⟨hs.accounts.congr hcopies, (List.length_set ..).symm ▸ hs.narrow, hs.perSet_le⟩

lemma release (hs : s.Counted) {place : Nat} (hplace : s.held[place]? = some h) :
    (∃ last, ((Source.release h).exec s.source).1 = .ok last) ∧
      Counted ⟨((Source.release h).exec s.source).2, s.held.eraseIdx place⟩ := by
  have hcopies := copies_release hplace
  have hself := hcopies h
  rw [if_pos rfl] at hself
  obtain ⟨hfreed, haccounts⟩ := hs.accounts.release (by omega) hself fun k hk => by
    have hother := hcopies k
    rwa [if_neg (Ne.symm hk)] at hother
  refine ⟨⟨_, hfreed⟩, haccounts, hs.narrow, ?_⟩
  exact (Pool.samplesPerSet_release _ h).trans_le hs.perSet_le

/-- A whole conversion is a run of the interleaved pipeline in which no consumer takes a turn. -/
lemma accounts_complete (hs : s.Counted) (raw : List UInt16) :
    (s.source.complete raw).2.pool.Accounts
        (copies { s with source := (s.source.complete raw).2 }) ∧
      ∀ d, (s.source.complete raw).1 = some d → d.reclaimed = (d.accepted == 0) := by
  let idle : Pipeline :=
    ⟨s.source, List.range s.source.sinks.length, none, s.held.map ((0 : Nat), ·), []⟩
  have hfetched : (s.held.map ((0 : Nat), ·)).map (·.2) = s.held := by
    rw [List.map_map]
    exact List.map_id s.held
  have hcopies : ∀ k, idle.copies k = s.copies k := by
    intro k
    rw [Pipeline.copies_of_idle rfl, Pipeline.given, Pipeline.fetched, hfetched]
    rfl
  have hcounted : idle.Counted :=
    { accounts := hs.accounts.congr hcopies
      narrow := by
        rw [List.length_range]
        exact hs.narrow
      given_le := by rintro _ ⟨⟩
      asked := by rintro _ ⟨⟩
      reported := by rintro _ ⟨⟩ }
  have hdone := hcounted.complete rfl rfl raw
  refine ⟨hdone.accounts.congr fun k => ?_, fun d hd => hdone.reported d ?_⟩
  · rw [Pipeline.copies_of_idle rfl, Pipeline.given, Pipeline.fetched, hfetched]
    rfl
  · exact List.mem_singleton.2 hd.symm

end Counted

end HandleQueues

/-- What a sink shows from outside: its name, its capacity and what waits in it. -/
abbrev SinkView : Type :=
  String × Nat × List Nat

/-- A sink of handles, each seen as the conversion it stands for. -/
def Mailbox.view (owner : Handle → Nat) (m : Mailbox Handle) : SinkView :=
  (m.name, m.capacity, m.messages.map owner)

def ValueSink.view (v : ValueSink) : SinkView :=
  (v.name, v.capacity, v.pending)

namespace SinkView

def hasRoom (v : SinkView) : Bool :=
  v.2.2.length < v.2.1

/-- The sink after a conversion has been posted to it. -/
def post (n : Nat) (v : SinkView) : SinkView :=
  if v.hasRoom then (v.1, v.2.1, v.2.2 ++ [n]) else v

lemma hasRoom_view (v : ValueSink) : v.view.hasRoom = v.hasRoom :=
  rfl

lemma view_post (n : Nat) (v : ValueSink) : (v.post n).view = post n v.view := by
  unfold ValueSink.post post
  rw [hasRoom_view]
  split <;> rfl

lemma hasRoom_mailbox (owner : Handle → Nat) (m : Mailbox Handle) (h : Handle) :
    (m.view owner).hasRoom = (m.post h).1 := by
  rw [Mailbox.post_fst, hasRoom, Mailbox.view, List.length_map]

lemma view_mailbox_post {owner owner' : Handle → Nat} {m : Mailbox Handle} (h : Handle)
    (howner : ∀ k ∈ m.messages, owner' k = owner k) :
    (m.post h).2.view owner' = post (owner' h) (m.view owner) := by
  have hsame : m.messages.map owner' = m.messages.map owner := List.map_congr_left howner
  rw [post, hasRoom_mailbox owner m h]
  by_cases hroom : m.messages.length < m.capacity
  · obtain ⟨m', hpost, hmessages, hname, hcapacity⟩ := Mailbox.post_of_lt hroom h
    rw [hpost, if_pos rfl, Mailbox.view, Mailbox.view, hmessages, hname, hcapacity,
      List.map_append, hsame]
    rfl
  · obtain ⟨m', hpost, hmessages, hname, hcapacity⟩ := Mailbox.post_of_le (not_lt.1 hroom) h
    rw [hpost, if_neg Bool.false_ne_true, Mailbox.view, Mailbox.view, hmessages, hname, hcapacity,
      hsame]

end SinkView

/-- The handles stand for conversions in the queues, `owner` says for which. -/
structure Refines (owner : Handle → Nat) (s : HandleQueues) (q : ValueQueues) : Prop where
  accounts : s.source.pool.Accounts s.copies
  narrow : s.source.sinks.length + 1 < 2 ^ 32
  size : s.source.pool.capacity = q.size
  perSet : s.source.pool.samplesPerSet = q.perSet
  perSet_le : q.perSet ≤ Pool.maxSize
  sequence : s.source.sequence = UInt16.ofNat q.raws.length
  sinks : s.source.sinks.map (Mailbox.view owner) = q.sinks.map ValueSink.view
  held : s.held.map owner = q.held
  content : ∀ h, 0 < s.copies h → s.source.pool.content h = q.value (owner h)
  older : ∀ h, 0 < s.copies h → owner h < q.raws.length
  injective : ∀ h k, 0 < s.copies h → 0 < s.copies k → owner h = owner k → h = k

variable {owner : Handle → Nat} {s : HandleQueues} {q : ValueQueues} {h : Handle}

namespace Refines

lemma counted (hr : Refines owner s q) : s.Counted :=
  ⟨hr.accounts, hr.narrow, hr.perSet.trans_le hr.perSet_le⟩

lemma live_eq (hr : Refines owner s q) :
    q.live = ((s.held ++ Source.queued s.source.sinks).map owner).dedup := by
  have hpending : q.sinks.flatMap (·.pending) = (q.sinks.map ValueSink.view).flatMap (·.2.2) := by
    rw [List.flatMap_map]
    rfl
  rw [ValueQueues.live, hpending, ← hr.sinks, ← hr.held, List.flatMap_map, List.map_append,
    Source.queued, List.map_flatMap]
  rfl

/-- The live conversions are as many as the slots that are not free. -/
lemma length_live (hr : Refines owner s q) :
    q.live.length + s.source.pool.available = q.size := by
  let handles := s.held ++ Source.queued s.source.sinks
  have hmem : ∀ h, h ∈ handles.dedup ↔ 0 < s.copies h := fun h =>
    List.mem_dedup.trans HandleQueues.copies_pos_iff.symm
  -- No two handles stand for one conversion, so there are as many handles as conversions.
  have hnodup : (handles.dedup.map owner).Nodup :=
    (List.nodup_dedup handles).map_on fun h hh k hk he =>
      hr.injective h k ((hmem h).1 hh) ((hmem k).1 hk) he
  have hperm : (handles.dedup.map owner).Perm q.live := by
    rw [hr.live_eq]
    refine (List.perm_ext_iff_of_nodup hnodup (List.nodup_dedup _)).2 fun n => ?_
    simp only [List.mem_map, List.mem_dedup, handles]
  have hlength := hperm.length_eq
  rw [List.length_map] at hlength
  rw [← hlength, ← hr.size]
  exact hr.accounts.length_add_available (List.nodup_dedup handles) hmem

/-- Sinks in one place show the same. -/
lemma exists_sink (hr : Refines owner s q) {i : Nat} {sink : Mailbox Handle}
    (hi : s.source.sinks[i]? = some sink) :
    ∃ v, q.sinks[i]? = some v ∧ v.name = sink.name ∧ v.capacity = sink.capacity ∧
      v.pending = sink.messages.map owner := by
  have hview : (q.sinks.map ValueSink.view)[i]? = some (sink.view owner) := by
    rw [← hr.sinks, List.getElem?_map, hi]
    rfl
  rw [List.getElem?_map, Option.map_eq_some_iff] at hview
  obtain ⟨v, hv, he⟩ := hview
  simp only [ValueSink.view, Mailbox.view, Prod.mk.injEq] at he
  exact ⟨v, hv, he⟩

lemma getElem?_eq_none (hr : Refines owner s q) {i : Nat} :
    q.sinks[i]? = none ↔ s.source.sinks[i]? = none := by
  have hlength := congrArg List.length hr.sinks
  rw [List.length_map, List.length_map] at hlength
  rw [List.getElem?_eq_none_iff, List.getElem?_eq_none_iff, hlength]

lemma fetch_none (hr : Refines owner s q) {i : Nat} {source : Source}
    (hf : s.source.fetch i = (none, source)) : source = s.source ∧ q.fetch i = (none, q) := by
  obtain ⟨rfl, hempty⟩ := Source.fetch_eq_none hf
  refine ⟨rfl, ValueQueues.fetch_of_empty fun v hv => ?_⟩
  cases hi : s.source.sinks[i]? with
  | none =>
    rw [hr.getElem?_eq_none.2 hi] at hv
    cases hv
  | some sink =>
    obtain ⟨v', hv', -, -, hpending⟩ := hr.exists_sink hi
    rw [hv] at hv'
    cases hv'
    rw [hpending, hempty sink hi, List.map_nil]

/-- A change in the hands of the consumers, after which no more slots are in use. -/
lemma of_copies (hr : Refines owner s q) {s' : HandleQueues} {q' : ValueQueues}
    (haccounts : s'.source.pool.Accounts s'.copies)
    (hlength : s'.source.sinks.length = s.source.sinks.length)
    (hcapacity : s'.source.pool.capacity = s.source.pool.capacity)
    (hperSet : s'.source.pool.samplesPerSet = s.source.pool.samplesPerSet)
    (hsequence : s'.source.sequence = s.source.sequence)
    (hcontent : ∀ k, s'.source.pool.content k = s.source.pool.content k)
    (hcopies : ∀ k, 0 < s'.copies k → 0 < s.copies k)
    (hq : q' = { q with sinks := q'.sinks, held := q'.held })
    (hsinks : s'.source.sinks.map (Mailbox.view owner) = q'.sinks.map ValueSink.view)
    (hheld : s'.held.map owner = q'.held) : Refines owner s' q' := by
  rw [hq]
  exact
    { accounts := haccounts
      narrow := hlength ▸ hr.narrow
      size := hcapacity.trans hr.size
      perSet := hperSet.trans hr.perSet
      perSet_le := hr.perSet_le
      sequence := hsequence.trans hr.sequence
      sinks := hsinks
      held := hheld
      content := fun k hk => (hcontent k).trans (hr.content k (hcopies k hk))
      older := fun k hk => hr.older k (hcopies k hk)
      injective := fun k l hk hl => hr.injective k l (hcopies k hk) (hcopies l hl) }

/-- A fetched handle is held for what it stood for in the queue. -/
lemma fetch_some (hr : Refines owner s q) {i : Nat} {source : Source}
    (hf : s.source.fetch i = (some h, source)) :
    ∃ q', q.fetch i = (some (owner h), q') ∧ q'.value = q.value ∧
      q'.sinks[i]?.map (·.name) = source.sinks[i]?.map (·.name) ∧
      Refines owner ⟨source, h :: s.held⟩ { q' with held := owner h :: q'.held } := by
  have hcopies := HandleQueues.copies_fetch hf
  obtain ⟨sink, sink', hi, hmessages, hsame, rfl⟩ := Source.fetch_eq_some hf
  obtain ⟨v, hv, hname, hcapacity, hpending⟩ := hr.exists_sink hi
  rw [hmessages, List.map_cons] at hpending
  have hview : sink'.view owner = (v.yield (owner h) (sink'.messages.map owner)).view := by
    simp only [Mailbox.view, ValueSink.view, ValueSink.yield, hsame.name, hsame.capacity, hname,
      hcapacity]
  refine ⟨_, ValueQueues.fetch_of_pending hv hpending, rfl, ?_, ?_⟩
  · have hlt := (List.getElem?_eq_some_iff.1 hi).1
    have hlt' := (List.getElem?_eq_some_iff.1 hv).1
    rw [List.getElem?_set_self hlt, List.getElem?_set_self hlt', Option.map_some, Option.map_some,
      hsame.name]
    exact congrArg some hname
  · refine hr.of_copies (hr.accounts.congr hcopies) (List.length_set ..) rfl rfl rfl
      (fun _ => rfl) (fun k hk => hcopies k ▸ hk) rfl ?_ ?_
    · rw [List.map_set, List.map_set, hr.sinks, hview]
    · rw [List.map_cons, hr.held]

lemma release (hr : Refines owner s q) {place : Nat} (hplace : s.held[place]? = some h) :
    (∃ last, ((Source.release h).exec s.source).1 = .ok last) ∧
      Refines owner ⟨((Source.release h).exec s.source).2, s.held.eraseIdx place⟩
        { q with held := q.held.eraseIdx place } := by
  obtain ⟨hfreed, hcounted⟩ := hr.counted.release hplace
  refine ⟨hfreed, hr.of_copies hcounted.accounts rfl (Pool.capacity_release _ h)
    (Pool.samplesPerSet_release _ h) rfl (fun k => Pool.content_release _ h k) (fun k hk => ?_) rfl
    hr.sinks ?_⟩
  · have hsum := HandleQueues.copies_release hplace k
    omega
  · rw [← hr.held, List.eraseIdx_map]

end Refines

end Instrument
