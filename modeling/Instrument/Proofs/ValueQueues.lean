import Instrument.Config
import Instrument.Consumer
import Mathlib.Data.List.Dedup
import Mathlib.Data.List.GetD
import Mathlib.Tactic.Lemma

/-!
# Queues of conversions

The pipeline as its users see it: there are no slots, and a sink is a queue of conversions. A
conversion is known by its place among all of them, and what it stored is looked up there. It is
dropped when as many conversions as the pool has slots are still waiting or held.
-/

namespace Instrument

/-- What is asked of the pipeline. -/
inductive Move where
  | convert (raw : List UInt16)
  | fetch (sink : Nat)
  /-- Release one of the sets that have been fetched, by its place among them. -/
  | release (place : Nat)
  | consume (sink : Nat) (tag : String) (console : Console)

/-- What is answered. -/
inductive Outcome where
  | delivered (delivery : Option Delivery)
  | fetched (set : Option (UInt16 × List UInt16))
  | released
  | consumed (answer : Except Fault Bool) (console : Console)

/-- What a move converts. -/
def Move.raw? : Move → Option (List UInt16)
  | .convert raw => some raw
  | _ => none

/-- Makes moves in turn and collects what is answered. -/
def Move.all {σ : Type} (step : Move → σ → Outcome × σ) : List Move → σ → List Outcome × σ
  | [], s => ([], s)
  | move :: rest, s =>
    let (outcome, s) := step move s
    let (outcomes, s) := all step rest s
    (outcome :: outcomes, s)

/-- A sink as a queue of conversions. -/
structure ValueSink where
  name : String
  capacity : Nat
  /-- All the conversions that the sink has taken. -/
  accepted : List Nat
  /-- Those that wait. -/
  pending : List Nat
  /-- Those that have been fetched or consumed. -/
  yielded : List Nat

namespace ValueSink

def new (sink : Config.Sink) : ValueSink :=
  ⟨sink.name, sink.capacity, [], [], []⟩

def hasRoom (v : ValueSink) : Bool :=
  v.pending.length < v.capacity

/-- Takes a conversion if there is room for it. -/
def post (n : Nat) (v : ValueSink) : ValueSink :=
  if v.hasRoom then { v with pending := v.pending ++ [n], accepted := v.accepted ++ [n] } else v

/-- Yields the oldest of the waiting conversions, of which `rest` are the others. -/
def yield (n : Nat) (rest : List Nat) (v : ValueSink) : ValueSink :=
  { v with pending := rest, yielded := v.yielded ++ [n] }

end ValueSink

structure ValueQueues where
  /-- How many conversions may wait or be held at a time. -/
  size : Nat
  /-- How many values of a conversion are kept. -/
  perSet : Nat
  /-- Everything that has been converted. -/
  raws : List (List UInt16)
  sinks : List ValueSink
  /-- The conversions that have been fetched and not released. -/
  held : List Nat

namespace ValueQueues

def start (size perSet : Nat) (sinks : List Config.Sink) : ValueQueues :=
  ⟨size, perSet, [], sinks.map .new, []⟩

/-- The set of a conversion: its number, in 16 bits, and the values that are kept. -/
def value (q : ValueQueues) (n : Nat) : UInt16 × List UInt16 :=
  (UInt16.ofNat n, (q.raws.getD n []).take q.perSet)

/-- The conversions that still wait in a sink or are held, each once. -/
def live (q : ValueQueues) : List Nat :=
  (q.held ++ q.sinks.flatMap (·.pending)).dedup

/-- Takes up a conversion: unless the pool is exhausted, every sink takes it that has room. -/
def convert (raw : List UInt16) (q : ValueQueues) : Option Delivery × ValueQueues :=
  let n := q.raws.length
  let accepted := q.sinks.countP (·.hasRoom)
  if q.live.length < q.size then
    (some ⟨UInt16.ofNat n, accepted, q.sinks.length - accepted, accepted == 0⟩,
      { q with raws := q.raws ++ [raw], sinks := q.sinks.map (·.post n) })
  else (none, { q with raws := q.raws ++ [raw] })

/-- Takes the oldest conversion from a sink. -/
def fetch (i : Nat) (q : ValueQueues) : Option Nat × ValueQueues :=
  match q.sinks[i]? with
  | none => (none, q)
  | some v =>
    match v.pending with
    | [] => (none, q)
    | n :: rest => (some n, { q with sinks := q.sinks.set i (v.yield n rest) })

/-- Consumes the oldest set of a sink. The set is gone also when its line is lost. -/
def consume (i : Nat) (tag : String) (console : Console) (q : ValueQueues) :
    Except Fault Bool × Console × ValueQueues :=
  match q.fetch i with
  | (none, q) => (.ok false, console, q)
  | (some n, q) =>
    let name := (q.sinks[i]?.map (·.name)).getD ""
    let (sent, console) :=
      (Console.data name ⟨tag, (q.value n).1, (q.value n).2⟩).exec console
    (sent.map fun _ => true, console, q)

def step (move : Move) (q : ValueQueues) : Outcome × ValueQueues :=
  match move with
  | .convert raw =>
    let (delivery, q) := q.convert raw
    (.delivered delivery, q)
  | .fetch i =>
    match q.fetch i with
    | (none, q) => (.fetched none, q)
    | (some n, q) => (.fetched (some (q.value n)), { q with held := n :: q.held })
  | .release place => (.released, { q with held := q.held.eraseIdx place })
  | .consume i tag console =>
    let (answer, console, q) := q.consume i tag console
    (.consumed answer console, q)

def run (script : List Move) (q : ValueQueues) : List Outcome × ValueQueues :=
  Move.all step script q

end ValueQueues

namespace ValueQueues

lemma value_of_lt {q q' : ValueQueues} {raw : List UInt16} (hraws : q'.raws = q.raws ++ [raw])
    (hperSet : q'.perSet = q.perSet) {n : Nat} (hn : n < q.raws.length) :
    q'.value n = q.value n := by
  rw [value, value, hraws, hperSet, List.getD_append _ _ _ _ hn]

lemma value_length {q q' : ValueQueues} {raw : List UInt16} (hraws : q'.raws = q.raws ++ [raw])
    (hperSet : q'.perSet = q.perSet) :
    q'.value q.raws.length = (UInt16.ofNat q.raws.length, raw.take q.perSet) := by
  rw [value, hraws, hperSet, List.getD_append_right _ _ _ _ (Nat.le_refl _), Nat.sub_self]
  rfl

lemma fetch_of_empty {q : ValueQueues} {i : Nat}
    (h : ∀ v, q.sinks[i]? = some v → v.pending = []) : q.fetch i = (none, q) := by
  unfold fetch
  split
  · rfl
  · next v hi =>
    rw [h v hi]

lemma fetch_of_pending {q : ValueQueues} {i n : Nat} {v : ValueSink} {rest : List Nat}
    (hi : q.sinks[i]? = some v) (hp : v.pending = n :: rest) :
    q.fetch i = (some n, { q with sinks := q.sinks.set i (v.yield n rest) }) := by
  unfold fetch
  rw [hi]
  dsimp only
  rw [hp]

end ValueQueues

/-- A sink yields what it accepts in the order of conversion, and each conversion once; `count` is
the number of all conversions. -/
structure ValueSink.Ordered (count : Nat) (v : ValueSink) : Prop where
  yielded_pending : v.yielded ++ v.pending = v.accepted
  increasing : v.accepted.Pairwise (· < ·)
  older : ∀ n ∈ v.accepted, n < count
  bounded : v.pending.length ≤ v.capacity

namespace ValueSink.Ordered

variable {count n : Nat} {v : ValueSink}

lemma mono {count' : Nat} (h : v.Ordered count) (hle : count ≤ count') : v.Ordered count' where
  yielded_pending := h.yielded_pending
  increasing := h.increasing
  older m hm := Nat.lt_of_lt_of_le (h.older m hm) hle
  bounded := h.bounded

lemma post (h : v.Ordered count) : (v.post count).Ordered (count + 1) := by
  unfold ValueSink.post
  by_cases hroom : v.hasRoom = true
  · rw [if_pos hroom]
    have hlt : v.pending.length < v.capacity := by simpa [hasRoom] using hroom
    refine ⟨?_, ?_, fun m hm => ?_, ?_⟩
    · rw [← h.yielded_pending, List.append_assoc]
    · refine List.pairwise_append.2 ⟨h.increasing, List.pairwise_singleton _ _, fun m hm k hk => ?_⟩
      rw [List.mem_singleton.1 hk]
      exact h.older m hm
    · rcases List.mem_append.1 hm with hm | hm
      · exact Nat.lt_succ_of_lt (h.older m hm)
      · rw [List.mem_singleton.1 hm]
        exact Nat.lt_succ_self count
    · rw [List.length_append]
      exact hlt
  · rw [if_neg hroom]
    exact h.mono (Nat.le_succ count)

lemma yield (h : v.Ordered count) {rest : List Nat} (hp : v.pending = n :: rest) :
    (v.yield n rest).Ordered count where
  yielded_pending := by
    have hsplit := h.yielded_pending
    rw [hp, List.append_cons] at hsplit
    exact hsplit
  increasing := h.increasing
  older := h.older
  bounded := by
    have hle := h.bounded
    rw [hp, List.length_cons] at hle
    exact Nat.le_of_succ_le hle

end ValueSink.Ordered

namespace ValueQueues

/-- Every sink is in order. -/
def Ordered (q : ValueQueues) : Prop :=
  ∀ v ∈ q.sinks, v.Ordered q.raws.length

lemma ordered_start (size perSet : Nat) (sinks : List Config.Sink) :
    (start size perSet sinks).Ordered := by
  intro v hv
  obtain ⟨sink, -, rfl⟩ := List.mem_map.1 hv
  exact ⟨rfl, .nil, nofun, Nat.zero_le _⟩

namespace Ordered

variable {q : ValueQueues}

lemma convert (h : q.Ordered) (raw : List UInt16) : (q.convert raw).2.Ordered := by
  have hlength : (q.raws ++ [raw]).length = q.raws.length + 1 := by
    rw [List.length_append, List.length_singleton]
  unfold ValueQueues.convert
  split
  · intro v hv
    obtain ⟨before, hbefore, rfl⟩ := List.mem_map.1 hv
    exact hlength ▸ (h before hbefore).post
  · intro v hv
    exact hlength ▸ (h v hv).mono (Nat.le_succ _)

lemma fetch (h : q.Ordered) (i : Nat) : (q.fetch i).2.Ordered := by
  by_cases hempty : ∀ v, q.sinks[i]? = some v → v.pending = []
  · rw [fetch_of_empty hempty]
    exact h
  · push Not at hempty
    obtain ⟨v, hi, hne⟩ := hempty
    obtain ⟨n, rest, hp⟩ := List.exists_cons_of_ne_nil hne
    rw [fetch_of_pending hi hp]
    intro v' hv'
    rcases List.mem_or_eq_of_mem_set hv' with hv' | rfl
    · exact h v' hv'
    · exact (h v (List.mem_of_getElem? hi)).yield hp

lemma step (h : q.Ordered) (move : Move) : (q.step move).2.Ordered := by
  cases move with
  | convert raw => exact h.convert raw
  | fetch i =>
    have hf := h.fetch i
    simp only [ValueQueues.step]
    rcases hq : q.fetch i with ⟨_ | n, q'⟩
    · rwa [hq] at hf
    · rwa [hq] at hf
  | release place => exact h
  | consume i tag console =>
    have hf := h.fetch i
    simp only [ValueQueues.step, consume]
    rcases hq : q.fetch i with ⟨_ | n, q'⟩
    · rwa [hq] at hf
    · rwa [hq] at hf

end Ordered

lemma Ordered.run {q : ValueQueues} (h : q.Ordered) (script : List Move) :
    (q.run script).2.Ordered := by
  induction script generalizing q with
  | nil => exact h
  | cons move rest ih => exact ih (h.step move)

/-! ## History -/

lemma raws_fetch (q : ValueQueues) (i : Nat) : (q.fetch i).2.raws = q.raws := by
  unfold fetch
  split
  · rfl
  · split <;> rfl

lemma raws_step (q : ValueQueues) (move : Move) :
    (q.step move).2.raws = q.raws ++ move.raw?.toList := by
  cases move with
  | convert raw =>
    simp only [step, convert]
    split <;> rfl
  | fetch i =>
    have hraws := q.raws_fetch i
    simp only [step, Move.raw?, Option.toList_none, List.append_nil]
    rcases hq : q.fetch i with ⟨_ | n, q'⟩
    · rwa [hq] at hraws
    · rwa [hq] at hraws
  | release place => exact (List.append_nil _).symm
  | consume i tag console =>
    have hraws := q.raws_fetch i
    simp only [step, consume, Move.raw?, Option.toList_none, List.append_nil]
    rcases hq : q.fetch i with ⟨_ | n, q'⟩
    · rwa [hq] at hraws
    · rwa [hq] at hraws

/-- The queues know all that was converted, whether it was stored or dropped. -/
lemma raws_run (q : ValueQueues) (script : List Move) :
    (q.run script).2.raws = q.raws ++ script.filterMap Move.raw? := by
  induction script generalizing q with
  | nil => exact (List.append_nil _).symm
  | cons move rest ih =>
    have hstep := q.raws_step move
    refine (ih (q.step move).2).trans ?_
    rw [hstep, List.append_assoc]
    cases h : move.raw? <;> simp [h]

end ValueQueues

end Instrument
