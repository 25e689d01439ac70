import Instrument.Proofs.SharedPool

/-!
# Gaps between sequence numbers

A conversion takes its number before anything can go wrong with it, so a set that a sink never saw
leaves a gap in the numbers that are fetched from this sink. The gap is as long as the conversions
that were lost on the way, up to a multiple of 2¹⁶.
-/

namespace Instrument

/-- An incident and the state that it meets. -/
structure Moment where
  before : HandleQueues
  incident : Incident

namespace Moment

def after (m : Moment) : HandleQueues :=
  m.before.happen m.incident

/-- What is reported, if the incident is a conversion that finds a slot. -/
def delivery? (m : Moment) : Option Delivery :=
  m.incident.raw?.bind fun raw => (m.before.source.complete raw).1

/-- The sink has one set more afterwards. -/
def received (i : Nat) (m : Moment) : Bool :=
  (m.before.waiting i).length < (m.after.waiting i).length

/-- The conversion finds no slot, or the sink counts one more refusal. -/
def lost (i : Nat) (m : Moment) : Bool :=
  m.delivery?.isNone || decide (m.before.refusals i < m.after.refusals i)

/-- The number of the set that is taken from a sink. -/
def yielded? (i : Nat) (m : Moment) : Option UInt16 :=
  m.before.yielded? i m.incident

end Moment

/-- The moments of a run. -/
def history : List Incident → HandleQueues → List Moment
  | [], _ => []
  | incident :: rest, s => ⟨s, incident⟩ :: history rest (s.happen incident)

namespace History

variable {t : List Moment} {m : Moment} {s : HandleQueues} {i k : Nat}

def conversions (t : List Moment) : List Moment :=
  t.filter (·.incident.raw?.isSome)

/-- The places, among all conversions, of those that a sink received. -/
def accepted (i : Nat) (t : List Moment) : List Nat :=
  (List.range (conversions t).length).filter fun k => ((conversions t)[k]?).any (·.received i)

/-- The numbers of the sets that were taken from a sink, one after the other. -/
def yields (i : Nat) (t : List Moment) : List UInt16 :=
  t.filterMap (·.yielded? i)

/-- How often other users asked the pool for a slot. -/
def borrowings (t : List Moment) : Nat :=
  t.countP (·.incident.borrows)

lemma history_append (script : List Incident) (incident : Incident) (s : HandleQueues) :
    history (script ++ [incident]) s =
      history script s ++ [⟨script.foldl HandleQueues.happen s, incident⟩] := by
  induction script generalizing s with
  | nil => rfl
  | cons first rest ih => exact congrArg (_ :: ·) (ih _)

lemma conversions_append (t : List Moment) (m : Moment) :
    conversions (t ++ [m]) = conversions t ++ if m.incident.raw?.isSome then [m] else [] := by
  rw [conversions, List.filter_append, List.filter_singleton, Bool.cond_eq_ite]
  rfl

lemma yields_append (i : Nat) (t : List Moment) (m : Moment) :
    yields i (t ++ [m]) = yields i t ++ (m.yielded? i).toList := by
  rw [yields, List.filterMap_append]
  rfl

lemma accepted_append_of_none (hm : m.incident.raw? = none) (i : Nat) (t : List Moment) :
    accepted i (t ++ [m]) = accepted i t := by
  rw [accepted, conversions_append, hm]
  simp [accepted]

lemma accepted_append_of_some (hm : m.incident.raw?.isSome) (i : Nat) (t : List Moment) :
    accepted i (t ++ [m]) =
      accepted i t ++ if m.received i then [(conversions t).length] else [] := by
  rw [accepted, conversions_append, if_pos hm, List.length_append, List.length_singleton,
    List.range_succ, List.filter_append, List.filter_singleton, List.getElem?_concat_length,
    Bool.cond_eq_ite, Option.any_some]
  congr 1
  refine List.filter_congr fun k hk => ?_
  rw [List.getElem?_append_left (List.mem_range.1 hk)]

lemma borrowings_append (t : List Moment) (m : Moment) :
    borrowings (t ++ [m]) = borrowings t + if m.incident.borrows then 1 else 0 := by
  rw [borrowings, List.countP_append, List.countP_singleton]
  rfl

/-! ## The numbers of a history -/

/-- In a sink a conversion is received or lost, and what is received waits there under its
number. -/
lemma convert_at (hs : s.Counted) (raw : List UInt16) (hi : i < s.source.sinks.length)
    (hm : m = ⟨s, .move (.convert raw)⟩) : m.received i = !m.lost i ∧
      m.after.waiting i = s.waiting i ++ if m.received i then [s.source.sequence] else [] := by
  have hbefore : m.before = s := congrArg Moment.before hm
  have hdelivery : m.delivery? = (s.source.complete raw).1 := by rw [hm]; rfl
  have hafter : m.after = { s with source := (s.source.complete raw).2 } := by rw [hm]; rfl
  rw [Moment.received, Moment.lost, hbefore, hdelivery]
  rcases hs.complete_at raw hi hafter with ⟨hd, hw, -⟩ | ⟨hd, hw, hr⟩ | ⟨hd, hw, hr⟩
  · simp [hd, hw]
  · simp [Option.isNone_eq_false_iff.2 hd, hw, hr]
  · simp [Option.isNone_eq_false_iff.2 hd, hw, hr]

/-- A state and the moments that led to it. What was taken from a sink and what waits in it are
the numbers of the conversions that it received. -/
structure Follows (width : Nat) (t : List Moment) (s : HandleQueues) : Prop where
  counted : s.Counted
  width : s.source.sinks.length = width
  count : s.source.conversions = (conversions t).length
  sequence : s.source.sequence = UInt16.ofNat (conversions t).length
  requests : s.source.pool.requests = (conversions t).length + borrowings t
  numbered : ∀ k m, (conversions t)[k]? = some m →
    m.before.source.sequence = UInt16.ofNat k ∧ m.after.source.sequence = UInt16.ofNat (k + 1) ∧
      ∀ d, m.delivery? = some d → d.sequence = UInt16.ofNat k
  received : ∀ m ∈ conversions t, ∀ i < s.source.sinks.length, m.received i = !m.lost i
  queued : ∀ i < s.source.sinks.length,
    yields i t ++ s.waiting i = (accepted i t).map UInt16.ofNat

namespace Follows

variable {width : Nat} {incident : Incident}

lemma other (hf : Follows width t s) (hincident : incident.raw? = none) :
    Follows width (t ++ [⟨s, incident⟩]) (s.happen incident) := by
  obtain ⟨hsequence, hcount, hlength, hrequests⟩ := HandleQueues.counters_happen hincident s
  have hsame : conversions (t ++ [⟨s, incident⟩]) = conversions t := by
    rw [conversions_append, hincident]
    exact List.append_nil _
  exact
    { counted := hf.counted.happen incident
      width := hlength.trans hf.width
      count := by rw [hsame, hcount, hf.count]
      sequence := by rw [hsame, hsequence, hf.sequence]
      requests := by rw [hsame, hrequests, hf.requests, borrowings_append, Nat.add_assoc]
      numbered := hsame ▸ hf.numbered
      received := hsame ▸ hlength ▸ hf.received
      queued := fun i hi => by
        rw [yields_append, accepted_append_of_none hincident, List.append_assoc,
          ← hf.queued i (hlength ▸ hi)]
        exact congrArg _ (hf.counted.waiting_happen hincident i) }

lemma convert (hf : Follows width t s) (raw : List UInt16) :
    Follows width (t ++ [⟨s, .move (.convert raw)⟩]) (s.happen (.move (.convert raw))) := by
  obtain ⟨hsequence, hcount, hlength, hrequests, hreported⟩ := s.source.complete_counters raw
  let m : Moment := ⟨s, .move (.convert raw)⟩
  have hsome : m.incident.raw?.isSome := rfl
  have hnext : conversions (t ++ [m]) = conversions t ++ [m] := by
    rw [conversions_append, if_pos hsome]
  have hsize : (conversions (t ++ [m])).length = (conversions t).length + 1 := by
    rw [hnext, List.length_append, List.length_singleton]
  have hnumber : m.after.source.sequence = UInt16.ofNat ((conversions t).length + 1) := by
    rw [UInt16.ofNat_add, ← hf.sequence]
    exact hsequence
  exact
    { counted := hf.counted.happen _
      width := hlength.trans hf.width
      count := by
        rw [hsize, ← hf.count]
        exact hcount
      sequence := by
        rw [hsize]
        exact hnumber
      requests := by
        have hborrowings : borrowings (t ++ [m]) = borrowings t := borrowings_append t m
        rw [hsize, hborrowings, Nat.add_right_comm, ← hf.requests]
        exact hrequests
      numbered := fun k m' hk => by
        rw [hnext] at hk
        by_cases hlt : k < (conversions t).length
        · rw [List.getElem?_append_left hlt] at hk
          exact hf.numbered k m' hk
        · obtain ⟨hle, hget⟩ := List.getElem?_eq_some_iff.1 hk
          rw [List.length_append, List.length_singleton] at hle
          obtain rfl : k = (conversions t).length := by omega
          rw [List.getElem?_concat_length] at hk
          cases hk
          exact ⟨hf.sequence, hnumber, fun d hd => (hreported d hd).trans hf.sequence⟩
      received := fun m' hm' i hi => by
        rw [hnext, List.mem_append, List.mem_singleton] at hm'
        rcases hm' with hm' | rfl
        · exact hf.received m' hm' i (hlength ▸ hi)
        · exact (convert_at hf.counted raw (hlength ▸ hi) rfl).1
      queued := fun i hi => by
        have hwaiting : m.after.waiting i = _ := (convert_at hf.counted raw (hlength ▸ hi) rfl).2
        have hyield : m.yielded? i = none := rfl
        change yields i (t ++ [m]) ++ m.after.waiting i = (accepted i (t ++ [m])).map UInt16.ofNat
        rw [yields_append, hyield, accepted_append_of_some hsome, List.map_append,
          ← hf.queued i (hlength ▸ hi), hwaiting, hf.sequence, Option.toList_none, List.append_nil,
          List.append_assoc]
        split <;> rfl }

/-- The induction adds one moment after the other at the end. -/
lemma history {s : HandleQueues} (hf : Follows width [] s) (script : List Incident) :
    Follows width (history script s) (script.foldl HandleQueues.happen s) := by
  induction script using List.reverseRecOn with
  | nil => exact hf
  | append_singleton script incident ih =>
    rw [history_append, List.foldl_append]
    cases hraw : incident.raw? with
    | none => exact ih.other hraw
    | some raw =>
      obtain rfl : incident = .move (.convert raw) := by
        cases incident with
        | move move => cases move <;> cases hraw; rfl
        | fault fault => cases hraw
        | borrow sequence raw => cases hraw
      exact ih.convert raw

end Follows

lemma follows_start {size perSet : Nat} {pool : Pool} (hpool : Pool.new size perSet = .ok pool)
    {sinks : List Config.Sink} (hsinks : sinks.length + 1 < 2 ^ 32) :
    Follows sinks.length [] (.start pool sinks) := by
  have hstats := Pool.stats_new hpool
  have hempty : ∀ i, (HandleQueues.start pool sinks).waiting i = [] := by
    intro i
    simp only [HandleQueues.waiting, HandleQueues.start, Source.new, List.getElem?_map]
    cases sinks[i]? <;> rfl
  exact
    { counted := (Refines.start hpool hsinks).counted
      width := List.length_map _
      count := rfl
      sequence := rfl
      requests := by
        change pool.stats.allocs + pool.stats.allocFailed = 0
        rw [hstats]
        rfl
      numbered := by
        intro k m hm
        cases hm
      received := by
        intro m hm
        cases hm
      queued := fun i _ => hempty i }

/-! ## Gaps -/

/-- Neighbours in a filtered range leave out what is between them. -/
lemma between_of_filter_range {p : Nat → Bool} {n a k₁ k₂ : Nat}
    (h₁ : ((List.range n).filter p)[a]? = some k₁)
    (h₂ : ((List.range n).filter p)[a + 1]? = some k₂) :
    k₁ < k₂ ∧ k₂ < n ∧ ∀ k, k₁ < k → k < k₂ → p k = false := by
  have hsorted : ((List.range n).filter p).Pairwise (· < ·) := List.pairwise_lt_range.filter p
  rw [List.pairwise_iff_getElem] at hsorted
  obtain ⟨ha₁, rfl⟩ := List.getElem?_eq_some_iff.1 h₁
  obtain ⟨ha₂, rfl⟩ := List.getElem?_eq_some_iff.1 h₂
  have hmem := List.mem_filter.1 (List.getElem_mem ha₂)
  refine ⟨hsorted a (a + 1) ha₁ ha₂ (Nat.lt_succ_self a), List.mem_range.1 hmem.1,
    fun k hlow hhigh => ?_⟩
  by_contra hp
  have hk : k ∈ (List.range n).filter p :=
    List.mem_filter.2 ⟨List.mem_range.2 (hhigh.trans (List.mem_range.1 hmem.1)), by simpa using hp⟩
  obtain ⟨j, hj, rfl⟩ := List.getElem_of_mem hk
  -- A place before the first neighbour holds less, and one after the second holds more.
  rcases Nat.lt_or_ge a j with hlt | hle
  · rcases Nat.lt_or_eq_of_le (Nat.succ_le_of_lt hlt) with hgt | heq
    · exact absurd (hsorted (a + 1) j ha₂ hj hgt) (Nat.lt_asymm hhigh)
    · subst heq
      exact absurd hhigh (Nat.lt_irrefl _)
  · rcases Nat.lt_or_eq_of_le hle with hlt | heq
    · exact absurd (hsorted j a hj ha₁ hlt) (Nat.lt_asymm hlow)
    · subst heq
      exact absurd hlow (Nat.lt_irrefl _)

/-- The moments at which a sink loses a conversion, of those between two that it received. -/
lemma countP_lost {t : List Moment} {i k₁ k₂ : Nat} (hk₂ : k₂ < (conversions t).length)
    (hreceived : ∀ m ∈ conversions t, m.received i = !m.lost i)
    (hbetween : ∀ k, k₁ < k → k < k₂ →
      ((conversions t)[k]?).any (·.received i) = false) :
    (((conversions t).take k₂).drop (k₁ + 1)).countP (·.lost i) = k₂ - (k₁ + 1) := by
  rw [List.countP_eq_length.2 fun m hm => ?_, List.length_drop, List.length_take,
    Nat.min_eq_left hk₂.le]
  obtain ⟨j, hj⟩ := List.mem_iff_getElem?.1 hm
  rw [List.getElem?_drop, List.getElem?_take, Option.ite_none_right_eq_some] at hj
  obtain ⟨hlt, hget⟩ := hj
  have hout := hbetween (k₁ + 1 + j) (by omega) hlt
  rw [hget, Option.any_some, hreceived m (List.mem_of_getElem? hget)] at hout
  simpa using hout

/-- What the numbers of a history say, where `s` is the state that it leaves. -/
structure Numbered (width : Nat) (t : List Moment) (s : HandleQueues) : Prop where
  /-- Every conversion is counted, and has the number of its place whether it is stored or not. -/
  count : s.source.conversions = (conversions t).length
  numbered : ∀ k m, (conversions t)[k]? = some m →
    m.before.source.sequence.toNat = k % 2 ^ 16 ∧
      m.after.source.sequence.toNat = (k + 1) % 2 ^ 16 ∧
      ∀ d, m.delivery? = some d → d.sequence.toNat = k % 2 ^ 16
  /-- The pool was asked for a slot once for each conversion, and by its other users. -/
  requests : s.source.conversions + borrowings t =
    s.source.pool.stats.allocs + s.source.pool.stats.allocFailed
  /-- A sink receives a conversion unless this finds no slot or is refused. -/
  received : ∀ m ∈ conversions t, ∀ i < width, m.received i = !m.lost i
  /-- Two sets that are taken from a sink one after the other are two conversions that it received
  one after the other, and the gap between their numbers counts the conversions that it lost. -/
  gaps : ∀ i < width, ∀ (a : Nat) (s₁ s₂ : UInt16),
    (yields i t)[a]? = some s₁ → (yields i t)[a + 1]? = some s₂ →
    ∃ k₁ k₂, (accepted i t)[a]? = some k₁ ∧ (accepted i t)[a + 1]? = some k₂ ∧ k₁ < k₂ ∧
      s₁ = UInt16.ofNat k₁ ∧ s₂ = UInt16.ofNat k₂ ∧
      (s₂ - s₁ - 1).toNat =
        (((conversions t).take k₂).drop (k₁ + 1)).countP (·.lost i) % 2 ^ 16

namespace Follows

variable {width : Nat}

lemma exists_accepted (hf : Follows width t s) (hi : i < width) {a : Nat} {n : UInt16}
    (hn : (yields i t)[a]? = some n) :
    ∃ k, (accepted i t)[a]? = some k ∧ n = UInt16.ofNat k := by
  have hlt := (List.getElem?_eq_some_iff.1 hn).1
  rw [← List.getElem?_append_left hlt, hf.queued i (hf.width ▸ hi), List.getElem?_map,
    Option.map_eq_some_iff] at hn
  obtain ⟨k, hk, rfl⟩ := hn
  exact ⟨k, hk, rfl⟩

lemma numbers (hf : Follows width t s) : Numbered width t s where
  count := hf.count
  numbered k m hk := by
    obtain ⟨hbefore, hafter, hdelivered⟩ := hf.numbered k m hk
    rw [hbefore, hafter, UInt16.toNat_ofNat', UInt16.toNat_ofNat']
    refine ⟨rfl, rfl, fun d hd => ?_⟩
    rw [hdelivered d hd, UInt16.toNat_ofNat']
  requests := hf.count ▸ hf.requests.symm
  received m hm i hi := hf.received m hm i (hf.width ▸ hi)
  gaps i hi a s₁ s₂ h₁ h₂ := by
    obtain ⟨k₁, hk₁, rfl⟩ := hf.exists_accepted hi h₁
    obtain ⟨k₂, hk₂, rfl⟩ := hf.exists_accepted hi h₂
    obtain ⟨hlt, hlast, hbetween⟩ := between_of_filter_range hk₁ hk₂
    refine ⟨k₁, k₂, hk₁, hk₂, hlt, rfl, rfl, ?_⟩
    rw [countP_lost hlast (fun m hm => hf.received m hm i (hf.width ▸ hi)) hbetween]
    simp only [UInt16.toNat_sub, UInt16.toNat_ofNat', UInt16.toNat_one]
    omega

end Follows

/-- Whatever is converted, fetched, released and consumed in whatever order, with faults and other
users of the pool in between, the numbers of the sets tell how many conversions were lost. The
counter of a slot has 32 bits and counts a copy for each sink and one more. -/
theorem numbered_of_incidents {size perSet : Nat} {pool : Pool}
    (hpool : Pool.new size perSet = .ok pool) (sinks : List Config.Sink)
    (hsinks : sinks.length + 1 < 2 ^ 32) (script : List Incident) :
    Numbered sinks.length (history script (.start pool sinks))
      (script.foldl HandleQueues.happen (.start pool sinks)) :=
  ((follows_start hpool hsinks).history script).numbers

/-- Between two sets of the first sink one conversion is refused and two find no slot, the second
of them because another user holds it. -/
theorem numbered_of_borrowed_slot : ∃ pool, Pool.new 2 2 = .ok pool ∧
    let sinks : List Config.Sink := [⟨"adc", 1⟩, ⟨"log", 4⟩]
    let script : List Incident :=
      [.move (.convert [1]), .move (.convert [2]), .move (.convert [3]), .fault .dma,
        .move (.fetch 0), .move (.consume 1 "A" Console.fresh), .move (.release 0),
        .borrow 9 [7, 7], .move (.convert [4]), .move (.release 0), .move (.convert [5]),
        .move (.fetch 0)]
    let t := history script (.start pool sinks)
    yields 0 t = [0, 4] ∧ accepted 0 t = [0, 4] ∧ borrowings t = 1 ∧
      Numbered 2 t (script.foldl HandleQueues.happen (.start pool sinks)) := by
  have hpool : Pool.new 2 2 = .ok _ := rfl
  refine ⟨_, hpool, by decide +kernel, by decide +kernel, rfl, ?_⟩
  exact numbered_of_incidents hpool [⟨"adc", 1⟩, ⟨"log", 4⟩] (by decide) _

end History

end Instrument
