import Instrument.Source
import Mathlib.Tactic.Lemma

/-!
# What is queued in the sinks

A sink's queue is read as the list of its messages. A post appends to one queue or to none, and a
fetch takes the head of one; the messages of all sinks together change by one handle.
-/

namespace Instrument

namespace Mailbox

variable {α : Type} {m m' : Mailbox α} {a : α}

/-- The waiting messages, the oldest first. -/
def messages (m : Mailbox α) : List α :=
  m.queue.toList

/-- Two states of one mailbox differ in what is queued. -/
structure Same (m m' : Mailbox α) : Prop where
  name : m'.name = m.name
  capacity : m'.capacity = m.capacity

lemma length_messages (m : Mailbox α) : m.messages.length = m.size :=
  Queue.length_toList m.queue

lemma post_of_lt (h : m.messages.length < m.capacity) (a : α) :
    ∃ m', m.post a = (true, m') ∧ m'.messages = m.messages ++ [a] ∧ Same m m' := by
  rw [length_messages] at h
  refine ⟨{ m with queue := m.queue.push a }, by rw [post, if_pos h], ?_, rfl, rfl⟩
  exact Queue.toList_push m.queue a

lemma post_of_le (h : m.capacity ≤ m.messages.length) (a : α) :
    ∃ m', m.post a = (false, m') ∧ m'.messages = m.messages ∧ Same m m' := by
  rw [length_messages] at h
  exact ⟨{ m with overflow := m.overflow + 1 }, by rw [post, if_neg (Nat.not_lt.2 h)], rfl, rfl,
    rfl⟩

lemma post_fst (m : Mailbox α) (a : α) :
    (m.post a).1 = decide (m.messages.length < m.capacity) := by
  by_cases hroom : m.messages.length < m.capacity
  · obtain ⟨m', hpost, -⟩ := post_of_lt hroom a
    rw [hpost, decide_eq_true hroom]
  · obtain ⟨m', hpost, -⟩ := post_of_le (Nat.not_lt.1 hroom) a
    rw [hpost, decide_eq_false hroom]

lemma mem_messages_post {b : α} (h : b ∈ (m.post a).2.messages) : b = a ∨ b ∈ m.messages := by
  by_cases hroom : m.messages.length < m.capacity
  · obtain ⟨m', hpost, hmessages, -⟩ := post_of_lt hroom a
    rw [hpost, hmessages, List.mem_append, List.mem_singleton] at h
    exact h.symm
  · obtain ⟨m', hpost, hmessages, -⟩ := post_of_le (Nat.not_lt.1 hroom) a
    rw [hpost, hmessages] at h
    exact .inr h

lemma fetch_eq_none (h : m.fetch = (none, m')) : m.messages = [] ∧ m' = m := by
  unfold fetch at h
  cases hq : m.queue.pop? with
  | none =>
    rw [hq] at h
    cases h
    exact ⟨Queue.pop?_eq_none_iff.1 hq, rfl⟩
  | some popped =>
    rw [hq] at h
    cases h

lemma fetch_eq_some (h : m.fetch = (some a, m')) :
    m.messages = a :: m'.messages ∧ Same m m' := by
  unfold fetch at h
  cases hq : m.queue.pop? with
  | none =>
    rw [hq] at h
    cases h
  | some popped =>
    rw [hq] at h
    cases h
    exact ⟨Queue.toList_eq_cons_of_pop? hq, rfl, rfl⟩

end Mailbox

namespace Source

variable {sinks : List (Mailbox Handle)} {sink sink' : Mailbox Handle} {s s' : Source} {h : Handle}

/-- The handles that wait in some sinks. -/
def queued (sinks : List (Mailbox Handle)) : List Handle :=
  sinks.flatMap (·.messages)

lemma queued_of_new {α : Type} (name : α → String) (capacity : α → Nat) (sinks : List α) :
    queued (sinks.map fun sink => .new (name sink) (capacity sink)) = [] := by
  rw [queued, List.flatMap_map, List.flatMap_eq_nil_iff]
  exact fun _ _ => rfl

lemma mem_queued_post {k : Handle} (hk : k ∈ queued (sinks.map fun sink => (sink.post h).2)) :
    k = h ∨ k ∈ queued sinks := by
  rw [queued, List.flatMap_map, List.mem_flatMap] at hk
  obtain ⟨sink, hsink, hk⟩ := hk
  rcases Mailbox.mem_messages_post hk with rfl | hk
  · exact .inl rfl
  · exact .inr (List.mem_flatMap.2 ⟨sink, hsink, hk⟩)

lemma count_queued_set {i : Nat} (hi : sinks[i]? = some sink) (sink' : Mailbox Handle)
    (h : Handle) :
    (queued (sinks.set i sink')).count h + sink.messages.count h =
      (queued sinks).count h + sink'.messages.count h := by
  induction sinks generalizing i with
  | nil => cases hi
  | cons first rest ih =>
    cases i with
    | zero =>
      cases hi
      simp only [queued, List.set_cons_zero, List.flatMap_cons, List.count_append]
      omega
    | succ i =>
      have hrest := ih hi
      simp only [queued, List.set_cons_succ, List.flatMap_cons, List.count_append] at hrest ⊢
      omega

lemma fetch_eq_none {i : Nat} (hf : s.fetch i = (none, s')) :
    s' = s ∧ ∀ sink, s.sinks[i]? = some sink → sink.messages = [] := by
  unfold fetch at hf
  cases hs : s.sinks[i]? with
  | none =>
    rw [hs] at hf
    cases hf
    exact ⟨rfl, nofun⟩
  | some sink =>
    rw [hs] at hf
    rcases hm : sink.fetch with ⟨taken, sink'⟩
    dsimp only at hf
    rw [hm] at hf
    cases hf
    obtain ⟨hempty, rfl⟩ := Mailbox.fetch_eq_none hm
    obtain ⟨hlt, rfl⟩ := List.getElem?_eq_some_iff.1 hs
    refine ⟨by rw [List.set_getElem_self], fun sink hsink => ?_⟩
    cases hsink
    exact hempty

lemma fetch_eq_some {i : Nat} (hf : s.fetch i = (some h, s')) :
    ∃ sink sink', s.sinks[i]? = some sink ∧ sink.messages = h :: sink'.messages ∧
      sink.Same sink' ∧ s' = { s with sinks := s.sinks.set i sink' } := by
  unfold fetch at hf
  cases hs : s.sinks[i]? with
  | none =>
    rw [hs] at hf
    cases hf
  | some sink =>
    rw [hs] at hf
    rcases hm : sink.fetch with ⟨taken, sink'⟩
    dsimp only at hf
    rw [hm] at hf
    cases hf
    obtain ⟨hmessages, hsame⟩ := Mailbox.fetch_eq_some hm
    exact ⟨sink, sink', rfl, hmessages, hsame, rfl⟩

/-- A sink with waiting messages yields the oldest. -/
lemma exists_fetch {i : Nat} {rest : List Handle} (hi : s.sinks[i]? = some sink)
    (hmessages : sink.messages = h :: rest) :
    ∃ sink', sink'.messages = rest ∧ sink.Same sink' ∧
      s.fetch i = (some h, { s with sinks := s.sinks.set i sink' }) := by
  rcases hf : s.fetch i with ⟨_ | k, s'⟩
  · rw [(fetch_eq_none hf).2 sink hi] at hmessages
    cases hmessages
  · obtain ⟨before, sink', hbefore, hhead, hsame, rfl⟩ := fetch_eq_some hf
    rw [hi] at hbefore
    cases hbefore
    rw [hhead] at hmessages
    cases hmessages
    exact ⟨sink', rfl, hsame, rfl⟩

/-- A fetch takes one copy of one handle out of the sinks. -/
lemma count_queued_fetch {i : Nat} (hf : s.fetch i = (some h, s')) (k : Handle) :
    (queued s'.sinks).count k + (if h = k then 1 else 0) = (queued s.sinks).count k := by
  obtain ⟨sink, sink', hi, hmessages, -, rfl⟩ := fetch_eq_some hf
  have hset := count_queued_set hi sink' k
  simp only [hmessages, List.count_cons, beq_iff_eq] at hset
  dsimp only
  omega

end Source

end Instrument
