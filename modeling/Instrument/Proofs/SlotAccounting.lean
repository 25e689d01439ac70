import Instrument.Proofs.Interleaving
import Instrument.Proofs.PoolAccounting

/-!
# Slots and their holders under interleaving

A slot is held by the pass that filled it, by the copies of its handle in the sinks, by the
reservation for a post that is not settled, and by consumers. However passes and consumers take
turns, the slot counts all of them, so it is freed once, by the last one to leave.
-/

namespace Instrument

/-- Whether the pass holds the handle for a sink. -/
def Stage.reserved : Stage → Nat
  | .fill _ => 0
  | .offer => 0
  | .post _ => 1
  | .undo => 1

@[simp] lemma Stage.reserved_offer : Stage.offer.reserved = 0 := rfl

@[simp] lemma Stage.reserved_post (sink : Nat) : (Stage.post sink).reserved = 1 := rfl

@[simp] lemma Stage.reserved_undo : Stage.undo.reserved = 1 := rfl

namespace Pipeline

/-- The pass's own hold on a slot. -/
def own (s : Pipeline) (h : Handle) : Nat :=
  match s.pass with
  | some pass => if pass.handle = h then 1 else 0
  | none => 0

/-- The holds on a slot for posts that are not settled. -/
def reserved (s : Pipeline) (h : Handle) : Nat :=
  match s.pass with
  | some pass => if pass.handle = h then pass.stage.reserved else 0
  | none => 0

/-- The copies of a handle that wait in the sinks. -/
def queued (s : Pipeline) (h : Handle) : Nat :=
  (Source.queued s.source.sinks).count h

/-- The copies of a handle that consumers have fetched and not released. -/
def fetched (s : Pipeline) (h : Handle) : Nat :=
  (s.held.map (·.2)).count h

/-- The copies of a handle that passes have given away. -/
def given (s : Pipeline) (h : Handle) : Nat :=
  s.queued h + s.fetched h

def copies (s : Pipeline) (h : Handle) : Nat :=
  s.own h + (s.queued h + s.reserved h) + s.fetched h

/-- Every slot counts its holders, and the copies of a handle that a pass has given away are no
more than the sinks that took it. -/
structure Counted (s : Pipeline) : Prop where
  accounts : s.source.pool.Accounts s.copies
  narrow : s.route.length + 1 < 2 ^ 32
  given_le : ∀ pass, s.pass = some pass → s.given pass.handle ≤ pass.accepted
  asked : ∀ pass, s.pass = some pass →
    pass.accepted + pass.rejected + pass.stage.reserved + pass.rest.length = s.route.length
  reported : ∀ d, some d ∈ s.deliveries → d.reclaimed = (d.accepted == 0)

variable {s : Pipeline} {pass : Pass} {h : Handle}

lemma copies_of_pass (hpass : s.pass = some pass) (h : Handle) :
    s.copies h = (if pass.handle = h then 1 + pass.stage.reserved else 0) +
      s.given h := by
  simp only [copies, own, reserved, given, hpass]
  split <;> omega

lemma copies_of_idle (hpass : s.pass = none) (h : Handle) :
    s.copies h = s.given h := by
  simp only [copies, own, reserved, given, hpass]
  omega

/-- What the pass holds does not depend on what the consumers do. -/
lemma copies_add_given {s' : Pipeline} (hpass : s'.pass = s.pass) (h : Handle) :
    s'.copies h + s.given h = s.copies h + s'.given h := by
  simp only [copies, own, reserved, given, hpass]
  omega

/-- A post adds one copy to the sinks if it is taken and none if it is refused. -/
lemma exists_postAt (sink : Nat) (h : Handle) (source : Source) :
    ∃ taken sinks, postAt sink h source = (taken, { source with sinks }) ∧
      (Source.queued sinks).count h = (Source.queued source.sinks).count h + taken.toNat ∧
      ∀ k, k ≠ h → (Source.queued sinks).count k = (Source.queued source.sinks).count k := by
  unfold postAt
  cases hsink : source.sinks[sink]? with
  | none => exact ⟨false, source.sinks, rfl, rfl, fun _ _ => rfl⟩
  | some mailbox =>
    dsimp only
    by_cases hroom : mailbox.messages.length < mailbox.capacity
    · obtain ⟨mailbox', hpost, hmessages, -⟩ := Mailbox.post_of_lt hroom h
      rw [hpost]
      refine ⟨true, source.sinks.set sink mailbox', rfl, ?_, fun k hk => ?_⟩
      · have hset := Source.count_queued_set hsink mailbox' h
        rw [hmessages, List.count_append, List.count_singleton_self] at hset
        rw [Bool.toNat_true]
        omega
      · have hset := Source.count_queued_set hsink mailbox' k
        rw [hmessages, List.count_append, List.count_singleton, if_neg (by simpa using Ne.symm hk)]
          at hset
        omega
    · obtain ⟨mailbox', hpost, hmessages, -⟩ := Mailbox.post_of_le (not_lt.1 hroom) h
      rw [hpost]
      have hset : ∀ k, (Source.queued (source.sinks.set sink mailbox')).count k =
          (Source.queued source.sinks).count k := by
        intro k
        have hset := Source.count_queued_set hsink mailbox' k
        rw [hmessages] at hset
        omega
      exact ⟨false, source.sinks.set sink mailbox', rfl, hset h, fun k _ => hset k⟩

namespace Counted

lemma convert (hs : s.Counted) (hpass : s.pass = none) (raw : List UInt16) :
    (s.convert raw).Counted := by
  rcases ha : s.source.pool.alloc with ⟨_ | h, pool⟩
  · have hc : s.convert raw = { s with
        source := { s.source with
          pool, conversions := s.source.conversions + 1, sequence := s.source.sequence + 1 }
        deliveries := s.deliveries ++ [none] } := by
      simp only [Pipeline.convert, ha]
    rw [hc]
    refine ⟨(hs.accounts.alloc_none ha).1, hs.narrow, hs.given_le, hs.asked, fun d hd => ?_⟩
    exact hs.reported d (by simpa using hd)
  · let taken : Pipeline := { s with
        source := { s.source with
          pool, conversions := s.source.conversions + 1, sequence := s.source.sequence + 1 }
        pass := some ⟨h, s.source.sequence, 0, 0, s.route, .fill raw⟩ }
    have hc : s.convert raw = taken := by
      simp only [Pipeline.convert, ha, taken]
    have hzero : s.given h = 0 := by
      rw [← copies_of_idle hpass]
      exact (hs.accounts.free_of_alloc ha).2
    rw [hc]
    refine ⟨hs.accounts.alloc_some ha ?_ fun k hk => ?_, hs.narrow, ?_, ?_, hs.reported⟩
    · rw [copies_of_pass rfl, if_pos rfl]
      exact congrArg (1 + ·) hzero
    · rw [copies_of_pass rfl, if_neg (Ne.symm hk), copies_of_idle hpass]
      exact Nat.zero_add _
    · rintro _ ⟨⟩
      exact hzero.le
    · rintro _ ⟨⟩
      simp [Stage.reserved, taken]

lemma fill (hs : s.Counted) (hpass : s.pass = some pass) {raw : List UInt16}
    (hstage : pass.stage = .fill raw) : (s.proceed pass).Counted := by
  have hp : s.proceed pass = { s with
      source := { s.source with
        pool := (s.source.pool.fill pass.handle pass.sequence raw).2 }
      pass := some { pass with stage := .offer } } := by
    simp only [Pipeline.proceed, hstage]
  have hown : 0 < s.copies pass.handle := by
    rw [copies_of_pass hpass, if_pos rfl]
    omega
  have hcopies : ∀ k, (s.proceed pass).copies k = s.copies k := by
    intro k
    rw [hp, copies_of_pass hpass, copies_of_pass rfl, hstage]
    rfl
  have hasked := hs.asked pass hpass
  rw [hstage] at hasked
  rw [hp] at hcopies ⊢
  refine ⟨(hs.accounts.fill hown pass.sequence raw).congr hcopies, hs.narrow, ?_, ?_, hs.reported⟩
  · rintro _ ⟨⟩
    exact hs.given_le pass hpass
  · rintro _ ⟨⟩
    exact hasked

/-- The handle is held for the next sink. The counter has room, as a pass gives away no more
copies than it has sinks. -/
lemma offer (hs : s.Counted) (hpass : s.pass = some pass) (hstage : pass.stage = .offer)
    {sink : Nat} {rest : List Nat} (hrest : pass.rest = sink :: rest) :
    (s.proceed pass).Counted := by
  have hp : s.proceed pass = { s with
      source := { s.source with pool := s.source.pool.retain pass.handle }
      pass := some { pass with rest, stage := .post sink } } := by
    simp only [Pipeline.proceed, hstage, hrest]
  have hown := copies_of_pass hpass pass.handle
  rw [if_pos rfl, hstage, Stage.reserved_offer] at hown
  have hgiven := hs.given_le pass hpass
  have hasked := hs.asked pass hpass
  rw [hstage, hrest, List.length_cons, Stage.reserved_offer] at hasked
  have hnarrow := hs.narrow
  rw [hp]
  refine ⟨hs.accounts.retain (by omega) (by omega) ?_ fun k hk => ?_, hnarrow, ?_, ?_, hs.reported⟩
  · rw [copies_of_pass rfl, if_pos rfl, Stage.reserved_post, hown]
    change 1 + 1 + s.given pass.handle = _
    omega
  · rw [copies_of_pass rfl, copies_of_pass hpass, if_neg (Ne.symm hk), if_neg (Ne.symm hk)]
    rfl
  · rintro _ ⟨⟩
    exact hgiven
  · rintro _ ⟨⟩
    change pass.accepted + pass.rejected + 1 + rest.length = s.route.length
    omega

/-- A taken post turns the reservation into a queued copy, and a refused one leaves it. -/
lemma post (hs : s.Counted) (hpass : s.pass = some pass) {sink : Nat}
    (hstage : pass.stage = .post sink) : (s.proceed pass).Counted := by
  obtain ⟨taken, sinks, hpost, hself, hother⟩ := exists_postAt sink pass.handle s.source
  have hgiven : s.queued pass.handle + s.fetched pass.handle ≤ pass.accepted :=
    hs.given_le pass hpass
  have hasked := hs.asked pass hpass
  rw [hstage, Stage.reserved_post] at hasked
  have hcopies : ∀ k, s.copies k = (if pass.handle = k then 2 else 0) +
      ((Source.queued s.source.sinks).count k + s.fetched k) := by
    intro k
    rw [copies_of_pass hpass, hstage]
    rfl
  cases taken with
  | false =>
    have hp : s.proceed pass = { s with
        source := { s.source with sinks }, pass := some { pass with stage := .undo } } := by
      simp only [Pipeline.proceed, hstage, hpost]
    have hsame : ∀ k, (Source.queued sinks).count k = s.queued k := by
      intro k
      by_cases hk : k = pass.handle
      · exact hk ▸ hself
      · exact hother k hk
    rw [hp]
    refine ⟨hs.accounts.congr fun k => ?_, hs.narrow, ?_, ?_, hs.reported⟩
    · rw [copies_of_pass rfl, hcopies]
      change _ + ((Source.queued sinks).count k + s.fetched k) = _
      rw [hsame]
      rfl
    · rintro _ ⟨⟩
      change (Source.queued sinks).count pass.handle + s.fetched pass.handle ≤ pass.accepted
      rw [hsame]
      exact hgiven
    · rintro _ ⟨⟩
      exact hasked
  | true =>
    have hp : s.proceed pass = { s with
        source := { s.source with sinks }
        pass := some { pass with accepted := pass.accepted + 1, stage := .offer } } := by
      simp only [Pipeline.proceed, hstage, hpost]
    -- The reservation becomes the queued copy, so the slot counts as many as before.
    rw [Bool.toNat_true] at hself
    have hqueued : s.queued pass.handle = (Source.queued s.source.sinks).count pass.handle := rfl
    rw [hp]
    refine ⟨hs.accounts.congr fun k => ?_, hs.narrow, ?_, ?_, hs.reported⟩
    · rw [copies_of_pass rfl, Stage.reserved_offer, hcopies]
      change (if pass.handle = k then 1 else 0) +
        ((Source.queued sinks).count k + s.fetched k) = _
      by_cases hk : k = pass.handle
      · subst hk
        rw [if_pos rfl, if_pos rfl, hself]
        omega
      · rw [if_neg (Ne.symm hk), if_neg (Ne.symm hk), hother k hk]
    · rintro _ ⟨⟩
      change (Source.queued sinks).count pass.handle + s.fetched pass.handle ≤ pass.accepted + 1
      omega
    · rintro _ ⟨⟩
      change pass.accepted + 1 + pass.rejected + 0 + pass.rest.length = s.route.length
      omega

lemma undo (hs : s.Counted) (hpass : s.pass = some pass) (hstage : pass.stage = .undo) :
    (s.proceed pass).Counted := by
  have hp : s.proceed pass = { s with
      source := { s.source with pool := ((Pool.release pass.handle).exec s.source.pool).2 }
      pass := some { pass with rejected := pass.rejected + 1, stage := .offer } } := by
    simp only [Pipeline.proceed, hstage]
  have hown := copies_of_pass hpass pass.handle
  rw [if_pos rfl, hstage, Stage.reserved_undo] at hown
  have hasked := hs.asked pass hpass
  rw [hstage, Stage.reserved_undo] at hasked
  rw [hp]
  refine ⟨(hs.accounts.release (h := pass.handle) (by omega) ?_ fun k hk => ?_).2, hs.narrow, ?_,
    ?_, hs.reported⟩
  · rw [copies_of_pass rfl, if_pos rfl, Stage.reserved_offer, hown]
    change 1 + 0 + s.given pass.handle + 1 = _
    omega
  · rw [copies_of_pass rfl, copies_of_pass hpass, if_neg (Ne.symm hk), if_neg (Ne.symm hk)]
    rfl
  · rintro _ ⟨⟩
    exact hs.given_le pass hpass
  · rintro _ ⟨⟩
    change pass.accepted + (pass.rejected + 1) + 0 + pass.rest.length = s.route.length
    omega

/-- The pass lets go of its slot, and frees it when the copies it has given away are gone. If it
gave none away, that is so. -/
lemma release_finish (hs : s.Counted) (hpass : s.pass = some pass) (hstage : pass.stage = .offer) :
    ((Pool.release pass.handle).exec s.source.pool).1 = .ok (s.given pass.handle == 0) ∧
      ((Pool.release pass.handle).exec s.source.pool).2.Accounts s.given := by
  have hcopies : ∀ k, s.copies k = (if pass.handle = k then 1 else 0) + s.given k := by
    intro k
    rw [copies_of_pass hpass, hstage]
    rfl
  have hown := hcopies pass.handle
  rw [if_pos rfl] at hown
  refine hs.accounts.release (by omega) (by omega) fun k hk => ?_
  rw [hcopies, if_neg (Ne.symm hk), Nat.zero_add]

lemma proceed_finish (hs : s.Counted) (hpass : s.pass = some pass) (hstage : pass.stage = .offer)
    (hrest : pass.rest = []) :
    s.proceed pass = { s with
      source := { s.source with pool := ((Pool.release pass.handle).exec s.source.pool).2 }
      pass := none
      deliveries := s.deliveries ++
        [some ⟨pass.sequence, pass.accepted, pass.rejected, pass.accepted == 0⟩] } := by
  have hp : s.proceed pass = s.finish pass := by
    simp only [Pipeline.proceed, hstage, hrest]
  have hgiven := hs.given_le pass hpass
  have hfreed := (hs.release_finish hpass hstage).1
  rw [hp, Pipeline.finish]
  rcases he : (Pool.release pass.handle).exec s.source.pool with ⟨freed, pool⟩
  rw [he] at hfreed
  dsimp only at hfreed
  subst hfreed
  cases hleft : s.given pass.handle == 0 with
  | true => rfl
  | false =>
    have hne : (pass.accepted == 0) = false := by
      rw [beq_eq_false_iff_ne] at hleft ⊢
      omega
    rw [hne]

lemma finish (hs : s.Counted) (hpass : s.pass = some pass) (hstage : pass.stage = .offer)
    (hrest : pass.rest = []) : (s.proceed pass).Counted := by
  rw [hs.proceed_finish hpass hstage hrest]
  refine ⟨(hs.release_finish hpass hstage).2.congr fun k => ?_, hs.narrow, nofun, nofun,
    fun d hd => ?_⟩
  · rw [copies_of_idle rfl]
    rfl
  · rcases List.mem_append.1 hd with hd | hd
    · exact hs.reported d hd
    · cases List.mem_singleton.1 hd
      rfl

lemma proceed (hs : s.Counted) (hpass : s.pass = some pass) : (s.proceed pass).Counted := by
  cases hstage : pass.stage with
  | fill raw => exact hs.fill hpass hstage
  | offer =>
    cases hrest : pass.rest with
    | nil => exact hs.finish hpass hstage hrest
    | cons sink rest => exact hs.offer hpass hstage hrest
  | post sink => exact hs.post hpass hstage
  | undo => exact hs.undo hpass hstage

/-- A change in the hands of the consumers, of which the pass takes no notice. -/
lemma of_given {s' : Pipeline} (hs : s.Counted) (haccounts : s'.source.pool.Accounts s'.copies)
    (hroute : s'.route = s.route) (hpass : s'.pass = s.pass)
    (hdeliveries : s'.deliveries = s.deliveries) (hgiven : ∀ h, s'.given h ≤ s.given h) :
    s'.Counted where
  accounts := haccounts
  narrow := hroute ▸ hs.narrow
  given_le pass hp := (hgiven pass.handle).trans (hs.given_le pass (hpass ▸ hp))
  asked pass hp := hroute ▸ hs.asked pass (hpass ▸ hp)
  reported d hd := hs.reported d (hdeliveries ▸ hd)

lemma fetch (hs : s.Counted) (consumer sink : Nat) : (s.fetch consumer sink).Counted := by
  rcases hf : s.source.fetch sink with ⟨_ | h, source⟩
  · obtain ⟨rfl, -⟩ := Source.fetch_eq_none hf
    simpa only [Pipeline.fetch, hf] using hs
  · have hp : s.fetch consumer sink = { s with source, held := (consumer, h) :: s.held } := by
      simp only [Pipeline.fetch, hf]
    have hpool : source.pool = s.source.pool := by
      obtain ⟨-, -, -, -, -, rfl⟩ := Source.fetch_eq_some hf
      rfl
    -- The copy leaves the queue for the consumer, and the slot counts both alike.
    have hgiven : ∀ k, (s.fetch consumer sink).given k = s.given k := by
      intro k
      have hqueued := Source.count_queued_fetch hf k
      rw [hp]
      simp only [given, queued, fetched, List.map_cons, List.count_cons, beq_iff_eq, ← hqueued]
      omega
    refine hs.of_given ?_ (by rw [hp]) (by rw [hp]) (by rw [hp]) fun k => (hgiven k).le
    have hcopies : ∀ k, (s.fetch consumer sink).copies k = s.copies k := by
      intro k
      have hadd := copies_add_given (show (s.fetch consumer sink).pass = s.pass by rw [hp]) k
      have hsame := hgiven k
      omega
    have haccounts := hs.accounts.congr hcopies
    rw [← hpool] at haccounts
    rw [hp] at haccounts ⊢
    exact haccounts

/-- A consumer that has fetched a handle holds the slot, so its release is never refused. -/
lemma release (hs : s.Counted) (consumer : Nat) (h : Handle) : (s.release consumer h).Counted := by
  by_cases hheld : (consumer, h) ∈ s.held
  · have hp : s.release consumer h = { s with
        source := { s.source with pool := ((Pool.release h).exec s.source.pool).2 }
        held := s.held.erase (consumer, h) } := by
      rw [Pipeline.release, if_pos hheld]
      rfl
    have hfetched : ∀ k, (s.release consumer h).fetched k + (if h = k then 1 else 0) =
        s.fetched k := by
      intro k
      have hperm := (List.perm_cons_erase hheld).map (·.2)
      rw [hp]
      simp only [fetched]
      rw [hperm.count_eq, List.map_cons, List.count_cons]
      simp only [beq_iff_eq]
    have hgiven : ∀ k, (s.release consumer h).given k + (if h = k then 1 else 0) = s.given k := by
      intro k
      have hq : (s.release consumer h).queued k = s.queued k := by
        rw [hp]
        rfl
      have hf := hfetched k
      simp only [given, hq]
      omega
    have hcopies : ∀ k, (s.release consumer h).copies k + (if h = k then 1 else 0) =
        s.copies k := by
      intro k
      have hadd := copies_add_given (show (s.release consumer h).pass = s.pass by rw [hp]) k
      have hone := hgiven k
      omega
    have hself := hcopies h
    rw [if_pos rfl] at hself
    refine hs.of_given ?_ (by rw [hp]) (by rw [hp]) (by rw [hp]) fun k => by
      have hone := hgiven k
      omega
    have hpool : (s.release consumer h).source.pool =
        ((Pool.release h).exec s.source.pool).2 := by rw [hp]
    rw [hpool]
    refine (hs.accounts.release (by omega) hself fun k hk => ?_).2
    have hother := hcopies k
    rwa [if_neg (Ne.symm hk)] at hother
  · rwa [Pipeline.release, if_neg hheld]

lemma step (hs : s.Counted) (turn : Turn) : (s.step turn).Counted := by
  cases turn with
  | convert raw =>
    cases hpass : s.pass with
    | none => simpa only [Pipeline.step, hpass] using hs.convert hpass raw
    | some pass => simpa only [Pipeline.step, hpass] using hs
  | proceed =>
    cases hpass : s.pass with
    | none => simpa only [Pipeline.step, hpass] using hs
    | some pass => simpa only [Pipeline.step, hpass] using hs.proceed hpass
  | fetch consumer sink => exact hs.fetch consumer sink
  | release consumer h => exact hs.release consumer h

end Counted

lemma counted_run (hs : s.Counted) (schedule : List Turn) : (s.run schedule).Counted := by
  induction schedule generalizing s with
  | nil => exact hs
  | cons turn rest ih => exact ih (hs.step turn)

/-- A pass without interruption is one of the runs. -/
lemma Counted.complete (hs : s.Counted) (hpass : s.pass = none)
    (hroute : s.route = List.range s.source.sinks.length) (raw : List UInt16) :
    ({ s with
      source := (s.source.complete raw).2
      deliveries := s.deliveries ++ [(s.source.complete raw).1] } : Pipeline).Counted := by
  obtain ⟨n, hn⟩ := exists_run_complete hpass hroute raw
  rw [← hn]
  exact counted_run hs _

lemma counted_start {size perSet : Nat} {pool : Pool} (hpool : Pool.new size perSet = .ok pool)
    (sinks : List Config.Sink) {route : List Nat} (hroute : route.length + 1 < 2 ^ 32) :
    (start pool sinks route).Counted where
  accounts := by
    refine (Pool.accounts_new hpool).1.congr fun h => ?_
    rw [copies_of_idle rfl]
    have hempty : Source.queued (start pool sinks route).source.sinks = [] :=
      Source.queued_of_new _ _ sinks
    rw [given, queued, hempty]
    rfl
  narrow := hroute
  given_le := nofun
  asked := nofun
  reported := nofun

/-! ## The accounts of a run -/

lemma capacity_convert (s : Pipeline) (raw : List UInt16) :
    (s.convert raw).source.pool.capacity = s.source.pool.capacity := by
  have halloc := Pool.capacity_alloc s.source.pool
  unfold convert
  rcases ha : s.source.pool.alloc with ⟨_ | h, pool⟩
  · rw [ha] at halloc
    simpa only [ha] using halloc
  · rw [ha] at halloc
    simpa only [ha] using halloc

lemma capacity_proceed (s : Pipeline) (pass : Pass) :
    (s.proceed pass).source.pool.capacity = s.source.pool.capacity := by
  unfold proceed
  cases pass.stage with
  | fill raw => exact Pool.capacity_fill _ _ _ _
  | offer =>
    cases pass.rest with
    | nil => exact Pool.capacity_release _ _
    | cons sink rest => exact Pool.capacity_retain _ _
  | post sink =>
    obtain ⟨taken, sinks, hpost, -⟩ := exists_postAt sink pass.handle s.source
    simp only [hpost]
    cases taken <;> rfl
  | undo => exact Pool.capacity_release _ _

lemma capacity_step (s : Pipeline) (turn : Turn) :
    (s.step turn).source.pool.capacity = s.source.pool.capacity := by
  cases turn with
  | convert raw =>
    cases hpass : s.pass with
    | none => simpa only [step, hpass] using s.capacity_convert raw
    | some pass => simp only [step, hpass]
  | proceed =>
    cases hpass : s.pass with
    | none => simp only [step, hpass]
    | some pass => simpa only [step, hpass] using s.capacity_proceed pass
  | fetch consumer sink =>
    simp only [step, fetch]
    rcases hf : s.source.fetch sink with ⟨_ | h, source⟩
    · obtain ⟨rfl, -⟩ := Source.fetch_eq_none hf
      rfl
    · obtain ⟨-, -, -, -, -, rfl⟩ := Source.fetch_eq_some hf
      rfl
  | release consumer h =>
    simp only [step, release]
    split
    · exact Pool.capacity_release _ _
    · rfl

lemma capacity_run (s : Pipeline) (schedule : List Turn) :
    (s.run schedule).source.pool.capacity = s.source.pool.capacity := by
  induction schedule generalizing s with
  | nil => rfl
  | cons turn rest ih => exact (ih (s.step turn)).trans (s.capacity_step turn)

/-- The slots of a pool of some size agree with their holders. -/
structure Balanced (size : Nat) (s : Pipeline) : Prop where
  refs : ∀ h, (s.source.pool.refs h).toNat =
    s.own h + (s.queued h + s.reserved h) + s.fetched h
  free : ∀ h, h.index ∈ s.source.pool.free.toList ↔
    h.index.toNat < size ∧ s.own h + (s.queued h + s.reserved h) + s.fetched h = 0
  once : s.source.pool.free.toList.Nodup
  never_refused : s.source.pool.stats.releaseUnderflow = 0
  balance : s.source.pool.stats.allocs + s.source.pool.available =
    s.source.pool.stats.frees + size
  reported : ∀ d, some d ∈ s.deliveries → d.reclaimed = (d.accepted == 0)
  /-- The last step of a pass reports whether a sink took the set, and frees it if none did. -/
  finished : ∀ pass, s.pass = some pass → pass.stage = .offer → pass.rest = [] →
    (s.step .proceed).pass = none ∧
      (s.step .proceed).deliveries = s.deliveries ++
        [some ⟨pass.sequence, pass.accepted, pass.rejected, pass.accepted == 0⟩] ∧
      (pass.accepted = 0 →
        ((Pool.release pass.handle).exec s.source.pool).1 = .ok true ∧
          pass.handle.index ∈ (s.step .proceed).source.pool.free.toList)
  idle : s.pass = none → (∀ h, s.queued h = 0 ∧ s.fetched h = 0) →
    s.source.pool.available = size ∧ s.source.pool.stats.allocs = s.source.pool.stats.frees

lemma Counted.balanced (hs : s.Counted) : s.Balanced s.source.pool.capacity where
  refs := hs.accounts.refs
  free := hs.accounts.mem_free
  once := hs.accounts.free_nodup
  never_refused := hs.accounts.no_underflow
  balance := hs.accounts.balance
  reported := hs.reported
  finished pass hpass hstage hrest := by
    have hstep : s.step .proceed = s.proceed pass := by simp only [Pipeline.step, hpass]
    have hdone := hs.proceed_finish hpass hstage hrest
    rw [hstep]
    refine ⟨by rw [hdone], by rw [hdone], fun hnone => ?_⟩
    obtain ⟨hfreed, haccounts⟩ := hs.release_finish hpass hstage
    have hzero : s.given pass.handle = 0 := by
      have hle := hs.given_le pass hpass
      omega
    have hlt : pass.handle.index.toNat < s.source.pool.capacity := by
      refine hs.accounts.lt_capacity ?_
      rw [copies_of_pass hpass, if_pos rfl]
      omega
    refine ⟨by rw [hfreed, hzero]; rfl, ?_⟩
    rw [hdone]
    exact (haccounts.mem_free pass.handle).2 ⟨by rwa [Pool.capacity_release], hzero⟩
  idle hpass hempty := by
    refine hs.accounts.available_eq fun h => ?_
    obtain ⟨hqueued, hfetched⟩ := hempty h
    rw [copies_of_idle hpass, given, hqueued, hfetched]

/-- However a producer and consumers take turns at the pipeline, every slot counts exactly its
holders. A pass may give away one copy for each sink and holds one of its own, and the counter of a
slot has 32 bits. -/
theorem balanced_of_run {size perSet : Nat} {pool : Pool}
    (hpool : Pool.new size perSet = .ok pool) (sinks : List Config.Sink) (route : List Nat)
    (hroute : route.length + 1 < 2 ^ 32) (schedule : List Turn) :
    ((start pool sinks route).run schedule).Balanced size := by
  have hcapacity : ((start pool sinks route).run schedule).source.pool.capacity = size :=
    (capacity_run _ schedule).trans (Pool.accounts_new hpool).2.1
  have hcounted := counted_run (counted_start hpool sinks hroute) schedule
  exact hcapacity ▸ hcounted.balanced

/-- Two slots, a sink that is asked twice and one without room, and a consumer that releases the
set before the pass is over. -/
theorem balanced_of_early_release : ∃ pool, Pool.new 2 4 = .ok pool ∧
    ((start pool [⟨"adc", 1⟩, ⟨"log", 0⟩] [0, 1, 0]).run
      [.convert [7, 8], .proceed, .proceed, .proceed, .fetch 1 0, .release 1 ⟨0⟩, .proceed,
        .proceed, .proceed, .proceed, .proceed, .proceed]).Balanced 2 := by
  have hpool : Pool.new 2 4 = .ok _ := rfl
  exact ⟨_, hpool, balanced_of_run hpool _ _ (by decide) _⟩

end Pipeline

end Instrument
