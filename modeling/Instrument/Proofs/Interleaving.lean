import Instrument.Config
import Instrument.Proofs.SinkQueues

/-!
# Passes in single steps

A completed conversion is taken up in single steps: a slot is taken and filled, the handle is held
for each sink in turn, posted, and let go again where the post is refused; at last the pass lets go
of the slot itself. Between any two of these steps a consumer may fetch a handle or release one. A
pass whose steps follow each other at once does what `Source.complete` does.
-/

namespace Instrument

inductive Stage where
  | fill (raw : List UInt16)
  /-- Hold the handle for the next sink or, after the last one, let it go. -/
  | offer
  | post (sink : Nat)
  /-- Let the handle go that was held for a sink that refused it. -/
  | undo

/-- A conversion on its way to the sinks. -/
structure Pass where
  handle : Handle
  sequence : UInt16
  accepted : Nat
  rejected : Nat
  /-- The positions of the sinks that have yet to be asked. -/
  rest : List Nat
  stage : Stage

/-- The pipeline while passes and consumers take turns. -/
structure Pipeline where
  source : Source
  /-- The positions of the sinks in the order in which a pass asks them. One may occur twice. -/
  route : List Nat
  pass : Option Pass
  /-- The handles that consumers have fetched and not released. -/
  held : List (Nat × Handle)
  /-- What became of each conversion; nothing when no slot was free. -/
  deliveries : List (Option Delivery)

namespace Pipeline

def start (pool : Pool) (sinks : List Config.Sink) (route : List Nat) : Pipeline :=
  ⟨.new pool (sinks.map fun sink => .new sink.name sink.capacity), route, none, [], []⟩

/-- Takes up a conversion: it gets its number, and a slot if one is free. -/
def convert (raw : List UInt16) (s : Pipeline) : Pipeline :=
  let sequence := s.source.sequence
  let source :=
    { s.source with conversions := s.source.conversions + 1, sequence := sequence + 1 }
  match source.pool.alloc with
  | (none, pool) =>
    { s with source := { source with pool }, deliveries := s.deliveries ++ [none] }
  | (some handle, pool) =>
    { s with
      source := { source with pool }
      pass := some ⟨handle, sequence, 0, 0, s.route, .fill raw⟩ }

/-- Posts a handle to the sink at a position. Where there is no sink the post is refused. -/
def postAt (sink : Nat) (h : Handle) (source : Source) : Bool × Source :=
  match source.sinks[sink]? with
  | none => (false, source)
  | some mailbox =>
    let (taken, mailbox) := mailbox.post h
    (taken, { source with sinks := source.sinks.set sink mailbox })

def finish (pass : Pass) (s : Pipeline) : Pipeline :=
  let (freed, pool) := (Pool.release pass.handle).exec s.source.pool
  let reclaimed := match freed with
    | .ok true => pass.accepted == 0
    | _ => false
  { s with
    source := { s.source with pool }
    pass := none
    deliveries := s.deliveries ++ [some ⟨pass.sequence, pass.accepted, pass.rejected, reclaimed⟩] }

def proceed (pass : Pass) (s : Pipeline) : Pipeline :=
  match pass.stage with
  | .fill raw =>
    let (_, pool) := s.source.pool.fill pass.handle pass.sequence raw
    { s with source := { s.source with pool }, pass := some { pass with stage := .offer } }
  | .offer =>
    match pass.rest with
    | [] => s.finish pass
    | sink :: rest =>
      { s with
        source := { s.source with pool := s.source.pool.retain pass.handle }
        pass := some { pass with rest, stage := .post sink } }
  | .post sink =>
    match postAt sink pass.handle s.source with
    | (true, source) =>
      { s with
        source
        pass := some { pass with accepted := pass.accepted + 1, stage := .offer } }
    | (false, source) => { s with source, pass := some { pass with stage := .undo } }
  | .undo =>
    let (_, pool) := (Pool.release pass.handle).exec s.source.pool
    { s with
      source := { s.source with pool }
      pass := some { pass with rejected := pass.rejected + 1, stage := .offer } }

def fetch (consumer sink : Nat) (s : Pipeline) : Pipeline :=
  match s.source.fetch sink with
  | (none, source) => { s with source }
  | (some h, source) => { s with source, held := (consumer, h) :: s.held }

def release (consumer : Nat) (h : Handle) (s : Pipeline) : Pipeline :=
  if (consumer, h) ∈ s.held then
    { s with
      source := ((Source.release h).exec s.source).2
      held := s.held.erase (consumer, h) }
  else s

inductive Turn where
  | convert (raw : List UInt16)
  | proceed
  | fetch (consumer sink : Nat)
  | release (consumer : Nat) (h : Handle)

/-- The pipeline after a turn. Nothing happens when there is nothing to do: no conversion is taken
up during a pass, and none proceeds without one. -/
def step (s : Pipeline) : Turn → Pipeline
  | .convert raw =>
    match s.pass with
    | none => s.convert raw
    | some _ => s
  | .proceed =>
    match s.pass with
    | none => s
    | some pass => s.proceed pass
  | .fetch consumer sink => s.fetch consumer sink
  | .release consumer h => s.release consumer h

def run (s : Pipeline) (schedule : List Turn) : Pipeline :=
  schedule.foldl step s

/-! ## A pass without interruption -/

lemma run_append (s : Pipeline) (first second : List Turn) :
    s.run (first ++ second) = (s.run first).run second :=
  List.foldl_append

lemma postAt_length (done rest : List (Mailbox Handle)) (sink : Mailbox Handle) (h : Handle)
    {source : Source} (hs : source.sinks = done ++ sink :: rest) :
    postAt done.length h source =
      ((sink.post h).1, { source with sinks := (done ++ [(sink.post h).2]) ++ rest }) := by
  have hsink : source.sinks[done.length]? = some sink := by simp [hs]
  rw [postAt, hsink, hs]
  simp

end Pipeline

namespace Pass

/-- The pass after some sinks have answered. -/
def answered (pass : Pass) (answers : List Bool) (rest : List Nat) : Pass :=
  { pass with
    accepted := pass.accepted + answers.count true
    rejected := pass.rejected + answers.count false
    rest }

lemma answered_answered (pass : Pass) (first second : List Bool) (rest rest' : List Nat) :
    (pass.answered first rest).answered second rest' = pass.answered (first ++ second) rest' := by
  simp [answered, Nat.add_assoc]

end Pass

namespace Pipeline

def during (s : Pipeline) (pass : Pass) (pool : Pool) (sinks : List (Mailbox Handle)) : Pipeline :=
  { s with source := { s.source with pool, sinks }, pass := some pass }

/-- Two or three steps ask the next sink, as `Source.offer` does. -/
lemma run_offer (s : Pipeline) {pass : Pass} {pool pool' : Pool} {positions : List Nat}
    (done rest : List (Mailbox Handle)) {sink sink' : Mailbox Handle} {taken : Bool}
    (ho : Source.offer pass.handle pool sink = (taken, pool', sink'))
    (hstage : pass.stage = .offer) (hrest : pass.rest = done.length :: positions) :
    ∃ n, (s.during pass pool (done ++ sink :: rest)).run (List.replicate n .proceed) =
      s.during (pass.answered [taken] positions) pool' ((done ++ [sink']) ++ rest) := by
  obtain ⟨handle, sequence, accepted, rejected, rest', stage⟩ := pass
  dsimp only at ho hstage hrest
  subst hstage hrest
  have hpost := postAt_length done rest sink handle
    (rfl : ({ s.source with pool := pool.retain handle, sinks := done ++ sink :: rest } :
      Source).sinks = _)
  unfold Source.offer at ho
  rcases hm : sink.post handle with ⟨_ | _, posted⟩
  · rw [hm] at hpost ho
    cases ho
    exact ⟨3, by simp [run, step, proceed, during, Pass.answered, List.replicate, hpost]⟩
  · rw [hm] at hpost ho
    cases ho
    exact ⟨2, by simp [run, step, proceed, during, Pass.answered, List.replicate, hpost]⟩

/-- The steps up to the last sink do what `Source.fanOut` does. -/
lemma run_offers (s : Pipeline) {pass : Pass} (pool : Pool) (done rest : List (Mailbox Handle))
    (hstage : pass.stage = .offer) (hrest : pass.rest = List.range' done.length rest.length) :
    ∃ n, (s.during pass pool (done ++ rest)).run (List.replicate n .proceed) =
      s.during (pass.answered (Source.fanOut pass.handle pool rest).1 [])
        (Source.fanOut pass.handle pool rest).2.1
        (done ++ (Source.fanOut pass.handle pool rest).2.2) := by
  -- The induction moves the sinks from `rest` to `done`, so that the positions stay true.
  induction rest generalizing pass pool done with
  | nil =>
    refine ⟨0, ?_⟩
    obtain ⟨handle, sequence, accepted, rejected, rest', stage⟩ := pass
    dsimp only at hstage hrest
    subst hstage hrest
    rfl
  | cons sink rest ih =>
    rw [List.length_cons, List.range'_succ] at hrest
    rcases ho : Source.offer pass.handle pool sink with ⟨taken, pool', sink'⟩
    have hstage' : (pass.answered [taken] (List.range' (done.length + 1) rest.length)).stage =
        .offer := hstage
    have hrest' : (pass.answered [taken] (List.range' (done.length + 1) rest.length)).rest =
        List.range' (done ++ [sink']).length rest.length := by
      rw [List.length_append]
      rfl
    obtain ⟨n, hn⟩ := run_offer s done rest ho hstage hrest
    obtain ⟨m, hm⟩ := ih pool' (done ++ [sink']) hstage' hrest'
    have hfan : Source.fanOut pass.handle pool (sink :: rest) =
        (taken :: (Source.fanOut pass.handle pool' rest).1,
          (Source.fanOut pass.handle pool' rest).2.1,
          sink' :: (Source.fanOut pass.handle pool' rest).2.2) := by
      rw [Source.fanOut, ho]
    refine ⟨n + m, ?_⟩
    rw [← List.replicate_append_replicate, run_append, hn, hm, hfan, Pass.answered_answered]
    simp only [List.append_assoc]
    rfl

/-- A pass over all sinks that nobody interrupts is `Source.complete`. -/
theorem exists_run_complete {s : Pipeline} (hpass : s.pass = none)
    (hroute : s.route = List.range s.source.sinks.length) (raw : List UInt16) :
    ∃ n, s.run (.convert raw :: List.replicate n .proceed) =
      { s with
        source := (s.source.complete raw).2
        deliveries := s.deliveries ++ [(s.source.complete raw).1] } := by
  obtain ⟨source, route, pass, held, deliveries⟩ := s
  dsimp only at hpass hroute
  subst hpass hroute
  rcases ha : source.pool.alloc with ⟨_ | h, pool⟩
  · exact ⟨0, by simp [run, step, convert, Source.complete, ha]⟩
  · let counted : Pipeline :=
      ⟨{ source with conversions := source.conversions + 1, sequence := source.sequence + 1 },
        List.range source.sinks.length, none, held, deliveries⟩
    let pass : Pass := ⟨h, source.sequence, 0, 0, List.range source.sinks.length, .offer⟩
    have hrest : pass.rest = List.range' ([] : List (Mailbox Handle)).length source.sinks.length :=
      List.range_eq_range'
    obtain ⟨n, hn⟩ := run_offers counted (pool.fill h source.sequence raw).2 [] source.sinks rfl
      hrest
    have hfill : (⟨source, List.range source.sinks.length, none, held, deliveries⟩ : Pipeline).run
        [.convert raw, .proceed] =
        counted.during pass (pool.fill h source.sequence raw).2 source.sinks := by
      simp [run, step, convert, proceed, ha, during, counted, pass]
    refine ⟨1 + (n + 1), ?_⟩
    have hsteps : (.convert raw :: List.replicate (1 + (n + 1)) .proceed : List Turn) =
        [.convert raw, .proceed] ++ (List.replicate n .proceed ++ [.proceed]) := by
      rw [← List.replicate_append_replicate, ← List.replicate_append_replicate]
      rfl
    rw [List.nil_append] at hn
    rw [hsteps, run_append, hfill, run_append, hn]
    rcases hf : Source.fanOut h (pool.fill h source.sequence raw).2 source.sinks with
      ⟨answers, pool', sinks'⟩
    rcases hr : (Pool.release h).exec pool' with ⟨_ | _ | _, pool''⟩ <;>
      simp [run, step, proceed, finish, during, Pass.answered, Source.complete, ha, hf, hr, pass,
        counted]

end Pipeline

end Instrument
