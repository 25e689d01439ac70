import Instrument.Console.DataLine
import Instrument.Mailbox
import Instrument.Pool

/-!
The interrupt side of the pipeline. Every completed conversion takes the next sequence number; if a
slot is free, the conversion is stored there and offered to every sink in turn. The pass holds the
slot itself until it is over, so that a quick consumer cannot free it early, and each sink that
takes the handle holds it once more.
-/

namespace Instrument

inductive ConversionFault where
  | dma | analogOverflow
deriving DecidableEq

/-- The outcome of one pass over the sinks. -/
structure Delivery where
  sequence : UInt16
  /-- How many sinks took the set. -/
  accepted : Nat
  /-- How many sinks were full. -/
  rejected : Nat
  /-- Whether the set went straight back to the pool. -/
  reclaimed : Bool
deriving DecidableEq

structure Source where
  pool : Pool
  sinks : List (Mailbox Handle)
  /-- The number of the next conversion. -/
  sequence : UInt16
  conversions : Nat
  dmaErrors : Nat
  analogOverflow : Nat

namespace Source

def new (pool : Pool) (sinks : List (Mailbox Handle)) : Source :=
  ⟨pool, sinks, 0, 0, 0, 0⟩

/-- Offers a handle to one sink: it is held for the sink first, and let go again if refused. -/
def offer (h : Handle) (pool : Pool) (sink : Mailbox Handle) : Bool × Pool × Mailbox Handle :=
  let pool := pool.retain h
  match sink.post h with
  | (true, sink) => (true, pool, sink)
  | (false, sink) => (false, ((Pool.release h).exec pool).2, sink)

/-- Offers a handle to every sink in order. The answers say which of them took it. -/
def fanOut (h : Handle) : Pool → List (Mailbox Handle) → List Bool × Pool × List (Mailbox Handle)
  | pool, [] => ([], pool, [])
  | pool, sink :: rest =>
    let (taken, pool, sink) := offer h pool sink
    let (answers, pool, rest) := fanOut h pool rest
    (taken :: answers, pool, sink :: rest)

/-- Takes up one completed conversion; there is no delivery when no slot is free. -/
def complete (s : Source) (raw : List UInt16) : Option Delivery × Source :=
  let sequence := s.sequence
  let s := { s with conversions := s.conversions + 1, sequence := sequence + 1 }
  match s.pool.alloc with
  | (none, pool) => (none, { s with pool })
  | (some h, pool) =>
    let (_, pool) := pool.fill h sequence raw
    let (answers, pool, sinks) := fanOut h pool s.sinks
    let (freed, pool) := (Pool.release h).exec pool
    let accepted := answers.count true
    let reclaimed := match freed with
      | .ok true => accepted == 0
      | _ => false
    (some ⟨sequence, accepted, answers.count false, reclaimed⟩, { s with pool, sinks })

def fault (s : Source) : ConversionFault → Source
  | .dma => { s with dmaErrors := s.dmaErrors + 1 }
  | .analogOverflow => { s with analogOverflow := s.analogOverflow + 1 }

def fetch (s : Source) (i : Nat) : Option Handle × Source :=
  match s.sinks[i]? with
  | none => (none, s)
  | some sink =>
    let (h, sink) := sink.fetch
    (h, { s with sinks := s.sinks.set i sink })

def release (h : Handle) : Act Source Bool :=
  fun ⟨pool, sinks, sequence, conversions, dmaErrors, analogOverflow⟩ =>
    let (freed, pool) := (Pool.release h).exec pool
    (freed, ⟨pool, sinks, sequence, conversions, dmaErrors, analogOverflow⟩)

def dataLine (s : Source) (tag : String) (h : Handle) : DataLine :=
  ⟨tag, s.pool.sequence h, s.pool.samples h⟩

end Source

end Instrument
