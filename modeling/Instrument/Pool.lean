import Instrument.Act
import Instrument.Pool.Store
import Instrument.Queue

/-!
The pool of sample sets. All sets lie in one flat store, slot after slot. A handle names a slot and
may be copied; the slot counts its holders, and goes to the end of the free list when the count
falls to zero. Surplus releases are refused and counted.
-/

namespace Instrument

/-- The name of a slot. -/
structure Handle where
  index : UInt16
deriving DecidableEq

/-- What a slot keeps beside its samples: the number of its conversion, how many samples were
stored, and how many hold it. -/
structure Slot where
  sequence : UInt16
  length : UInt16
  refs : UInt32
deriving DecidableEq

/-- Counters that only grow. -/
structure PoolCounts where
  allocs : Nat
  frees : Nat
  allocFailed : Nat
  /-- Releases of a slot that nobody held. -/
  releaseUnderflow : Nat
deriving DecidableEq

structure Pool where
  samplesPerSet : Nat
  slots : Array Slot
  store : SampleStore
  /-- The free slots; the first is given out next. -/
  free : Queue UInt16
  stats : PoolCounts

namespace Pool

/-- The largest number of slots, and of samples in one. -/
def maxSize : Nat := 65535

/-- A pool of `size` sets of `samplesPerSet` values, all free. -/
def new (size samplesPerSet : Nat) : Except Fault Pool :=
  if size = 0 ∨ maxSize < size then
    .error (.config ("sample pool size " ++ toString size ++ " out of range"))
  else if samplesPerSet = 0 ∨ maxSize < samplesPerSet then
    .error (.config ("samples per set " ++ toString samplesPerSet ++ " out of range"))
  else .ok
    { samplesPerSet
      slots := Array.replicate size ⟨0, 0, 0⟩
      store := .empty
      free := .ofList ((List.range size).map UInt16.ofNat)
      stats := ⟨0, 0, 0, 0⟩ }

def capacity (p : Pool) : Nat :=
  p.slots.size

def available (p : Pool) : Nat :=
  p.free.size

def slot (p : Pool) (h : Handle) : Slot :=
  p.slots.getD h.index.toNat ⟨0, 0, 0⟩

def updateSlot (p : Pool) (h : Handle) (f : Slot → Slot) : Pool :=
  { p with slots := p.slots.modify h.index.toNat f }

/-- Where the slot's samples begin in the store. -/
def start (p : Pool) (h : Handle) : Nat :=
  h.index.toNat * p.samplesPerSet

/-- Takes the first free slot and holds it once. -/
def alloc (p : Pool) : Option Handle × Pool :=
  match p.free.pop? with
  | none => (none, { p with stats.allocFailed := p.stats.allocFailed + 1 })
  | some (index, free) =>
    let p := p.updateSlot ⟨index⟩ ({ · with refs := 1 })
    (some ⟨index⟩, { p with free, stats.allocs := p.stats.allocs + 1 })

/-- Stores a conversion in a slot under its number, as much of it as the slot takes, and answers
how much that is. -/
def fill (p : Pool) (h : Handle) (sequence : UInt16) (raw : List UInt16) : Nat × Pool :=
  let kept := raw.take p.samplesPerSet
  let p := { p with store := p.store.write (p.start h) kept }
  (kept.length, p.updateSlot h ({ · with sequence, length := UInt16.ofNat kept.length }))

def sequence (p : Pool) (h : Handle) : UInt16 :=
  (p.slot h).sequence

/-- The values that the last `fill` stored. -/
def samples (p : Pool) (h : Handle) : List UInt16 :=
  p.store.read (p.start h) (min (p.slot h).length.toNat p.samplesPerSet)

def refs (p : Pool) (h : Handle) : UInt32 :=
  (p.slot h).refs

def retain (p : Pool) (h : Handle) : Pool :=
  p.updateSlot h fun slot => { slot with refs := slot.refs + 1 }

/-- Puts a slot at the end of the free list, if the list has room for it. -/
def reclaim (p : Pool) (h : Handle) : Pool :=
  if p.available < p.capacity then
    { p with free := p.free.push h.index, stats.frees := p.stats.frees + 1 }
  else p

/-- Drops a holder. The answer says whether it was the last one, whose leaving frees the slot; a
release of a slot that nobody holds is refused and counted. -/
def release (h : Handle) : Act Pool Bool :=
  fun p =>
    let refs := p.refs h
    if refs = 0 then
      (.error (.overflow
          ("sample set " ++ toString h.index.toNat ++ " released with no references")),
        { p with stats.releaseUnderflow := p.stats.releaseUnderflow + 1 })
    else
      let p := p.updateSlot h ({ · with refs := refs - 1 })
      if refs = 1 then (.ok true, p.reclaim h) else (.ok false, p)

/-- One line about the pool. -/
def summary (p : Pool) : String :=
  "SamplePool \x7b capacity: " ++ toString p.capacity ++ ", available: " ++
    toString p.available ++ ", samples_per_set: " ++ toString p.samplesPerSet ++ " \x7d"

theorem slot_updateSlot_self {p : Pool} {h : Handle} (f : Slot → Slot)
    (hh : h.index.toNat < p.capacity) : (p.updateSlot h f).slot h = f (p.slot h) := by
  have hs : h.index.toNat < p.slots.size := hh
  simp [slot, updateSlot, Array.getD_eq_getD_getElem?, hs, Array.getElem_modify_self]

theorem slot_updateSlot_of_ne {p : Pool} {h k : Handle} (f : Slot → Slot) (hne : h ≠ k) :
    (p.updateSlot h f).slot k = p.slot k := by
  have hi : h.index.toNat ≠ k.index.toNat := fun e => by
    cases h
    cases k
    simp_all [UInt16.toNat_inj]
  simp [slot, updateSlot, Array.getD_eq_getD_getElem?, Array.getElem?_modify, hi]

@[simp] theorem capacity_updateSlot (p : Pool) (h : Handle) (f : Slot → Slot) :
    (p.updateSlot h f).capacity = p.capacity := by
  simp [capacity, updateSlot]

end Pool

end Instrument
