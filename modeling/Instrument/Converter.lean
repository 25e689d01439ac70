import Instrument.Board
import Instrument.Source

/-!
The timer-driven converter. One conversion fills its buffer by reading the input pins in turn,
beginning again with the first after the last, and hands the buffer to the source. A unit that has
been started runs until its one conversion is made, or else until it is stopped.
-/

namespace Instrument

/-- How conversions are triggered. -/
inductive Sampling where
  | oneshot
  | continuous (periodUs : Nat)
deriving DecidableEq

def Sampling.text : Sampling → String
  | .oneshot => "oneshot"
  | .continuous periodUs => "continuous(" ++ toString periodUs ++ "us)"

/-- What a running unit is about: its single conversion, or one in each period, where some time has
passed since the last. -/
inductive Timer where
  | single
  | periodic (periodUs elapsedUs : Nat)
deriving DecidableEq

def Sampling.timer : Sampling → Timer
  | .oneshot => .single
  | .continuous periodUs => .periodic periodUs 0

/-- Lets time pass: how many conversions fall due, and what the unit is about after them. Any time
at all is long enough for a single conversion. A timer without period counts as one of a
microsecond. -/
def Timer.advance (us : Nat) : Timer → Nat × Option Timer
  | .single => if us = 0 then (0, some .single) else (1, none)
  | .periodic periodUs elapsedUs =>
    let period := max periodUs 1
    let total := elapsedUs + us
    (total / period, some (.periodic periodUs (total % period)))

structure Converter where
  inputs : List Pin
  /-- How many samples one conversion takes. -/
  bufferSize : Nat
  timer : Option Timer
deriving DecidableEq

namespace Converter

def new (inputs : List Pin) (bufferSize : Nat) : Converter :=
  ⟨inputs, bufferSize, none⟩

def running (c : Converter) : Bool :=
  c.timer.isSome

/-- The next `n` pins of an endless round through `all`, which continues with `rest`. -/
def round (all : List Pin) : Nat → List Pin → List Pin
  | 0, _ => []
  | n + 1, pin :: rest => pin :: round all n rest
  | n + 1, [] =>
    match all with
    | [] => []
    | pin :: rest => pin :: round all n rest

/-- Converts once. A reading beyond full scale is stored as full scale, and one such reading or
more in a conversion count as one fault, raised before the conversion completes. -/
def convert (c : Converter) (reading : Pin → UInt16) (source : Source) :
    Option Delivery × Source :=
  let raw := (round c.inputs c.bufferSize c.inputs).map reading
  let source := if raw.any (fullScale < ·) then source.fault .analogOverflow else source
  source.complete (raw.map (min · fullScale))

def start (mode : Sampling) : Act Converter Unit :=
  .update fun c =>
    if c.running then .error (.notReady "converter already running")
    else if c.inputs.isEmpty then .error (.notReady "no converter inputs configured")
    else .ok { c with timer := some mode.timer }

def stop (c : Converter) : Converter :=
  { c with timer := none }

/-- How many conversions are under way. Whoever stops the unit waits for them. -/
def pending (c : Converter) : Nat :=
  if c.timer = some .single then 1 else 0

end Converter

end Instrument
