import Instrument.Config
import Instrument.Consumer
import Instrument.Converter
import Instrument.PinTable

/-!
What the commands work on: the pins, the pipeline, the consumers and the connection to the host. A
consumer that runs serves its sink at once, so while the consumers run no sample set stays queued.
-/

namespace Instrument

structure Rig where
  config : Config
  /-- The pins that the converter samples. -/
  inputs : List Pin
  pins : PinTable
  source : Source
  console : Console
  consuming : Bool
  /-- Whether the program has crashed. Nobody sees what comes of a request that crashes, and it is
  carried out here as if it had not. -/
  crashed : Bool
  /-- Microseconds since the session began. -/
  uptimeUs : Nat

namespace Rig

def inputPin (name : String) : Except Fault Pin :=
  (Pin.read name).mapError fun fault => .config ("adc.inputs: " ++ fault.message)

/-- The first of some pins that cannot be sampled. -/
def notAnalog? (table : PinTable) (pins : List Pin) : Option Pin :=
  pins.find? fun pin => !(table.row? pin).any (·.capability.contains .adc)

def new (config : Config) (console : Console) : Except Fault Rig := do
  let config ← config.check
  let inputs ← config.adc.inputs.mapM inputPin
  match notAnalog? .stock inputs with
  | some pin => throw (.config ("adc.inputs: " ++ pin.name ++ " has no analog function"))
  | none =>
    let pool ← Pool.new config.pipe.poolSize config.pipe.samplesPerSet
    let sinks := config.pipe.sinks.map fun sink => Mailbox.new sink.name sink.capacity
    return {
      config, inputs
      pins := .stock
      source := .new pool sinks
      console := { console with debugging := config.fetch.debug }
      consuming := false
      crashed := false
      uptimeUs := 0 }

def onConsole {α : Type} (act : Act Console α) : Act Rig α :=
  .zoom (·.console) ({ · with console := · }) act

/-- Changes the pin table, or refuses to. -/
def onPins (f : PinTable → Except Fault PinTable) : Act Rig Unit :=
  .zoom (·.pins) ({ · with pins := · }) (.update f)

def debug (text : String) : Act Rig Unit :=
  onConsole (Console.debug text)

/-- Lets the consumers, if they run, serve what is queued. -/
def settle (rig : Rig) : Rig :=
  if rig.consuming then
    let (source, console) := Consumer.drain rig.config.adc.tag (rig.source, rig.console)
    { rig with source, console }
  else rig

/-- Whether the threads of the consumers cannot be started. -/
def unspawnable (rig : Rig) : Bool :=
  !rig.consuming && rig.source.sinks.any fun sink => !Consumer.nameable sink.name

/-- Starts the consumers; without a sink there is none to start. A thread that cannot be started
crashes the program. -/
def startConsumers (rig : Rig) : Rig :=
  settle { rig with
    consuming := rig.consuming || !rig.source.sinks.isEmpty
    crashed := rig.crashed || rig.unspawnable
    console := if rig.unspawnable then rig.console.crash else rig.console }

def stopConsumers (rig : Rig) : Rig :=
  { rig with consuming := false }

/-- The voltage on a pin as the converter sees it. -/
def reading (rig : Rig) (pin : Pin) : UInt16 :=
  (rig.pins.board.pad pin).analog

/-- Makes `n` conversions. The consumers, if they run, serve each before the next. -/
def convert (c : Converter) (n : Nat) (rig : Rig) : Rig :=
  n.repeat (fun rig => settle { rig with source := (c.convert rig.reading rig.source).2 }) rig

theorem convert_succ (c : Converter) (n : Nat) (rig : Rig) : rig.convert c (n + 1) =
    settle { rig.convert c n with
      source := (c.convert (rig.convert c n).reading (rig.convert c n).source).2 } :=
  rfl

def reportSink (sink : Mailbox Handle) : Act Rig Unit := do
  onConsole (Console.value64 ("overflow." ++ sink.name) sink.overflow)
  onConsole (Console.value64 ("pending." ++ sink.name) sink.size)

def reportSinks : List (Mailbox Handle) → Act Rig Unit
  | [] => pure ()
  | sink :: rest => do
    reportSink sink
    reportSinks rest

def report : Act Rig Unit := do
  let source := (← get).source
  let stats := source.pool.stats
  onConsole (Console.value64 "allocs" stats.allocs)
  onConsole (Console.value64 "frees" stats.frees)
  onConsole (Console.value64 "alloc_failed" stats.allocFailed)
  onConsole (Console.value64 "release_underflow" stats.releaseUnderflow)
  onConsole (Console.value64 "conversions" source.conversions)
  onConsole (Console.value64 "dma_errors" source.dmaErrors)
  onConsole (Console.value64 "analog_overflow" source.analogOverflow)
  reportSinks source.sinks

end Rig

end Instrument
