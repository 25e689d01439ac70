import Instrument.Command.Words
import Instrument.Numeral
import Instrument.Rig

/-!
The converter's command. Starting claims every input pin as analog, starts the consumers and then
the converter; stopping gives the pins back. After a one-shot conversion the converter rests while
the pins stay claimed, until the stop.
-/

namespace Instrument

/-- The converter's control: the unit itself, how it is to sample, and the pins it has claimed. -/
structure Adc where
  converter : Converter
  defaultMode : Sampling
  mode : Sampling
  claimed : List Pin

namespace Adc

/-- The bounds on a period that a line gives. -/
def minPeriodUs : Nat := 10

def maxPeriodUs : Nat := 10000000

def new (inputs : List Pin) (bufferSize periodUs : Nat) : Adc :=
  let mode := .continuous periodUs
  ⟨.new inputs bufferSize, mode, mode, []⟩

def ofRig (rig : Rig) : Adc :=
  new rig.inputs rig.config.pipe.samplesPerSet rig.config.adc.periodUs

/-- The period for a configure line without data. -/
def defaultPeriodUs (adc : Adc) : Nat :=
  match adc.defaultMode with
  | .continuous periodUs => periodUs
  | .oneshot => 1000

def modeOf (adc : Adc) (line : Line) : Except Fault Sampling := do
  let kind ← Vocabulary.sampleTypes.resolve line.command[2]?
  line.expectNoMore 3
  match kind with
  | .oneshot =>
    let _ ← line.expectData 0
    return .oneshot
  | .continuous =>
    match line.data with
    | [] => return .continuous adc.defaultPeriodUs
    | [token] =>
      match Numeral.within minPeriodUs maxPeriodUs token with
      | .ok periodUs => return .continuous periodUs
      | .error d => throw (d.fault token)
    | data => throw (.argument
        ("expected at most 1 data argument, got " ++ toString data.length))

def configure (line : Line) : Act (Adc × Rig) Unit := do
  let (adc, _) ← get
  if adc.converter.running then throw (.notReady "stop the adc before reconfiguring")
  else
    let mode ← Act.check (adc.modeOf line)
    modify fun (adc, rig) => ({ adc with mode }, rig)
    Act.beside (Rig.debug ("adc mode " ++ mode.text))

/-- Claims every input as analog, or none of them. -/
def claimInputs : Act (Adc × Rig) Unit :=
  fun (adc, rig) =>
    let inputs := adc.converter.inputs
    match (PinTable.claimAll .analog .adc inputs).exec rig.pins with
    | (.ok (), pins) => (.ok (), ({ adc with claimed := inputs }, { rig with pins }))
    | (.error fault, pins) => (.error fault, (adc, { rig with pins }))

def releaseInputs : Adc × Rig → Adc × Rig
  | (adc, rig) =>
    ({ adc with claimed := [] }, { rig with pins := rig.pins.releaseAll adc.claimed })

/-- Starts the consumers and the converter; if the converter does not start, the pins are given
back, but the consumers run on. -/
def startUnits : Act (Adc × Rig) Unit :=
  fun (adc, rig) =>
    let rig := rig.startConsumers
    match (Converter.start adc.mode).exec adc.converter with
    | (.ok (), converter) => (.ok (), ({ adc with converter }, rig))
    | (.error fault, converter) => (.error fault, releaseInputs ({ adc with converter }, rig))

def start : Act (Adc × Rig) Unit := do
  let (adc, _) ← get
  if adc.converter.running then throw (.notReady "adc already started")
  else
    if adc.claimed.isEmpty then claimInputs else pure ()
    startUnits
    Act.beside (Rig.debug ("adc started (" ++ adc.mode.text ++ ")"))

/-- Stops the converter after the conversion that is under way. -/
def halt : Adc × Rig → Adc × Rig
  | (adc, rig) =>
    ({ adc with converter := adc.converter.stop }, rig.convert adc.converter adc.converter.pending)

def stop : Act (Adc × Rig) Unit := do
  let (adc, _) ← get
  if !adc.converter.running && adc.claimed.isEmpty then throw (.notReady "adc not started")
  else
    modify fun s => releaseInputs (halt s)
    Act.beside (Rig.debug "adc stopped")

def status : Act (Adc × Rig) Unit := do
  let (adc, _) ← get
  Act.beside (Rig.onConsole (Console.valueBool "running" adc.converter.running))
  Act.beside (Rig.onConsole (Console.valueText "mode" adc.mode.text))
  Act.beside Rig.report

def dispatch (line : Line) : Act (Adc × Rig) Unit := do
  match ← Act.check (Vocabulary.adcActions.resolve line.command[1]?) with
  | .configure => configure line
  | action =>
    Act.check (line.expectNoMore 2)
    let _ ← Act.check (line.expectData 0)
    match action with
    | .start => start
    | .stop => stop
    | _ => status

/-- Stops the converter, gives the pins back and returns to the default mode. -/
def reset (s : Adc × Rig) : Adc × Rig :=
  let (adc, rig) := halt s
  releaseInputs ({ adc with mode := adc.defaultMode }, rig)

/-- Lets time pass: the conversions that fall due are made and consumed. -/
def advance (us : Nat) : Adc × Rig → Adc × Rig
  | (adc, rig) =>
    match adc.converter.timer with
    | none => (adc, rig)
    | some timer =>
      let (due, timer) := timer.advance us
      ({ adc with converter := { adc.converter with timer } }, rig.convert adc.converter due)

end Adc

end Instrument
