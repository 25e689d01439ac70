import Instrument.Command.Words
import Instrument.Rig

/-!
Pin levels and pin modes. Every line addresses one pin by its port word and its pin word, and
claims it for GPIO before it drives it or sets its mode.
-/

namespace Instrument.Gpio

/-- The pin that the words at `i` and after it address. -/
def pinAt (line : Line) (i : Nat) : Except Fault Pin := do
  let port ← Vocabulary.ports.resolve line.command[i]?
  let pad ← Vocabulary.pads.resolve line.command[i + 1]?
  return ⟨port, pad⟩

/-- The mode that the words of a configure line ask for, and how many words it has. An output may
have a sense, which has no effect. -/
def modeOf (line : Line) : Except Fault (PadMode × Nat) := do
  match ← Vocabulary.directions.resolve line.command[4]? with
  | .output =>
    match line.command[5]? with
    | some sense =>
      let _ ← Vocabulary.senses.resolve (some sense)
      return (.output, 6)
    | none => return (.output, 5)
  | .analog => return (.analog, 5)
  | .input =>
    match ← Vocabulary.senses.resolve line.command[5]? with
    | .bias sense => return (.input sense, 6)
    | .analog => return (.analog, 6)

/-- Refuses the analog mode to a pin that the converter cannot reach. -/
def checkAnalog (t : PinTable) (pin : Pin) (mode : PadMode) : Except Fault Unit :=
  if mode = .analog then
    match t.capable pin .adc with
    | .error fault => .error fault
    | .ok true => .ok ()
    | .ok false => .error (.argument (pin.name ++ " has no analog function"))
  else .ok ()

def configure (pin : Pin) (line : Line) : Act Rig Unit := do
  let (mode, used) ← Act.check (modeOf line)
  Act.check (line.expectNoMore used)
  Act.check (checkAnalog (← get).pins pin mode)
  Rig.onPins (·.claim pin mode .gpio)
  Rig.debug (pin.name ++ " configured " ++ mode.text)

def drive (pin : Pin) (high : Bool) : Act Rig Unit := do
  Rig.onPins (·.claim pin .output .gpio)
  Rig.onPins fun t => .ok (t.write pin high)
  Rig.debug (pin.name ++ " <- " ++ if high then "1" else "0")

def readLevel (pin : Pin) : Act Rig Unit := do
  Rig.onConsole (Console.valueBool pin.name ((← get).pins.board.pad pin).level)

def query (pin : Pin) : Act Rig Unit := do
  let (mode, owner) ← Act.check ((← get).pins.query pin)
  Rig.onConsole (Console.valueText pin.name (Subsystem.ownerName owner))
  Rig.onConsole (Console.valueText "mode" mode.text)

/-- A pin brought back to its defaults, unless another subsystem holds it. -/
def releaseIn (pin : Pin) (t : PinTable) : Except Fault PinTable := do
  let (_, owner) ← t.query pin
  if owner = none ∨ owner = some .gpio then t.release pin
  else throw (.conflict pin.name (Subsystem.ownerName owner) Subsystem.gpio.name)

def act (action : GpioAction) (pin : Pin) (line : Line) : Act Rig Unit :=
  match action with
  | .configure => configure pin line
  | .set => do
    Act.check (line.expectNoMore 4)
    drive pin true
  | .clear => do
    Act.check (line.expectNoMore 4)
    drive pin false
  | .get => do
    Act.check (line.expectNoMore 4)
    readLevel pin
  | .query => do
    Act.check (line.expectNoMore 4)
    query pin
  | .release => do
    Act.check (line.expectNoMore 4)
    Rig.onPins (releaseIn pin)

def dispatch (line : Line) : Act Rig Unit :=
  if line.data.isEmpty then do
    let action ← Act.check (Vocabulary.gpioActions.resolve line.command[1]?)
    let pin ← Act.check (pinAt line 2)
    act action pin line
  else throw (.argument "gpio takes no data")

/-- Releases every pin that GPIO has claimed. -/
def reset (rig : Rig) : Rig :=
  { rig with pins := rig.pins.releaseAll (rig.pins.ownedBy .gpio) }

end Instrument.Gpio
