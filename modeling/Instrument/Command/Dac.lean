import Instrument.Command.Words
import Instrument.Numeral
import Instrument.Rig

/-!
The two DAC channels. They are started and stopped together, and a code is latched only between.
-/

namespace Instrument

/-- The control of the DAC channels: whether they are started. -/
structure Dac where
  started : Bool

namespace Dac

/-- The pads that the channels drive. -/
def pins : List Pin :=
  DacChannel.all.map DacChannel.pin

/-- Claims the pads of both channels, or neither of them. -/
def claimPads : Act Rig Unit :=
  .zoom (·.pins) ({ · with pins := · }) (PinTable.claimAll .analog .dac pins)

def release : Dac × Rig → Dac × Rig
  | (_, rig) => (⟨false⟩, { rig with pins := rig.pins.releaseAll pins })

def start : Act (Dac × Rig) Unit := do
  let (dac, _) ← get
  if dac.started then throw (.notReady "dac already started")
  else
    Act.beside claimPads
    modify fun (_, rig) => (⟨true⟩, rig)

def stop : Act (Dac × Rig) Unit := do
  let (dac, _) ← get
  if dac.started then modify release else throw (.notReady "dac not started")

/-- The code that a write line gives as its one data word. -/
def codeOf (line : Line) : Except Fault Nat := do
  let token := (← line.expectData 1).headD ""
  match Numeral.within 0 fullScale.toNat token with
  | .ok code => return code
  | .error d => throw (d.fault token)

def write (line : Line) : Act (Dac × Rig) Unit := do
  let channel ← Act.check (Vocabulary.dacChannels.resolve line.command[2]?)
  Act.check (line.expectNoMore 3)
  let (dac, _) ← get
  if dac.started then
    let code ← Act.check (codeOf line)
    Act.beside (Rig.onPins fun t =>
      (t.board.latch channel (UInt16.ofNat code)).map fun board => { t with board })
    Act.beside (Rig.debug ("dac " ++ channel.name ++ " <- " ++ toString code))
  else throw (.notReady "dac not started")

def dispatch (line : Line) : Act (Dac × Rig) Unit := do
  match ← Act.check (Vocabulary.dacActions.resolve line.command[1]?) with
  | .write => write line
  | action =>
    Act.check (line.expectNoMore 2)
    let _ ← Act.check (line.expectData 0)
    match action with
    | .start => start
    | _ => stop

def reset : Dac × Rig → Dac × Rig
  | (dac, rig) => if dac.started then release (dac, rig) else (dac, rig)

end Dac

end Instrument
