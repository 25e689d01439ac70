import Instrument.Rig

/-!
The commands about the instrument as a whole: its version and its state.
-/

namespace Instrument

def firmwareVersion : String := "0.1.0"

namespace System

def version (line : Line) : Act Rig Unit := do
  Act.check (line.expectNoMore 1)
  let _ ← Act.check (line.expectData 0)
  Rig.onConsole (Console.valueText "version" firmwareVersion)

/-- One line for each of some subsystems that has claimed a pin. -/
def reportOwners : List Subsystem → Act Rig Unit
  | [] => pure ()
  | s :: rest => do
    let pins := (← get).pins.ownedBy s
    if pins.isEmpty then reportOwners rest
    else
      Rig.onConsole (Console.valueText s.name (String.intercalate "," (pins.map Pin.name)))
      reportOwners rest

/-- Answers the counters of the pipeline and who holds which pins. -/
def status (line : Line) : Act Rig Unit := do
  Act.check (line.expectNoMore 1)
  let _ ← Act.check (line.expectData 0)
  Rig.onConsole (Console.valueBool "pipe" (← get).consuming)
  Rig.report
  reportOwners Subsystem.all

end System

end Instrument
