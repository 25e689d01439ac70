/-!
The electrical modes of a pad.
-/

namespace Instrument

/-- The bias of an input. -/
inductive Sense where
  | pullUp | pullDown | floating
deriving DecidableEq

def Sense.text : Sense → String
  | .pullUp => "pullup"
  | .pullDown => "pulldown"
  | .floating => "floating"

/-- How a pad is set up. -/
inductive PadMode where
  | input (sense : Sense)
  | output
  | analog
  | alternate (function : UInt8)
deriving DecidableEq

def PadMode.text : PadMode → String
  | .input sense => "input:" ++ sense.text
  | .output => "output"
  | .analog => "analog"
  | .alternate function => "alternate" ++ toString function.toNat

end Instrument
