/-!
The faults of the instrument. A fault is what a command line is answered with when it fails: its
kind says which part of the contract was broken and its text is shown to the host.
-/

namespace Instrument

/-- Why a request was not carried out. -/
inductive Fault where
  /-- The line is malformed or uses an unknown word. -/
  | parse (text : String)
  /-- An argument is missing, is no number, or is out of range. -/
  | argument (text : String)
  /-- The pin belongs to another subsystem, or cannot serve the one that asks. -/
  | conflict (pin owner requested : String)
  /-- The unit is in the wrong phase for the request. -/
  | notReady (text : String)
  /-- A transfer did not finish in time. -/
  | timeout (text : String)
  /-- A sample set or a queue is exhausted. -/
  | overflow (text : String)
  /-- The configuration asks for what the board cannot do. -/
  | config (text : String)
  /-- The host connection failed. -/
  | io (text : String)
  /-- The configuration document is no TOML, or a value in it has the wrong type. -/
  | toml (text : String)
deriving DecidableEq

def Fault.message : Fault → String
  | .parse text => "parse error: " ++ text
  | .argument text => "argument error: " ++ text
  | .conflict pin owner requested =>
    "resource conflict: " ++ pin ++ " owned by " ++ owner ++ ", requested by " ++ requested
  | .notReady text => "device not ready: " ++ text
  | .timeout text => "transport timeout: " ++ text
  | .overflow text => "overflow: " ++ text
  | .config text => "config error: " ++ text
  | .io text => "I/O error: " ++ text
  | .toml text => "TOML parse error: " ++ text

end Instrument
