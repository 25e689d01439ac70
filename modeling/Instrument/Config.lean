import Instrument.Fault
import Instrument.Line

/-!
The configuration. Every field has a default, so that an empty document configures a working
instrument. `Config.check` refuses sizes with which the line reader or the pipeline could do
nothing.
-/

namespace Instrument

namespace Config

/-- The bounds on command lines, and whether debug lines are sent. -/
structure Fetch where
  maxLineChars : Nat := 256
  maxCommandTokens : Nat := 8
  maxDataTokens : Nat := 8
  debug : Bool := false
deriving DecidableEq

/-- A sink for sample sets, with room for `capacity` of them. -/
structure Sink where
  name : String
  capacity : Nat := 16
deriving DecidableEq

structure Pipe where
  poolSize : Nat := 8
  samplesPerSet : Nat := 16
  consumerTimeoutMs : Nat := 10
  sinks : List Sink := [⟨"adc", 16⟩]
deriving DecidableEq

/-- The tag of data lines, the period of continuous sampling, and the names of the input pins. -/
structure Adc where
  tag : String := "A2"
  periodUs : Nat := 1000
  inputs : List String := ["PA3"]
deriving DecidableEq

structure Shell where
  prompt : String := ""
  banner : Bool := true
deriving DecidableEq

end Config

structure Config where
  fetch : Config.Fetch := {}
  pipe : Config.Pipe := {}
  adc : Config.Adc := {}
  shell : Config.Shell := {}
deriving DecidableEq

namespace Config

def Fetch.limits (f : Fetch) : Limits :=
  ⟨f.maxLineChars, f.maxCommandTokens, f.maxDataTokens⟩

inductive Defect where
  | zero (field : String)
  | poolTooLarge (size : Nat)
  | emptySink (name : String)
  | emptyTag
deriving DecidableEq

def Defect.message : Defect → String
  | .zero field => field ++ " must be non-zero"
  | .poolTooLarge size => "pipe.pool_size " ++ toString size ++ " exceeds 65535"
  | .emptySink name => "pipe.sinks." ++ name ++ ": capacity must be non-zero"
  | .emptyTag => "adc.tag must not be empty"

def defect? (c : Config) : Option Defect :=
  if c.fetch.maxLineChars = 0 then some (.zero "fetch.max_line_chars")
  else if c.fetch.maxCommandTokens = 0 then some (.zero "fetch.max_command_tokens")
  else if c.pipe.poolSize = 0 then some (.zero "pipe.pool_size")
  else if c.pipe.samplesPerSet = 0 then some (.zero "pipe.samples_per_set")
  else if 65535 < c.pipe.poolSize then some (.poolTooLarge c.pipe.poolSize)
  else
    match c.pipe.sinks.find? fun sink => sink.capacity == 0 with
    | some sink => some (.emptySink sink.name)
    | none => if c.adc.tag = "" then some .emptyTag else none

/-- The configuration, if it has no defect. -/
def check (c : Config) : Except Fault Config :=
  match c.defect? with
  | some d => .error (.config d.message)
  | none => .ok c

end Config

end Instrument
