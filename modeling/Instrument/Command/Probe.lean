import Instrument.Rig

/-!
A command that reports how it was called. It serves to try the wiring of a registry: its name, its
aliases and its failures are all given from outside.
-/

namespace Instrument

structure Probe where
  name : String
  aliases : List String
  description : String
  usage : String
  /-- What its set-up fails with. -/
  initFault : Option Fault
  /-- What its resets fail with, counted from one. -/
  resetFault : Nat → Option Fault
  /-- How often it was reset. -/
  resets : Nat

namespace Probe

def init (probe : Probe) : Act Rig Unit :=
  match probe.initFault with
  | some fault => throw fault
  | none => Rig.onConsole (Console.info (probe.name ++ " init"))

/-- Sends the words of the line, or fails when the first data word asks for it. -/
def dispatch (probe : Probe) (line : Line) : Act Rig Unit :=
  match line.data.head? with
  | some "fail" => throw (.argument "asked to fail")
  | some "timeout" => throw (.timeout "asked to time out")
  | _ => Rig.onConsole (Console.info (String.intercalate "|"
      [probe.description, String.intercalate "," line.command, String.intercalate "," line.data,
        toString probe.resets]))

/-- Counts a reset, and then perhaps fails. -/
def reset (probe : Probe) : Except Fault Unit × Probe :=
  let resets := probe.resets + 1
  (match probe.resetFault resets with
    | some fault => .error fault
    | none => .ok (), { probe with resets })

end Probe

end Instrument
