import Instrument.Command.Adc
import Instrument.Command.Dac
import Instrument.Command.Gpio
import Instrument.Command.Probe
import Instrument.Command.System

/-!
The commands of the instrument. A command is selected by the first word of a line, keeps a state of
its own beside the rig, and can be set up, be given a line, and be brought back to its power-on
state.
-/

namespace Instrument

/-- A command with its state. -/
inductive Command where
  | version
  | status
  | gpio
  | adc (adc : Adc)
  | dac (dac : Dac)
  | probe (probe : Probe)

namespace Command

/-- The word that selects the command. -/
def name : Command → String
  | version => "version"
  | status => "status"
  | gpio => "gpio"
  | adc _ => "adc"
  | dac _ => "dac"
  | probe p => p.name

/-- Further words that select it. -/
def aliases : Command → List String
  | probe p => p.aliases
  | _ => []

def description : Command → String
  | version => "Show firmware version"
  | status => "Pipeline counters and pin ownership"
  | gpio => "Drive, read and configure GPIO pins"
  | adc _ => "Configure, start and stop sample acquisition"
  | dac _ => "Drive the on-chip DAC outputs"
  | probe p => p.description

def usage : Command → String
  | version => "version"
  | status => "status"
  | gpio =>
    "gpio:<get|set|clear|query|release>:<port>:<pin> | " ++
      "gpio:configure:<port>:<pin>:<input|output|analog>[:<pullup|pulldown|floating|analog>]"
  | adc _ => "adc:configure:<oneshot|continuous>[(period_us)] | adc:<start|stop|status>"
  | dac _ => "dac:<start|stop> | dac:write:<ch1|ch2>(value)"
  | probe p => p.usage

def init : Command → Act Rig Unit
  | probe p => p.init
  | _ => pure ()

def dispatch (line : Line) : Act (Command × Rig) Unit :=
  fun (command, rig) =>
    match command with
    | version =>
      let (r, rig) := (System.version line).exec rig
      (r, (version, rig))
    | status =>
      let (r, rig) := (System.status line).exec rig
      (r, (status, rig))
    | gpio =>
      let (r, rig) := (Gpio.dispatch line).exec rig
      (r, (gpio, rig))
    | adc a =>
      let (r, a, rig) := (Adc.dispatch line).exec (a, rig)
      (r, (adc a, rig))
    | dac d =>
      let (r, d, rig) := (Dac.dispatch line).exec (d, rig)
      (r, (dac d, rig))
    | probe p =>
      let (r, rig) := (p.dispatch line).exec rig
      (r, (probe p, rig))

def reset : Act (Command × Rig) Unit :=
  fun (command, rig) =>
    match command with
    | gpio => (.ok (), (gpio, Gpio.reset rig))
    | adc a =>
      let (a, rig) := Adc.reset (a, rig)
      (.ok (), (adc a, rig))
    | dac d =>
      let (d, rig) := Dac.reset (d, rig)
      (.ok (), (dac d, rig))
    | probe p =>
      let (r, p) := p.reset
      (r, (probe p, rig))
    | command => (.ok (), (command, rig))

def advance (us : Nat) : Command × Rig → Command × Rig
  | (adc a, rig) =>
    let (a, rig) := Adc.advance us (a, rig)
    (adc a, rig)
  | s => s

end Command

end Instrument
