import Instrument.Console
import Instrument.Source

/-!
The consumers, one for each sink. A consumer takes the oldest set of its sink, sends it to the
host, and lets it go; the set is let go also when the host cannot be reached.
-/

namespace Instrument.Consumer

/-- Whether a consumer's thread can be named after its sink: a thread's name holds no null
character. -/
def nameable (name : String) : Bool :=
  !name.toList.contains '\x00'

/-- Serves the oldest set of the sink at a position. The answer is `false` when there is none. -/
def consume (i : Nat) (tag : String) : Act (Source × Console) Bool :=
  fun (source, console) =>
    match source.fetch i with
    | (none, source) => (.ok false, (source, console))
    | (some h, source) =>
      let sink := (source.sinks[i]?.map (·.name)).getD ""
      let (sent, console) := (Console.data sink (source.dataLine tag h)).exec console
      let (released, source) := (Source.release h).exec source
      let answer := match released with
        | .error fault => .error fault
        | .ok _ => sent.map fun _ => true
      (answer, (source, console))

/-- Serves `n` sets of one sink, whatever becomes of each. -/
def consumeMany (i : Nat) (tag : String) : Nat → Source × Console → Source × Console
  | 0, s => s
  | n + 1, s => consumeMany i tag n ((consume i tag).exec s).2

def drainSink (tag : String) (s : Source × Console) (i : Nat) : Source × Console :=
  consumeMany i tag ((s.1.sinks[i]?.map (·.size)).getD 0) s

def drain (tag : String) (s : Source × Console) : Source × Console :=
  (List.range s.1.sinks.length).foldl (drainSink tag) s

end Instrument.Consumer
