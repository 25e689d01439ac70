import Instrument.Act
import Instrument.Console.DataLine
import Instrument.Queue

/-!
The connection to the host. Replies are lines, each told by what stands before its first colon;
data lines come from the consumer of a sink; the terminal shows the prompt and the echo. All three
go into one log in the order of their arrival. A connection that is down refuses every line, and
one that is up may still lose any of them.
-/

namespace Instrument

/-- What the host receives. -/
inductive Event where
  /-- A reply line. -/
  | reply (line : String)
  /-- A data line from the consumer of the named sink. -/
  | data (sink line : String)
  /-- Text on the terminal, which is no line. -/
  | terminal (text : String)
  /-- The end of the program: what stands behind it in a log was never sent. -/
  | crash
deriving DecidableEq

def lineEnd : String := "\r\n"

/-- The characters an event puts on a shared stream. -/
def Event.text : Event → String
  | .reply line => line ++ lineEnd
  | .data _ line => line ++ lineEnd
  | .terminal text => text
  | .crash => ""

/-- The connection: what it has carried, whether debug lines are wanted, and what is down. -/
structure Console where
  log : Queue Event
  debugging : Bool
  down : Bool
  terminalDown : Bool
  /-- How many events there were to send so far. -/
  attempts : Nat
  /-- Which attempts fail even while the connection is up. -/
  loses : Nat → Bool

namespace Console

def fresh : Console :=
  ⟨.empty, false, false, false, 0, fun _ => false⟩

/-- The fault of a line that was not sent. -/
def gone : Fault :=
  .io "host gone"

def send (event : Event) : Act Console Unit :=
  fun c =>
    let tried := { c with attempts := c.attempts + 1 }
    if c.down || c.loses c.attempts then (.error gone, tried)
    else (.ok (), { tried with log := c.log.push event })

/-- Sends one line as it stands. -/
def line (text : String) : Act Console Unit :=
  send (.reply text)

def info (text : String) : Act Console Unit :=
  line ("#:" ++ text)

def error (text : String) : Act Console Unit :=
  line ("E:" ++ text)

def warning (text : String) : Act Console Unit :=
  line ("W:" ++ text)

/-- Sends a line only while debug lines are wanted. -/
def debug (text : String) : Act Console Unit :=
  fun c => if c.debugging then line ("?:" ++ text) c else (.ok (), c)

def openFrame : Act Console Unit :=
  line "BEGIN:"

def closeFrame (ok : Bool) : Act Console Unit :=
  line (if ok then "END:OK" else "END:ERROR")

def valueBool (name : String) (value : Bool) : Act Console Unit :=
  line ("B:" ++ name ++ ":" ++ if value then "1" else "0")

def valueText (name value : String) : Act Console Unit :=
  line ("S:" ++ name ++ ":" ++ value)

def value32 (name : String) (value : Nat) : Act Console Unit :=
  line ("U32:" ++ name ++ ":" ++ toString value)

def value64 (name : String) (value : Nat) : Act Console Unit :=
  line ("U64:" ++ name ++ ":" ++ toString value)

/-- Sends a sample set from the consumer of a sink. -/
def data (sink : String) (set : DataLine) : Act Console Unit :=
  send (.data sink set.text)

def terminal (text : String) : Act Console Unit :=
  fun c =>
    if c.terminalDown then (.error gone, c)
    else (.ok (), { c with log := c.log.push (.terminal text) })

/-- Records the end of the program, whether the connection works or not. -/
def crash (c : Console) : Console :=
  { c with attempts := c.attempts + 1, log := c.log.push .crash }

end Console

end Instrument
