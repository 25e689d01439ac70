import Instrument.Shell
import Instrument.Text.Utf8

/-!
The session with the host. Its input is cut after each line feed; a piece that holds the
end-of-transmission byte ends the session, and so does the end of the input. Every other piece that
is not blank is answered with one frame.
-/

namespace Instrument

structure Tally where
  ok : Nat
  failed : Nat
deriving DecidableEq

/-- Counts an answer; a blank line has none. -/
def Tally.count (t : Tally) : Option Bool → Tally
  | some true => { t with ok := t.ok + 1 }
  | some false => { t with failed := t.failed + 1 }
  | none => t

namespace Session

def endOfTransmission : UInt8 := 4

/-- Cuts bytes after each line feed. No piece is empty. -/
def cut : List UInt8 → List (List UInt8)
  | [] => []
  | b :: rest =>
    if b = 10 then [b] :: cut rest
    else
      match cut rest with
      | [] => [[b]]
      | piece :: pieces => (b :: piece) :: pieces

def heard (pieces : List (List UInt8)) : List (List UInt8) :=
  pieces.takeWhile fun piece => !piece.contains endOfTransmission

def showPrompt : Act Station Unit := do
  match (← get).shell.prompt? with
  | some prompt => Station.onConsole (Console.terminal prompt)
  | none => pure ()

/-- Shows a received piece, its terminator replaced. -/
def echo (piece : List UInt8) : Act Station Unit :=
  let text := Text.dropTrailing Line.isTerminator (Utf8.decodeLossy piece).toList
  Station.onConsole (Console.terminal (String.ofList text ++ lineEnd))

def shellFrame (text : String) : Act Station Bool := do
  Station.onConsole Console.openFrame
  let s ← get
  let (answer, s) := (Station.shellCommand text).exec s
  set s
  match answer with
  | .ok _ =>
    Station.onConsole (Console.closeFrame true)
    return true
  | .error fault =>
    Station.onConsole (Console.error fault.message)
    Station.onConsole (Console.closeFrame false)
    return false

/-- Sends a line where it belongs. A blank line has no answer. -/
def dispatch (line : String) : Act Station (Option Bool) :=
  match Route.of line with
  | .empty => pure none
  | .shell text => some <$> shellFrame text
  | .fetch text => fun s =>
    let (ok, registry, rig) := Registry.handle text (s.registry, s.rig)
    (.ok (some ok), { s with registry, rig })

def refuse : Act Station (Option Bool) := do
  Station.onConsole Console.openFrame
  Station.onConsole (Console.error (Fault.parse "invalid UTF-8").message)
  Station.onConsole (Console.closeFrame false)
  return some false

/-- Answers one piece of the input, and shows the prompt for the next. -/
def step (piece : List UInt8) : Act Station (Option Bool) := do
  if (← get).shell.echo then echo piece else pure ()
  let answer ← match Utf8.decode? piece with
    | some line => dispatch line
    | none => refuse
  showPrompt
  return answer

/-- Answers some pieces in turn and goes on counting. Before each piece and before the end the host
is silent for a while, in microseconds, and time passes for the converter. -/
def steps (silence : Nat → Nat) : Tally → List (List UInt8) → Act Station Tally
  | tally, [] => do
    modify (Station.advance (silence 0))
    return tally
  | tally, piece :: rest => do
    modify (Station.advance (silence 0))
    let answer ← step piece
    steps (fun k => silence (k + 1)) (tally.count answer) rest

def run (silence : Nat → Nat) (input : List UInt8) : Act Station Tally := do
  showPrompt
  steps silence ⟨0, 0⟩ (heard (cut input))

def greet : Act Station Unit := do
  if (← get).rig.config.shell.banner then
    Station.onConsole (Console.info "Marionette ready")
  else pure ()

/-- Ends a session: the consumers stop and everything goes back to its power-on state. -/
def close : Act Station Unit := do
  modify fun s => { s with rig := s.rig.stopConsumers }
  Station.onRegistry Registry.reset

/-- All that the program does between its start and its end, given its configuration and the whole
input: greeting, session and closing. -/
def program (silence : Nat → Nat) (input : List UInt8) : Act Station Tally := do
  greet
  let tally ← run silence input
  close
  return tally

end Session

end Instrument
