import Instrument.Config.Document
import Instrument.Session

/-!
The command line. The first argument, or else the variable `MARIONETTE_CONFIG`, names a
configuration document; the host speaks over standard input and listens on standard output. While
the host is silent, time passes for the converter.
-/

namespace Instrument.Main

/-- Sends what has been logged to standard output, up to a crash. -/
def send (s : Station) : IO Station := do
  let out ← IO.getStdout
  let (log, s) := s.takeLog
  for event in log.takeWhile (· != .crash) do
    out.putStr event.text
  out.flush
  return s

/-- Runs a request and sends what it logged; a fault ends the program. -/
def perform {α : Type} (act : Act Station α) (s : Station) : IO (α × Station) := do
  let (answer, s) := act.exec s
  let s ← send s
  match answer with
  | .ok a => return (a, s)
  | .error fault => throw (IO.userError fault.message)

partial def readPiece (input : IO.FS.Stream) (seen : List UInt8) : IO (List UInt8) := do
  let bytes ← input.read 1
  match bytes.toList with
  | [] => return seen.reverse
  | b :: _ => if b = 10 then return (b :: seen).reverse else readPiece input (b :: seen)

/-- Lets time pass until the host has sent a piece. -/
partial def await (task : Task (Except IO.Error (List UInt8))) (lastMs : Nat) (s : Station) :
    IO (List UInt8 × Nat × Station) := do
  let nowMs ← IO.monoMsNow
  let s ← send (s.advance ((nowMs - lastMs) * 1000))
  if ← IO.hasFinished task then
    match task.get with
    | .ok piece => return (piece, nowMs, s)
    | .error e => throw e
  else
    IO.sleep 1
    await task nowMs s

/-- Answers the host until it ends the session or the program crashes. -/
partial def converse (input : IO.FS.Stream) (lastMs : Nat) (s : Station) : IO Station := do
  let task ← IO.asTask (readPiece input []) .dedicated
  let (piece, lastMs, s) ← await task lastMs s
  if piece.isEmpty || piece.contains Session.endOfTransmission then return s
  let (_, s) ← perform (Session.step piece) s
  if s.rig.crashed then return s
  converse input lastMs s

def loadConfig (path : Option String) : IO Config := do
  match path with
  | none => return {}
  | some path =>
    let bytes ← IO.FS.readBinFile path
    match Utf8.decode? bytes.toList with
    | none => throw (IO.userError (path ++ " is no UTF-8 text"))
    | some document =>
      match Config.ofToml document with
      | .ok config => return config
      | .error fault => throw (IO.userError (path ++ ": " ++ fault.message))

def crashCode : UInt32 := 101

def run (args : List String) : IO UInt32 := do
  let path ← match args with
    | path :: _ => pure (some path)
    | [] => IO.getEnv "MARIONETTE_CONFIG"
  let config ← loadConfig path
  match Station.new config .fresh with
  | .error fault => throw (IO.userError fault.message)
  | .ok s =>
    let (_, s) ← perform Session.greet s
    let (_, s) ← perform Session.showPrompt s
    let s ← converse (← IO.getStdin) (← IO.monoMsNow) s
    if s.rig.crashed then return crashCode
    let _ ← perform Session.close s
    return 0

end Instrument.Main

def main (args : List String) : IO UInt32 := do
  try
    Instrument.Main.run args
  catch e =>
    IO.eprintln ("Error: " ++ toString e)
    return 1
