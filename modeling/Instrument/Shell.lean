import Instrument.Registry

/-!
Shell commands: lines that open with `+` or `.` and are about the session, not about a subsystem.
-/

namespace Instrument

/-- Where a line from the host goes. -/
inductive Route where
  | empty
  /-- A shell command without its opening sign. -/
  | shell (text : String)
  | fetch (text : String)
deriving DecidableEq

/-- Blanks at the ends of a line mean nothing, nor do those after the opening sign. -/
def Route.of (line : String) : Route :=
  match Text.trim line.toList with
  | [] => .empty
  | c :: rest =>
    if c = '+' ∨ c = '.' then .shell (String.ofList (Text.trim rest))
    else .fetch (String.ofList (c :: rest))

structure Shell where
  promptText : String
  showPrompt : Bool
  echo : Bool
deriving DecidableEq

/-- The instrument: the shell, the commands and what they work on. -/
structure Station where
  shell : Shell
  registry : Registry
  rig : Rig

namespace Shell

/-- The shell that a configuration describes; the prompt shows if it has a text. -/
def new (config : Config.Shell) : Shell :=
  ⟨config.prompt, config.prompt != "", false⟩

def prompt? (s : Shell) : Option String :=
  if s.showPrompt && s.promptText != "" then some s.promptText else none

inductive Action where
  | info | systime | prompt | noPrompt | echo | noEcho | debug | noDebug | reset | help
deriving DecidableEq

def actions : Vocabulary Action :=
  ⟨"shell command", [("info", .info), ("systime", .systime), ("prompt", .prompt),
    ("noprompt", .noPrompt), ("no_prompt", .noPrompt), ("echo", .echo), ("noecho", .noEcho),
    ("no_echo", .noEcho), ("debug", .debug), ("nodebug", .noDebug), ("reset", .reset),
    ("help", .help), ("?", .help)]⟩

def helpTable : List (String × String) :=
  [("info", "Query system info"), ("systime", "Milliseconds since the session started"),
    ("prompt", "Enable shell prompt"), ("noprompt", "Disable shell prompt"),
    ("echo", "Echo received lines"), ("noecho", "Disable line echo"),
    ("debug", "Enable ?: debug lines"), ("nodebug", "Disable ?: debug lines"),
    ("reset", "Reset every subsystem and pin"), ("help", "List shell commands")]

/-- The action that a command asks for. No command has a second word. -/
def actionOf (text : String) : Except Fault Action :=
  match (Text.words text.toList).map String.ofList with
  | name :: _ :: _ =>
    .error (.argument ("extra arguments for command '" ++ Text.fold name ++ "'"))
  | words =>
    match actions.find? (words.headD "") with
    | some action => .ok action
    | none => .error (.parse ("invalid shell command '" ++ text ++ "'"))

end Shell

namespace Station

def onRig {α : Type} (act : Act Rig α) : Act Station α :=
  .zoom (·.rig) ({ · with rig := · }) act

def onConsole {α : Type} (act : Act Console α) : Act Station α :=
  onRig (Rig.onConsole act)

def onRegistry {α : Type} (act : Act (Registry × Rig) α) : Act Station α :=
  .zoom (fun s => (s.registry, s.rig)) (fun s (registry, rig) => { s with registry, rig }) act

def setShell (f : Shell → Shell) : Act Station Unit :=
  modify fun s => { s with shell := f s.shell }

def setDebug (on : Bool) : Act Station Unit :=
  onConsole (modify ({ · with debugging := on }))

/-- Answers the version, the tag and the sizes of the pool, each in 32 bits. -/
def info : Act Station Unit := do
  let config := (← get).rig.config
  onConsole (Console.valueText "version" firmwareVersion)
  onConsole (Console.valueText "tag" config.adc.tag)
  onConsole (Console.value32 "pool_size" (config.pipe.poolSize % UInt32.size))
  onConsole (Console.value32 "samples_per_set" (config.pipe.samplesPerSet % UInt32.size))

def act : Shell.Action → Act Station Unit
  | .info => info
  | .systime => do
    onConsole (Console.value32 "systime" ((← get).rig.uptimeUs / 1000 % UInt32.size))
  | .prompt => setShell fun shell =>
      { shell with
        promptText := if shell.promptText = "" then "> " else shell.promptText
        showPrompt := true }
  | .noPrompt => setShell ({ · with showPrompt := false })
  | .echo => setShell ({ · with echo := true })
  | .noEcho => setShell ({ · with echo := false })
  | .debug => setDebug true
  | .noDebug => setDebug false
  | .reset => do
    onRegistry Registry.reset
    onConsole (Console.info "reset complete")
  | .help => onRig (Registry.infoLines (Shell.helpTable.map fun (name, description) =>
      "+" ++ Registry.padTo 9 name ++ " " ++ description))

def shellCommand (text : String) : Act Station Unit := do
  act (← Act.check (Shell.actionOf text))

/-- The instrument that a configuration describes, with the built-in commands. -/
def new (config : Config) (console : Console) : Except Fault Station := do
  let rig ← Rig.new config console
  let s : Station := ⟨.new rig.config.shell, .builtin rig, rig⟩
  let (answer, s) := (onRegistry Registry.init).exec s
  match answer with
  | .ok _ => return s
  | .error fault => throw fault

/-- Lets time pass: the clock moves on and the conversions that fall due are made. -/
def advance (us : Nat) (s : Station) : Station :=
  let rig := { s.rig with uptimeUs := s.rig.uptimeUs + us }
  let (commands, rig) := Registry.advanceAll us s.registry.commands rig
  { s with registry := { s.registry with commands }, rig }

/-- What the host has been sent since the last time, and the instrument with that forgotten. -/
def takeLog (s : Station) : List Event × Station :=
  let log := s.rig.console.log.toList
  let console := { s.rig.console with log := .empty }
  (log, { s with rig := { s.rig with console } })

end Station

end Instrument
