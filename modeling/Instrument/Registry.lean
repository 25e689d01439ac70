import Instrument.Command

/-!
The registry of commands. It keeps the commands in the order of their registration and, beside
them, the words that select each one. A command takes the place of an earlier one of the same name,
whose words then select nothing. Three words belong to the registry itself and reach it whatever is
registered.
-/

namespace Instrument

structure Registry where
  limits : Limits
  commands : List Command
  /-- The words, in lower case, with the places of the commands they select. -/
  index : List (String × Nat)

namespace Registry

def empty (limits : Limits) : Registry :=
  ⟨limits, [], []⟩

def place? (index : List (String × Nat)) (word : String) : Option Nat :=
  (index.find? fun entry => entry.1 == word).map (·.2)

/-- Lets a word select a place, and no other. -/
def point (place : Nat) (index : List (String × Nat)) (word : String) : List (String × Nat) :=
  (word, place) :: index.filter fun entry => entry.1 != word

def find? (r : Registry) (word : String) : Option Nat :=
  place? r.index (Text.fold word)

/-- Adds a command, in the place of one that its name selects if there is one. -/
def register (r : Registry) (command : Command) : Registry :=
  let words := (command.name :: command.aliases).map Text.fold
  match r.find? command.name with
  | some place =>
    let index := r.index.filter fun entry => entry.2 != place
    { r with commands := r.commands.set place command, index := words.foldl (point place) index }
  | none =>
    { r with
      commands := r.commands ++ [command]
      index := words.foldl (point r.commands.length) r.index }

/-- The registry of the built-in commands. -/
def builtin (rig : Rig) : Registry :=
  [.version, .status, .gpio, .adc (.ofRig rig), .dac ⟨false⟩].foldl register
    (empty rig.config.fetch.limits)

inductive Reserved where
  | help | resetPins
deriving DecidableEq

def reserved? (word : String) : Option Reserved :=
  match Text.fold word with
  | "help" => some .help
  | "?" => some .help
  | "resetpins" => some .resetPins
  | _ => none

/-- The names and descriptions of all commands in the order of the names, the reserved ones
included. -/
def listing (r : Registry) : List (String × String) :=
  ((r.commands.map fun c => (c.name, c.description)) ++
    [("help", "List commands"), ("resetpins", "Stop every subsystem and release all pins")]
  ).mergeSort fun a b => !decide (b.1 < a.1)

def infoLines : List String → Act Rig Unit
  | [] => pure ()
  | text :: rest => do
    Rig.onConsole (Console.info text)
    infoLines rest

def padTo (width : Nat) (s : String) : String :=
  s ++ String.ofList (List.replicate (width - s.length) ' ')

def help (r : Registry) : Act Rig Unit := do
  infoLines (r.listing.map fun (name, description) => padTo 10 name ++ " " ++ description)
  infoLines (r.commands.map fun c => "  usage: " ++ c.usage)

def initAll : List Command → Act Rig Unit
  | [] => pure ()
  | c :: rest => do
    c.init
    initAll rest

def init : Act (Registry × Rig) Unit :=
  fun (r, rig) =>
    let (answer, rig) := (initAll r.commands).exec rig
    (answer, (r, rig))

/-- Resets some commands in turn, each also after an earlier one has failed. The answer is the
first fault. -/
def resetAll : List Command → Rig → Except Fault Unit × List Command × Rig
  | [], rig => (.ok (), [], rig)
  | c :: rest, rig =>
    let (answer, c, rig) := Command.reset.exec (c, rig)
    let (answers, rest, rig) := resetAll rest rig
    (match answer with | .ok _ => answers | .error fault => .error fault, c :: rest, rig)

/-- Resets every command, and then every pin. -/
def reset : Act (Registry × Rig) Unit :=
  fun (r, rig) =>
    let (answer, commands, rig) := resetAll r.commands rig
    (answer, ({ r with commands }, { rig with pins := rig.pins.resetAll }))

def dispatchAt (place : Nat) (line : Line) : Act (Registry × Rig) Unit :=
  fun (r, rig) =>
    match r.commands[place]? with
    | none => (.ok (), (r, rig))
    | some command =>
      let (answer, command, rig) := (Command.dispatch line).exec (command, rig)
      (answer, ({ r with commands := r.commands.set place command }, rig))

/-- Carries out a line that has been read. Its first word is looked up among the reserved words
before it is looked up in the index. -/
def dispatch (line : Line) : Act (Registry × Rig) Unit := do
  let word := line.command.headD ""
  match reserved? word with
  | some reserved =>
    Act.check (line.expectNoMore 1)
    let _ ← Act.check (line.expectData 0)
    match reserved with
    | .help =>
      let (r, _) ← get
      Act.beside r.help
    | .resetPins =>
      reset
      Act.beside (Rig.onConsole (Console.info "all pins reset"))
  | none =>
    let (r, _) ← get
    match r.find? word with
    | some place => dispatchAt place line
    | none => throw (.parse ("unrecognized command: " ++ word))

def execute (text : String) : Act (Registry × Rig) Unit := do
  let (r, _) ← get
  match Line.read r.limits text with
  | .error d => throw d.fault
  | .ok none => pure ()
  | .ok (some line) =>
    Act.beside (Rig.debug ("fetch: " ++ line.render))
    dispatch line

/-- Carries out a text and sends the fault if it fails. The answer says whether it succeeded. -/
def parse (text : String) (s : Registry × Rig) : Bool × Registry × Rig :=
  match (execute text).exec s with
  | (.ok _, s) => (true, s)
  | (.error fault, s) =>
    (false, ((Act.beside (Rig.onConsole (Console.error fault.message))).exec s).2)

/-- Carries out a text between the lines of a frame; a blank one has no frame. -/
def handle (text : String) (s : Registry × Rig) : Bool × Registry × Rig :=
  if (Text.trim text.toList).isEmpty then (true, s)
  else
    let (opened, s) := (Act.beside (Rig.onConsole Console.openFrame)).exec s
    let (ok, s) := parse text s
    match opened with
    | .ok _ => (ok, ((Act.beside (Rig.onConsole (Console.closeFrame ok))).exec s).2)
    | .error _ => (ok, s)

def advanceAll (us : Nat) : List Command → Rig → List Command × Rig
  | [], rig => ([], rig)
  | c :: rest, rig =>
    let (c, rig) := Command.advance us (c, rig)
    let (rest, rig) := advanceAll us rest rig
    (c :: rest, rig)

end Registry

end Instrument
