import Instrument.Fault
import Instrument.Text.Blank

/-!
Command lines. A line is a path of command words between colons, and after it, in one pair of
parentheses, the data words:

    gpio:set:porta:pin3
    dac:write:ch1(0x7ff)

Blanks mean nothing within the path and separate the words of the data. `Line.read` cuts a text
into its words and `Line.render` writes the words in the canonical spelling. The words are cut out
of a buffer that `Line.readInto` is lent and that may hold anything before.
-/

namespace Instrument

open Text

structure Limits where
  maxLineChars : Nat
  maxCommandTokens : Nat
  maxDataTokens : Nat
deriving DecidableEq

structure Line where
  command : List String
  data : List String
deriving DecidableEq

namespace Line

/-- The canonical text: command words joined by colons, data words by single spaces. -/
def render (line : Line) : String :=
  let path := String.intercalate ":" line.command
  if line.data.isEmpty then path else path ++ "(" ++ String.intercalate " " line.data ++ ")"

inductive Defect where
  | tooLong (max : Nat)
  | noCommand
  | unclosed
  | unbalanced
  | tooManyCommandTokens (max : Nat)
  | tooManyDataTokens (max : Nat)
deriving DecidableEq

def Defect.message : Defect → String
  | .tooLong max => "line exceeds " ++ toString max ++ " characters"
  | .noCommand => "no command (only data?)"
  | .unclosed => "missing closing ')'"
  | .unbalanced => "unbalanced parentheses"
  | .tooManyCommandTokens max => "too many command tokens (max " ++ toString max ++ ")"
  | .tooManyDataTokens max => "too many data tokens (max " ++ toString max ++ ")"

def Defect.fault (d : Defect) : Fault :=
  .parse d.message

def isParen (c : Char) : Bool :=
  c == '(' || c == ')'

def isTerminator (c : Char) : Bool :=
  c == '\r' || c == '\n'

/-- What stands before a closing parenthesis at the end. -/
def unclose? (s : List Char) : Option (List Char) :=
  if s.getLast? = some ')' then some s.dropLast else none

/-- The path of a line and the inside of its parentheses; without parentheses there is no inside. -/
def sections (s : List Char) : Except Defect (List Char × List Char) :=
  let path := s.takeWhile (· != '(')
  match s.dropWhile (· != '(') with
  | [] => if path.any isParen then .error .unbalanced else .ok (path, [])
  | _ :: rest =>
    match unclose? (dropTrailing isBlank rest) with
    | none => .error .unclosed
    | some inner =>
      if inner.any isParen ∨ path.any isParen then .error .unbalanced else .ok (path, inner)

/-- The words of a path without blanks, which stand between its colons. -/
def commandWords (path : List Char) : List String :=
  (pieces (· == ':') path).map String.ofList

def dataWords (inner : List Char) : List String :=
  (words inner).map String.ofList

def ofWords (limits : Limits) (command data : List String) : Except Defect Line :=
  if command.isEmpty then .error .noCommand
  else if limits.maxCommandTokens < command.length then
    .error (.tooManyCommandTokens limits.maxCommandTokens)
  else if limits.maxDataTokens < data.length then
    .error (.tooManyDataTokens limits.maxDataTokens)
  else .ok ⟨command, data⟩

/-- Writes a path without its blanks into the buffer, over what that held, and the inside of the
parentheses behind it. The answer is the place in the buffer where the path ends. -/
def fill (path inner : List Char) : StateM (List Char) Nat := do
  set ([] : List Char)
  modify (· ++ path.filter fun c => !isBlank c)
  let split := (← get).length
  modify (· ++ inner)
  return split

def ofSections (limits : Limits) (path inner : List Char) :
    StateM (List Char) (Except Defect Line) := do
  let split ← fill path inner
  let (path, inner) := (← get).splitAt split
  return ofWords limits (commandWords path) (dataWords inner)

/-- The line in a text that has no blanks at its ends and is not empty. -/
def ofTrimmed (limits : Limits) (s : List Char) : StateM (List Char) (Except Defect Line) :=
  if s.head?.any isParen then return .error .noCommand
  else
    match sections s with
    | .error d => return .error d
    | .ok (path, inner) => ofSections limits path inner

/-- Reads one line by way of a buffer, `none` for a blank one. The length is taken without the line
terminator and before blanks are dropped, so a blank line can be too long. -/
def readInto (limits : Limits) (text : String) :
    StateM (List Char) (Except Defect (Option Line)) :=
  let body := dropTrailing isTerminator text.toList
  if limits.maxLineChars < body.length then return .error (.tooLong limits.maxLineChars)
  else
    let s := trim body
    if s.isEmpty then return .ok none else return (← ofTrimmed limits s).map some

def read (limits : Limits) (text : String) : Except Defect (Option Line) :=
  (readInto limits text []).1

/-- The data words, if there are `n` of them. -/
def expectData (line : Line) (n : Nat) : Except Fault (List String) :=
  if line.data.length = n then .ok line.data
  else .error (.argument
    ("expected " ++ toString n ++ " data argument(s), got " ++ toString line.data.length))

def expectNoMore (line : Line) (used : Nat) : Except Fault Unit :=
  match line.command[used]? with
  | some extra => .error (.parse ("unexpected token: " ++ extra))
  | none => .ok ()

end Line

end Instrument
