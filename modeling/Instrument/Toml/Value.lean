/-!
TOML values, and the rules for tables that are written in several places. A table remembers how it
came about: one that a dotted key made may be extended by further dotted keys, one that only the
path of a header implied may still get a header of its own, and all others are closed.
-/

namespace Instrument.Toml

inductive Origin where
  /-- Written in braces. -/
  | inline
  /-- Opened by its own header. -/
  | header
  /-- Named only within the path of a header. -/
  | implied
  /-- Made by a dotted key. -/
  | dotted
deriving DecidableEq

/-- A value. Of a float and of a date or time only the spelling is kept. -/
inductive Value where
  | text (s : String)
  | integer (n : Int)
  | float (spelling : String)
  | boolean (b : Bool)
  | moment (spelling : String)
  | array (elements : List Value)
  | table (origin : Origin) (entries : List (String × Value))
  /-- Tables under repeated headers in double brackets. -/
  | tables (elements : List (List (String × Value)))

abbrev Entries : Type :=
  List (String × Value)

namespace Entries

def get? (entries : Entries) (key : String) : Option Value :=
  (entries.find? fun entry => entry.1 == key).map (·.2)

/-- Puts a value under a key, in the place of an earlier one if there is one. -/
def put (entries : Entries) (key : String) (v : Value) : Entries :=
  if entries.any fun entry => entry.1 == key then
    entries.map fun entry => if entry.1 == key then (key, v) else entry
  else entries ++ [(key, v)]

/-- Adds a key under a path of dotted keys, the entries being those of a table of the given
origin. The last table of a path must have been made by dotted keys itself, and a key is given
only once. -/
def addFrom (origin : Origin) (below : Bool) (key : String) (v : Value) :
    List String → Entries → Option Entries
  | [], entries =>
    if below && origin != .dotted then none
    else
      match entries.get? key with
      | some _ => none
      | none => some (entries.put key v)
  | step :: path, entries =>
    match entries.get? step with
    | none =>
      (addFrom .dotted true key v path []).map fun sub => entries.put step (.table .dotted sub)
    | some (.table sort sub) =>
      if sort = .dotted ∨ sort = .implied then
        (addFrom sort true key v path sub).map fun sub => entries.put step (.table sort sub)
      else none
    | some (.tables elements) =>
      match elements.getLast? with
      | none => none
      | some last => (addFrom .header true key v path last).map fun sub =>
          entries.put step (.tables (elements.dropLast ++ [sub]))
    | some _ => none

def add (entries : Entries) (path : List String) (key : String) (v : Value) : Option Entries :=
  addFrom .header false key v path entries

/-- Changes the table at the path of a header. Tables on the way that are not there are implied,
and of repeated tables the last is meant. -/
def under (change : Entries → Option Entries) : List String → Entries → Option Entries
  | [], entries => change entries
  | step :: path, entries =>
    match entries.get? step with
    | none => (under change path []).map fun sub => entries.put step (.table .implied sub)
    | some (.table .inline _) => none
    | some (.table origin sub) =>
      (under change path sub).map fun sub => entries.put step (.table origin sub)
    | some (.tables elements) =>
      match elements.getLast? with
      | none => none
      | some last => (under change path last).map fun sub =>
          entries.put step (.tables (elements.dropLast ++ [sub]))
    | some _ => none

/-- Opens the table of a header and fills it. Only a table that was merely implied may be there. -/
def openTable (fill : Entries → Option Entries) (key : String) (entries : Entries) :
    Option Entries :=
  match entries.get? key with
  | none => (fill []).map fun sub => entries.put key (.table .header sub)
  | some (.table .implied sub) => (fill sub).map fun sub => entries.put key (.table .header sub)
  | some _ => none

def appendTable (fill : Entries → Option Entries) (key : String) (entries : Entries) :
    Option Entries :=
  match entries.get? key with
  | none => (fill []).map fun sub => entries.put key (.tables [sub])
  | some (.tables elements) =>
    (fill []).map fun sub => entries.put key (.tables (elements ++ [sub]))
  | some _ => none

end Entries

end Instrument.Toml
