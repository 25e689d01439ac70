import Instrument.Toml.Scalar

/-!
TOML documents. A document is read line by line into statements, and the statements then build the
root table: the pairs after a header fill the table that the header opens.
-/

namespace Instrument.Toml

mutual

def value : Nat → Nat → Reader Value
  | 0, _, _ => none
  | fuel + 1, depth, s =>
    match s with
    | '[' :: rest => if depth + 1 < depthLimit then elements fuel (depth + 1) [] rest else none
    | '\x7b' :: rest =>
      if depth + 1 < depthLimit then
        match skipBlanks rest with
        | '\x7d' :: rest => some (.table .inline [], rest)
        | rest => members fuel (depth + 1) [] rest
      else none
    | s => scalar s

/-- Reads the elements of an array up to its closing bracket; a comma may stand after the last. -/
def elements : Nat → Nat → List Value → Reader Value
  | 0, _, _, _ => none
  | fuel + 1, depth, done, s =>
    match skipTrivia fuel s with
    | ']' :: rest => some (.array done.reverse, rest)
    | s =>
      match value fuel depth s with
      | none => none
      | some (v, s) =>
        match skipTrivia fuel s with
        | ']' :: rest => some (.array (v :: done).reverse, rest)
        | ',' :: rest => elements fuel depth (v :: done) rest
        | _ => none

/-- Reads the pairs of an inline table up to its closing brace; no comma stands after the last. -/
def members : Nat → Nat → Entries → Reader Value
  | 0, _, _, _ => none
  | fuel + 1, depth, done, s =>
    match key s with
    | some ((path, name), '=' :: rest) =>
      match value fuel depth (skipBlanks rest) with
      | none => none
      | some (v, rest) =>
        match Entries.add done path name v with
        | none => none
        | some done =>
          match skipBlanks rest with
          | '\x7d' :: rest => some (.table .inline done, rest)
          | ',' :: rest => members fuel depth done rest
          | _ => none
    | _ => none

end

inductive Statement where
  /-- A key with its value. -/
  | pair (path : List String) (name : String) (v : Value)
  /-- The header of a table. -/
  | header (path : List String) (name : String)
  /-- The header of one more of several tables. -/
  | repeated (path : List String) (name : String)

def statement : Reader Statement
  | '[' :: '[' :: rest =>
    match key rest with
    | some ((path, name), ']' :: ']' :: rest) =>
      (lineEnd? rest).map fun rest => (.repeated path name, rest)
    | _ => none
  | '[' :: rest =>
    match key rest with
    | some ((path, name), ']' :: rest) =>
      (lineEnd? rest).map fun rest => (.header path name, rest)
    | _ => none
  | s =>
    match key s with
    | some ((path, name), '=' :: rest) =>
      match value (2 * rest.length + 2) 0 (skipBlanks rest) with
      | none => none
      | some (v, rest) => (lineEnd? rest).map fun rest => (.pair path name v, rest)
    | _ => none

def statements : Nat → List Char → Option (List Statement)
  | fuel, s =>
    match skipBlanks s with
    | [] => some []
    | c :: rest =>
      match fuel with
      | 0 => none
      | fuel + 1 =>
        if c = '#' ∨ c = '\n' ∨ c = '\r' then (lineEnd? (c :: rest)).bind (statements fuel)
        else
          match statement (c :: rest) with
          | none => none
          | some (st, rest) => (statements fuel rest).map (st :: ·)

/-- The pairs at the beginning of some statements, and the statements from the next header on. -/
def leadingPairs : List Statement → List (List String × String × Value) × List Statement
  | .pair path name v :: rest =>
    let (pairs, rest) := leadingPairs rest
    ((path, name, v) :: pairs, rest)
  | rest => ([], rest)

def fill (pairs : List (List String × String × Value)) (entries : Entries) : Option Entries :=
  pairs.foldlM (fun entries (path, name, v) => entries.add path name v) entries

/-- Carries out the statements from a header on. -/
def build : Nat → List Statement → Entries → Option Entries
  | fuel + 1, .header path name :: rest, root =>
    let (pairs, rest) := leadingPairs rest
    (Entries.under (Entries.openTable (fill pairs) name) path root).bind (build fuel rest)
  | fuel + 1, .repeated path name :: rest, root =>
    let (pairs, rest) := leadingPairs rest
    (Entries.under (Entries.appendTable (fill pairs) name) path root).bind (build fuel rest)
  | _, [], root => some root
  | _, _, _ => none

/-- The root table of a document, which may begin with a byte order mark. -/
def read? (document : String) : Option Entries := do
  let s := match document.toList with
    | '\uFEFF' :: rest => rest
    | s => s
  let all ← statements s.length s
  let (pairs, rest) := leadingPairs all
  let root ← fill pairs []
  build rest.length rest root

end Instrument.Toml
