/-!
The characters of a TOML document: blanks, comments, line ends, keys and strings. Each reader
takes what it reads from the beginning of the rest of the document and answers what then remains,
or nothing if the document is at fault.
-/

namespace Instrument.Toml

abbrev Reader (α : Type) : Type :=
  List Char → Option (α × List Char)

def isBlank (c : Char) : Bool :=
  c == ' ' || c == '\t'

/-- A character that may stand in a comment: no control character but the tab. -/
def isPlain (c : Char) : Bool :=
  c == '\t' || (32 ≤ c.toNat && c.toNat != 127)

def skipBlanks (s : List Char) : List Char :=
  s.dropWhile isBlank

def newline? : List Char → Option (List Char)
  | '\n' :: rest => some rest
  | '\r' :: '\n' :: rest => some rest
  | _ => none

def skipComment : List Char → List Char
  | '#' :: rest => rest.dropWhile isPlain
  | s => s

/-- What remains after the end of a line: blanks, perhaps a comment, and a line feed or the end of
the document. -/
def lineEnd? (s : List Char) : Option (List Char) :=
  match skipComment (skipBlanks s) with
  | [] => some []
  | rest => newline? rest

def skipTrivia : Nat → List Char → List Char
  | 0, s => s
  | fuel + 1, s =>
    let s := skipBlanks s
    match newline? (skipComment s) with
    | some rest => skipTrivia fuel rest
    | none => s

def hexValue? (c : Char) : Option Nat :=
  let n := c.toNat
  if 48 ≤ n ∧ n ≤ 57 then some (n - 48)
  else if 97 ≤ n ∧ n ≤ 102 then some (n - 87)
  else if 65 ≤ n ∧ n ≤ 70 then some (n - 55)
  else none

/-- Reads exactly `n` hexadecimal digits, `high` being the value before them. -/
def hexNumber : Nat → Nat → Reader Nat
  | 0, high, s => some (high, s)
  | n + 1, high, c :: rest =>
    match hexValue? c with
    | some v => hexNumber n (high * 16 + v) rest
    | none => none
  | _ + 1, _, [] => none

/-- Reads a character by its number, which must be that of a character. -/
def numbered (digits : Nat) : Reader Char := fun s =>
  match hexNumber digits 0 s with
  | some (n, rest) => if n.isValidChar then some (Char.ofNat n, rest) else none
  | none => none

def escape : Reader Char
  | 'b' :: rest => some ('\x08', rest)
  | 'f' :: rest => some ('\x0C', rest)
  | 'n' :: rest => some ('\n', rest)
  | 'r' :: rest => some ('\r', rest)
  | 't' :: rest => some ('\t', rest)
  | '"' :: rest => some ('"', rest)
  | '\\' :: rest => some ('\\', rest)
  | 'u' :: rest => numbered 4 rest
  | 'U' :: rest => numbered 8 rest
  | _ => none

def basicBody : Nat → List Char → Reader (List Char)
  | fuel + 1, done, c :: rest =>
    if c = '"' then some (done.reverse, rest)
    else if c = '\\' then
      match escape rest with
      | some (e, rest) => basicBody fuel (e :: done) rest
      | none => none
    else if isPlain c then basicBody fuel (c :: done) rest
    else none
  | _, _, _ => none

def literalBody : List Char → Reader (List Char)
  | _, [] => none
  | done, c :: rest =>
    if c = '\'' then some (done.reverse, rest)
    else if isPlain c then literalBody (c :: done) rest
    else none

/-- Reads the quotes at the end of a string over several lines, of which three close it and up to
two more belong to it. -/
def closing (quote : Char) (done : List Char) : Reader (List Char)
  | a :: b :: c :: d :: e :: rest =>
    if a = quote ∧ b = quote ∧ c = quote then
      if d = quote then
        if e = quote then some ((quote :: quote :: done).reverse, rest)
        else some ((quote :: done).reverse, e :: rest)
      else some (done.reverse, d :: e :: rest)
    else none
  | [a, b, c, d] =>
    if a = quote ∧ b = quote ∧ c = quote then
      if d = quote then some ((quote :: done).reverse, []) else some (done.reverse, [d])
    else none
  | [a, b, c] =>
    if a = quote ∧ b = quote ∧ c = quote then some (done.reverse, []) else none
  | _ => none

/-- What remains after a backslash at the end of a line, which joins it to the next word. -/
def joined? (fuel : Nat) (s : List Char) : Option (List Char) :=
  (newline? (skipBlanks s)).map (skipGap fuel)
where
  /-- What remains after blanks and line feeds. -/
  skipGap : Nat → List Char → List Char
    | 0, s => s
    | fuel + 1, s =>
      let s := skipBlanks s
      match newline? s with
      | some rest => skipGap fuel rest
      | none => s

/-- Reads a string over several lines up to its closing quotes. -/
def longBasicBody : Nat → List Char → Reader (List Char)
  | fuel + 1, done, c :: rest =>
    match closing '"' done (c :: rest) with
    | some result => some result
    | none =>
      if c = '\\' then
        match joined? fuel rest with
        | some rest => longBasicBody fuel done rest
        | none =>
          match escape rest with
          | some (e, rest) => longBasicBody fuel (e :: done) rest
          | none => none
      else if isPlain c then longBasicBody fuel (c :: done) rest
      else
        match newline? (c :: rest) with
        | some rest => longBasicBody fuel ('\n' :: done) rest
        | none => none
  | _, _, _ => none

def longLiteralBody : Nat → List Char → Reader (List Char)
  | fuel + 1, done, c :: rest =>
    match closing '\'' done (c :: rest) with
    | some result => some result
    | none =>
      if isPlain c then longLiteralBody fuel (c :: done) rest
      else
        match newline? (c :: rest) with
        | some rest => longLiteralBody fuel ('\n' :: done) rest
        | none => none
  | _, _, _ => none

def skipNewline (s : List Char) : List Char :=
  (newline? s).getD s

/-- Reads a string in any of its four forms. A line feed right after three opening quotes is no
part of it. -/
def string : Reader String := fun s =>
  let fuel := s.length
  let body :=
    match s with
    | '"' :: '"' :: '"' :: rest => longBasicBody fuel [] (skipNewline rest)
    | '"' :: rest => basicBody fuel [] rest
    | '\'' :: '\'' :: '\'' :: rest => longLiteralBody fuel [] (skipNewline rest)
    | '\'' :: rest => literalBody [] rest
    | _ => none
  body.map fun (cs, rest) => (String.ofList cs, rest)

def isKeyChar (c : Char) : Bool :=
  c.isAlphanum || c == '_' || c == '-'

def simpleKey : Reader String
  | '"' :: rest =>
    (basicBody (rest.length + 1) [] rest).map fun (cs, rest) => (String.ofList cs, rest)
  | '\'' :: rest => (literalBody [] rest).map fun (cs, rest) => (String.ofList cs, rest)
  | s =>
    match s.takeWhile isKeyChar with
    | [] => none
    | name => some (String.ofList name, s.dropWhile isKeyChar)

/-- The bound on the parts of a key and on the depth of nesting. -/
def depthLimit : Nat := 80

/-- Reads a key with dots in it, blanks around its parts included. The last part is answered apart
from those before it. -/
def dottedKey : Nat → Reader (List String × String)
  | 0, _ => none
  | limit + 1, s =>
    match simpleKey (skipBlanks s) with
    | none => none
    | some (part, rest) =>
      match skipBlanks rest with
      | '.' :: rest =>
        match dottedKey limit rest with
        | some ((path, key), rest) => some ((part :: path, key), rest)
        | none => none
      | rest => some (([], part), rest)

/-- Reads a key with fewer parts than the limit. -/
def key : Reader (List String × String) :=
  dottedKey (depthLimit - 1)

end Instrument.Toml
