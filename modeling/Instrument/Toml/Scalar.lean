import Instrument.Toml.Text
import Instrument.Toml.Value

/-!
Numbers, dates and times, and the words for truth values. An underscore may stand between two
digits of a number. A date has a month and a day of that month; the second of a minute may be the
sixtieth. A float that is too large for a double is refused.
-/

namespace Instrument.Toml

def isDecimal (c : Char) : Bool :=
  c.isDigit

def isHex (c : Char) : Bool :=
  (hexValue? c).isSome

def isOctal (c : Char) : Bool :=
  48 ≤ c.toNat && c.toNat ≤ 55

def isBinary (c : Char) : Bool :=
  c == '0' || c == '1'

/-- The digits at the beginning, each after the first perhaps with an underscore before it, and
what remains. -/
def moreDigits (p : Char → Bool) : List Char → List Char × List Char
  | [] => ([], [])
  | [c] => if p c then ([c], []) else ([], [c])
  | c :: d :: rest =>
    if p c then
      let (ds, rest) := moreDigits p (d :: rest)
      (c :: ds, rest)
    else if c = '_' ∧ p d then
      let (ds, rest) := moreDigits p rest
      (d :: ds, rest)
    else ([], c :: d :: rest)

def digits (p : Char → Bool) : Reader (List Char)
  | [] => none
  | c :: rest =>
    if p c then
      let (ds, rest) := moreDigits p rest
      some (c :: ds, rest)
    else none

def ofDigits (radix : Nat) (ds : List Char) : Nat :=
  ds.foldl (fun n c => n * radix + (hexValue? c).getD 0) 0

def sign : List Char → Bool × List Char
  | '-' :: rest => (true, rest)
  | '+' :: rest => (false, rest)
  | s => (false, s)

/-- Reads the digits before a point: no zero leads others. -/
def wholeDigits : Reader (List Char)
  | '0' :: rest => some (['0'], rest)
  | s => digits isDecimal s

/-- An integer of 64 bits. -/
def bounded (n : Int) : Option Value :=
  if Int64.minValue.toInt ≤ n ∧ n ≤ Int64.maxValue.toInt then some (.integer n) else none

def radixInteger (radix : Nat) (p : Char → Bool) : Reader Value := fun s =>
  match digits p s with
  | none => none
  | some (ds, rest) => (bounded (ofDigits radix ds)).map fun v => (v, rest)

def integer : Reader Value
  | '0' :: 'x' :: rest => radixInteger 16 isHex rest
  | '0' :: 'o' :: rest => radixInteger 8 isOctal rest
  | '0' :: 'b' :: rest => radixInteger 2 isBinary rest
  | s =>
    let (negative, body) := sign s
    match wholeDigits body with
    | none => none
    | some (ds, rest) =>
      let n : Int := ofDigits 10 ds
      (bounded (if negative then -n else n)).map fun v => (v, rest)

def fraction : Reader (List Char)
  | '.' :: rest => digits isDecimal rest
  | s => some ([], s)

/-- An exponent: whether it is negative, and its digits. -/
abbrev Exponent : Type :=
  Bool × List Char

def power : Reader Exponent := fun s =>
  let (negative, body) := sign s
  (digits isDecimal body).map fun (ds, rest) => ((negative, ds), rest)

def exponent : Reader (Option Exponent)
  | 'e' :: rest => (power rest).map fun (p, rest) => (some p, rest)
  | 'E' :: rest => (power rest).map fun (p, rest) => (some p, rest)
  | s => some (none, s)

/-- The power of ten that an exponent stands for. -/
def Exponent.value : Exponent → Int
  | (true, ds) => -(ofDigits 10 ds : Int)
  | (false, ds) => ofDigits 10 ds

/-- Whether a decimal number rounds to a double: it is below the midpoint between the largest
double and the next power of two. -/
def fitsDouble (mantissa : Nat) (scale : Int) : Bool :=
  let length : Int := (Nat.toDigits 10 mantissa).length
  if mantissa = 0 ∨ length + scale < 300 then true
  else if 320 < length + scale then false
  else
    let limit := Nat.pow 2 1024 - Nat.pow 2 970
    if 0 ≤ scale then decide (mantissa * Nat.pow 10 scale.toNat < limit)
    else decide (mantissa < limit * Nat.pow 10 (-scale).toNat)

/-- The spelling that a reader has used up. -/
def spelling (s rest : List Char) : String :=
  String.ofList (s.take (s.length - rest.length))

/-- Reads a float: a whole part, and then a fraction, an exponent or both. -/
def decimalFloat : Reader Value := fun s => do
  let (negative, body) := sign s
  let (whole, rest) ← wholeDigits body
  let (part, rest) ← fraction rest
  let (power, rest) ← exponent rest
  let scale := (power.map Exponent.value).getD 0 - part.length
  if part.isEmpty && power.isNone then none
  else if negative || fitsDouble (ofDigits 10 (whole ++ part)) scale then
    some (.float (spelling s rest), rest)
  else none

/-- Reads an infinity or a value that is no number, with or without a sign. -/
def specialFloat : Reader Value := fun s =>
  match (sign s).2 with
  | 'i' :: 'n' :: 'f' :: rest => some (.float (spelling s rest), rest)
  | 'n' :: 'a' :: 'n' :: rest => some (.float (spelling s rest), rest)
  | _ => none

/-- Reads exactly `n` decimal digits, `high` being the value before them. -/
def fixedDigits : Nat → Nat → Reader Nat
  | 0, high, s => some (high, s)
  | n + 1, high, c :: rest =>
    if isDecimal c then fixedDigits n (high * 10 + (c.toNat - 48)) rest else none
  | _ + 1, _, [] => none

def char (c : Char) : List Char → Option (List Char)
  | d :: rest => if d = c then some rest else none
  | [] => none

def daysIn (year month : Nat) : Nat :=
  if month = 2 then
    if year % 4 = 0 ∧ (year % 100 ≠ 0 ∨ year % 400 = 0) then 29 else 28
  else if month = 4 ∨ month = 6 ∨ month = 9 ∨ month = 11 then 30
  else 31

def date? (s : List Char) : Option (List Char) := do
  let (year, s) ← fixedDigits 4 0 s
  let s ← char '-' s
  let (month, s) ← fixedDigits 2 0 s
  let s ← char '-' s
  let (day, s) ← fixedDigits 2 0 s
  if 1 ≤ month ∧ month ≤ 12 ∧ 1 ≤ day ∧ day ≤ daysIn year month then some s else none

def hourMinute? (s : List Char) : Option (List Char) := do
  let (hour, s) ← fixedDigits 2 0 s
  let s ← char ':' s
  let (minute, s) ← fixedDigits 2 0 s
  if hour ≤ 23 ∧ minute ≤ 59 then some s else none

/-- What remains after a time of day, which may have a fraction of a second. -/
def time? (s : List Char) : Option (List Char) := do
  let s ← hourMinute? s
  let s ← char ':' s
  let (second, s) ← fixedDigits 2 0 s
  if 60 < second then none
  else
    match s with
    | '.' :: c :: rest => if isDecimal c then some (rest.dropWhile isDecimal) else some s
    | _ => some s

/-- What remains after an offset from universal time, if there is one. -/
def skipOffset : List Char → Option (List Char)
  | 'Z' :: rest => some rest
  | 'z' :: rest => some rest
  | '+' :: rest => hourMinute? rest
  | '-' :: rest => hourMinute? rest
  | s => some s

def moment? (s : List Char) : Option (List Char) :=
  match date? s with
  | none => time? s
  | some rest =>
    match rest with
    | c :: t =>
      if c = 'T' ∨ c = 't' ∨ c = ' ' then
        match time? t with
        | some rest => skipOffset rest
        | none => some rest
      else some rest
    | [] => some rest

def number : Reader Value := fun s =>
  match moment? s with
  | some rest => some (.moment (spelling s rest), rest)
  | none =>
    match decimalFloat s with
    | some result => some result
    | none =>
      match specialFloat s with
      | some result => some result
      | none => integer s

def scalar : Reader Value := fun s =>
  match s with
  | '"' :: _ => (string s).map fun (t, rest) => (.text t, rest)
  | '\'' :: _ => (string s).map fun (t, rest) => (.text t, rest)
  | 't' :: 'r' :: 'u' :: 'e' :: rest => some (.boolean true, rest)
  | 'f' :: 'a' :: 'l' :: 's' :: 'e' :: rest => some (.boolean false, rest)
  | _ => number s

end Instrument.Toml
