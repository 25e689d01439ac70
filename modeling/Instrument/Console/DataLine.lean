/-!
The line that carries a sample set to the host: a tag, a colon, and then the sequence number and
every sample as four upper-case hexadecimal digits, with nothing between them. As each number has
four digits, the line can be read back: what follows the last colon is cut in groups of four.
-/

namespace Instrument

/-- A sample set as the host sees it. -/
structure DataLine where
  tag : String
  sequence : UInt16
  samples : List UInt16
deriving DecidableEq

namespace DataLine

def digit (n : Nat) : Char :=
  Char.ofNat (if n < 10 then 48 + n else 55 + n)

def word (w : UInt16) : List Char :=
  let n := w.toNat
  [digit (n / 4096 % 16), digit (n / 256 % 16), digit (n / 16 % 16), digit (n % 16)]

def payload (sequence : UInt16) (samples : List UInt16) : List Char :=
  (sequence :: samples).flatMap word

/-- The line without its terminator. -/
def text (line : DataLine) : String :=
  line.tag ++ ":" ++ String.ofList (payload line.sequence line.samples)

def value? (c : Char) : Option Nat :=
  let n := c.toNat
  if 48 ≤ n ∧ n ≤ 57 then some (n - 48)
  else if 65 ≤ n ∧ n ≤ 70 then some (n - 55)
  else none

/-- Reads a run of digits in groups of four. -/
def words? : List Char → Option (List UInt16)
  | [] => some []
  | a :: b :: c :: d :: rest =>
    match value? a, value? b, value? c, value? d, words? rest with
    | some a, some b, some c, some d, some ws =>
      some (UInt16.ofNat (((a * 16 + b) * 16 + c) * 16 + d) :: ws)
    | _, _, _, _, _ => none
  | _ => none

/-- Reads a line: the tag stands before the last colon. -/
def read? (line : String) : Option DataLine :=
  let reversed := line.toList.reverse
  let digits := (reversed.takeWhile (· != ':')).reverse
  match reversed.dropWhile (· != ':') with
  | [] => none
  | _ :: before =>
    match words? digits with
    | some (sequence :: samples) => some ⟨String.ofList before.reverse, sequence, samples⟩
    | _ => none

end DataLine

end Instrument
