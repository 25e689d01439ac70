/-!
Text from bytes. A scan goes through the bytes once and answers, in order, each character that is
well formed and a gap for each stretch that is not: a stretch is the longest beginning of some
well-formed sequence, or else one byte. A text is well formed when it has no gap; to show one that
is not, each gap is filled with the replacement character.
-/

namespace Instrument.Utf8

/-- What the scan has seen of an unfinished character: its value so far, how many bytes are to
come, and the bounds on the next one. -/
structure Pending where
  value : Nat
  missing : Nat
  low : Nat
  high : Nat

inductive Opening where
  | char (c : Char)
  | sequence (pending : Pending)
  | none

/-- The bounds on the second byte keep out overlong forms, surrogates, and values beyond the last
character. -/
def opening (b : UInt8) : Opening :=
  let n := b.toNat
  if n < 0x80 then .char (Char.ofNat n)
  else if n < 0xC2 then .none
  else if n < 0xE0 then .sequence ⟨n - 0xC0, 1, 0x80, 0xBF⟩
  else if n < 0xF0 then
    .sequence ⟨n - 0xE0, 2, if n = 0xE0 then 0xA0 else 0x80, if n = 0xED then 0x9F else 0xBF⟩
  else if n < 0xF5 then
    .sequence ⟨n - 0xF0, 3, if n = 0xF0 then 0x90 else 0x80, if n = 0xF4 then 0x8F else 0xBF⟩
  else .none

/-- Scans bytes, some of a character having been seen or not; `none` stands for a gap. -/
def scanFrom : Option Pending → List UInt8 → List (Option Char)
  | none, [] => []
  | some _, [] => [none]
  | none, b :: rest =>
    match opening b with
    | .char c => some c :: scanFrom none rest
    | .sequence pending => scanFrom (some pending) rest
    | .none => none :: scanFrom none rest
  | some p, b :: rest =>
    if p.low ≤ b.toNat ∧ b.toNat ≤ p.high then
      let value := p.value * 64 + (b.toNat - 0x80)
      if p.missing ≤ 1 then some (Char.ofNat value) :: scanFrom none rest
      else scanFrom (some ⟨value, p.missing - 1, 0x80, 0xBF⟩) rest
    else
      match opening b with
      | .char c => none :: some c :: scanFrom none rest
      | .sequence pending => none :: scanFrom (some pending) rest
      | .none => none :: none :: scanFrom none rest

def scan (bytes : List UInt8) : List (Option Char) :=
  scanFrom none bytes

def decode? (bytes : List UInt8) : Option String :=
  ((scan bytes).mapM id).map String.ofList

/-- The text of any bytes, each gap shown as the replacement character. -/
def decodeLossy (bytes : List UInt8) : String :=
  String.ofList ((scan bytes).map (·.getD '\uFFFD'))

end Instrument.Utf8
