import Instrument.Fault

/-!
Integers in data words. The notation of a number is told from its first characters: `0x` or `0X`
opens hexadecimal digits, any other leading `0` octal digits, and everything else is decimal. The
whole word must be used. A number too large for its word is a fault of its own.
-/

namespace Instrument.Numeral

/-- The value of a digit below `radix`; letters count from ten in either case. -/
def digit? (radix : Nat) (c : Char) : Option Nat :=
  let n := c.toNat
  let value :=
    if 48 ≤ n ∧ n ≤ 57 then some (n - 48)
    else if 97 ≤ n ∧ n ≤ 102 then some (n - 87)
    else if 65 ≤ n ∧ n ≤ 70 then some (n - 55)
    else none
  value.filter fun v => decide (v < radix)

/-- The number that a run of digits continues, the digits before it having the value `high`. -/
def extend? (radix : Nat) : Nat → List Char → Option Nat
  | high, [] => some high
  | high, c :: cs =>
    match digit? radix c with
    | some v => extend? radix (high * radix + v) cs
    | none => none

/-- The number that a non-empty run of digits stands for. -/
def ofDigits? (radix : Nat) (s : List Char) : Option Nat :=
  if s.isEmpty then none else extend? radix 0 s

def magnitude? : List Char → Option Nat
  | '0' :: c :: rest =>
    if c = 'x' ∨ c = 'X' then ofDigits? 16 rest else ofDigits? 8 (c :: rest)
  | s => ofDigits? 10 s

def dropPlus : List Char → List Char
  | '+' :: rest => rest
  | s => s

inductive Defect where
  | malformed
  | tooLarge
  | outside (min max : Nat)
deriving DecidableEq

def Defect.message (token : String) : Defect → String
  | .malformed => "not a number: " ++ token
  | .tooLarge => "number out of range: " ++ token
  | .outside min max =>
    token ++ " out of range [" ++ toString min ++ ", " ++ toString max ++ "]"

def Defect.fault (token : String) (d : Defect) : Fault :=
  .argument (d.message token)

/-- A number of 32 bits without sign; a plus sign is allowed, a minus sign is not. -/
def unsigned (token : String) : Except Defect Nat :=
  match magnitude? (dropPlus token.toList) with
  | none => .error .malformed
  | some n => if n < UInt32.size then .ok n else .error .tooLarge

def sign : List Char → Bool × List Char
  | '-' :: rest => (true, rest)
  | s => (false, dropPlus s)

/-- A number of 32 bits in two's complement range, with either sign. -/
def signed (token : String) : Except Defect Int :=
  let (negative, body) := sign token.toList
  match magnitude? body with
  | none => .error .malformed
  | some n =>
    let value : Int := if negative then -n else n
    if Int32.minValue.toInt ≤ value ∧ value ≤ Int32.maxValue.toInt then .ok value
    else .error .tooLarge

def within (min max : Nat) (token : String) : Except Defect Nat :=
  match unsigned token with
  | .error d => .error d
  | .ok n => if n < min ∨ max < n then .error (.outside min max) else .ok n

theorem le_of_within {min max n : Nat} {token : String} (h : within min max token = .ok n) :
    min ≤ n ∧ n ≤ max := by
  unfold within at h
  split at h
  · cases h
  · split at h
    · cases h
    · cases h; omega

end Instrument.Numeral
