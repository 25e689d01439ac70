import Instrument.Fault

/-!
The pins of the board: nine ports of sixteen pads. A pin is written `PA3`; it is read in either
case and with an optional leading zero. `Pin.index` numbers the pins port by port, and that number
is what per-pin tables are addressed with.
-/

namespace Instrument

inductive Port where
  | a | b | c | d | e | f | g | h | i
deriving DecidableEq

namespace Port

def all : List Port :=
  [.a, .b, .c, .d, .e, .f, .g, .h, .i]

def index : Port → Fin 9
  | .a => 0 | .b => 1 | .c => 2 | .d => 3 | .e => 4 | .f => 5 | .g => 6 | .h => 7 | .i => 8

def letter : Port → Char
  | .a => 'A' | .b => 'B' | .c => 'C' | .d => 'D' | .e => 'E'
  | .f => 'F' | .g => 'G' | .h => 'H' | .i => 'I'

/-- The port of a letter in either case. -/
def ofLetter? (c : Char) : Option Port :=
  all.find? fun port => port.letter == c.toUpper

theorem mem_all (port : Port) : port ∈ all := by
  cases port <;> decide

theorem index_injective {p q : Port} (h : p.index = q.index) : p = q := by
  cases p <;> cases q <;> simp_all [index]

end Port

structure Pin where
  port : Port
  pad : Fin 16
deriving DecidableEq

namespace Pin

abbrev count : Nat := 144

/-- The pin's place in the port-by-port numbering. -/
def index (pin : Pin) : Fin count :=
  ⟨pin.port.index.val * 16 + pin.pad.val, by
    have := pin.port.index.isLt
    have := pin.pad.isLt
    show _ < 144
    omega⟩

theorem index_injective {p q : Pin} (h : p.index = q.index) : p = q := by
  have hv : p.port.index.val * 16 + p.pad.val = q.port.index.val * 16 + q.pad.val :=
    congrArg Fin.val h
  have hp := p.pad.isLt
  have hq := q.pad.isLt
  have hport : p.port = q.port := Port.index_injective (Fin.ext (by omega))
  have hpad : p.pad = q.pad := Fin.ext (by omega)
  cases p
  cases q
  simp_all

/-- The pin of a port with the given pad number, if the port has that pad. -/
def ofPad? (port : Port) (pad : Nat) : Option Pin :=
  if h : pad < 16 then some ⟨port, ⟨pad, h⟩⟩ else none

/-- Every pin, port by port. -/
def all : List Pin :=
  Port.all.flatMap fun port => (List.finRange 16).map fun pad => ⟨port, pad⟩

theorem mem_all (pin : Pin) : pin ∈ all := by
  simp only [all, List.mem_flatMap, List.mem_map]
  exact ⟨pin.port, Port.mem_all pin.port, pin.pad, List.mem_finRange pin.pad, rfl⟩

/-- The pin's name, such as `PA3`. -/
def name (pin : Pin) : String :=
  "P" ++ String.singleton pin.port.letter ++ toString pin.pad.val

def decimal? (c : Char) : Option Nat :=
  if 48 ≤ c.toNat ∧ c.toNat ≤ 57 then some (c.toNat - 48) else none

/-- The pad number that one or two decimal digits stand for. -/
def padNumber? : List Char → Option Nat
  | [c] => decimal? c
  | [c, d] =>
    match decimal? c, decimal? d with
    | some high, some low => some (high * 10 + low)
    | _, _ => none
  | _ => none

/-- Reads a pin's name in either case. -/
def ofName? (name : String) : Option Pin :=
  match name.toList with
  | p :: letter :: digits =>
    if p = 'P' ∨ p = 'p' then
      match Port.ofLetter? letter, padNumber? digits with
      | some port, some pad => ofPad? port pad
      | _, _ => none
    else none
  | _ => none

/-- Reads a pin's name, or tells that it is none. -/
def read (name : String) : Except Fault Pin :=
  match ofName? name with
  | some pin => .ok pin
  | none => .error (.argument ("invalid pin name: " ++ name))

end Pin

end Instrument
