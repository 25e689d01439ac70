import Instrument.Act
import Instrument.Board

/-!
The pin table, which decides who may drive a pin. Each row holds what the board fixes and, beside
it, the mode and the owner of the moment. A claim is granted when the subsystem is among those the
pin is wired for and nobody else holds the pin. The table drives the board along, so the mode of a
pad is always that of its row.
-/

namespace Instrument

structure Row where
  capability : Capability
  defaultMode : PadMode
  defaultOwner : Option Subsystem
  mode : PadMode
  owner : Option Subsystem
deriving DecidableEq

namespace Row

def ofProfile (p : PinProfile) : Row :=
  ⟨p.capability, p.defaultMode, p.defaultOwner, p.defaultMode, p.defaultOwner⟩

def restore (row : Row) : Row :=
  { row with mode := row.defaultMode, owner := row.defaultOwner }

/-- Whether a subsystem may take the pin as things stand. -/
def admits (row : Row) (s : Subsystem) : Bool :=
  row.capability.contains s && (row.owner == none || row.owner == some s)

/-- Whether the subsystem holds the pin and does so by a claim, not by default. -/
def claimedBy (row : Row) (s : Subsystem) : Bool :=
  row.owner == some s && row.defaultOwner != some s

end Row

/-- The rows of the pins the table knows, and the board they drive. -/
structure PinTable where
  rows : PinMap (Option Row)
  board : Board

namespace PinTable

/-- A pad brought to the default mode of its row; a pad without row is left alone. -/
def restorePad (row : Option Row) (pad : Pad) : Pad :=
  match row with
  | some row => pad.apply row.defaultMode
  | none => pad

/-- The rows of a list of profiles; of two for one pin the later counts. -/
def rowsOf (profiles : List PinProfile) : PinMap (Option Row) :=
  profiles.foldl (fun rows p => rows.set p.pin (some (.ofProfile p))) (.fill none)

/-- A table over a board, all of whose known pins are brought to their default modes. -/
def new (profiles : List PinProfile) (board : Board) : PinTable :=
  let rows := rowsOf profiles
  ⟨rows, { board with pads := .zipWith restorePad rows board.pads }⟩

def stock : PinTable :=
  new PinProfile.stockTable .fresh

def row? (t : PinTable) (pin : Pin) : Option Row :=
  t.rows.get pin

def row (t : PinTable) (pin : Pin) : Except Fault Row :=
  match t.row? pin with
  | some row => .ok row
  | none => .error (.argument ("pin " ++ pin.name ++ " is not on this board"))

/-- Puts a row in place and brings the pad to the row's mode. -/
def put (t : PinTable) (pin : Pin) (row : Row) : PinTable :=
  ⟨t.rows.set pin (some row), t.board.applyMode pin row.mode⟩

/-- Takes a pin for a subsystem and sets its mode. -/
def claim (t : PinTable) (pin : Pin) (mode : PadMode) (s : Subsystem) : Except Fault PinTable :=
  match t.row pin with
  | .error fault => .error fault
  | .ok row =>
    if row.admits s then .ok (t.put pin { row with mode, owner := some s })
    else .error (.conflict pin.name (Subsystem.ownerName row.owner) s.name)

/-- Brings a pin back to its default mode and owner, whoever holds it. -/
def release (t : PinTable) (pin : Pin) : Except Fault PinTable :=
  match t.row pin with
  | .error fault => .error fault
  | .ok row => .ok (t.put pin row.restore)

def query (t : PinTable) (pin : Pin) : Except Fault (PadMode × Option Subsystem) :=
  (t.row pin).map fun row => (row.mode, row.owner)

/-- Whether a subsystem may ever claim a pin. -/
def capable (t : PinTable) (pin : Pin) (s : Subsystem) : Except Fault Bool :=
  (t.row pin).map fun row => row.capability.contains s

def ownedBy (t : PinTable) (s : Subsystem) : List Pin :=
  Pin.all.filter fun pin => (t.row? pin).any (·.claimedBy s)

def resetAll (t : PinTable) : PinTable :=
  ⟨t.rows.map (·.map Row.restore),
    { t.board with pads := .zipWith restorePad t.rows t.board.pads }⟩

def write (t : PinTable) (pin : Pin) (high : Bool) : PinTable :=
  { t with board := t.board.write pin high }

def releaseAll (t : PinTable) (pins : List Pin) : PinTable :=
  pins.foldl (fun t pin => (t.release pin).toOption.getD t) t

/-- Claims pins one after the other, `taken` having been claimed before. When one is refused, all
that were claimed are released. -/
def claimFrom (mode : PadMode) (s : Subsystem) : List Pin → List Pin → Act PinTable Unit
  | _, [] => fun t => (.ok (), t)
  | taken, pin :: rest => fun t =>
    match t.claim pin mode s with
    | .ok t => claimFrom mode s (taken ++ [pin]) rest t
    | .error fault => (.error fault, t.releaseAll taken)

def claimAll (mode : PadMode) (s : Subsystem) (pins : List Pin) : Act PinTable Unit :=
  claimFrom mode s [] pins

@[simp] theorem row?_put_self (t : PinTable) (pin : Pin) (row : Row) :
    (t.put pin row).row? pin = some row := by
  simp [put, row?]

theorem row?_put_of_ne {p q : Pin} (t : PinTable) (row : Row) (h : p ≠ q) :
    (t.put p row).row? q = t.row? q := by
  simp [put, row?, PinMap.get_set_of_ne _ _ h]

end PinTable

end Instrument
