import Instrument.Fault
import Instrument.Pin.Map
import Instrument.Pin.Mode
import Instrument.Pin.Subsystem

/-!
The board under the pin table: what each pin is wired for, and a simulated set of pads and DAC
latches that stands for the hardware. A DAC code appears at once on the analog side of the pad that
the channel drives.
-/

namespace Instrument

/-- What the board fixes about a pin. -/
structure PinProfile where
  pin : Pin
  capability : Capability
  defaultMode : PadMode
  defaultOwner : Option Subsystem
deriving DecidableEq

namespace PinProfile

def wiring (pin : Pin) : List Subsystem :=
  let pad := pin.pad.val
  match pin.port with
  | .a =>
    if pad = 4 ∨ pad = 5 then [.gpio, .adc, .dac]
    else if pad ≤ 7 then [.gpio, .adc]
    else if pad = 8 then [.gpio]
    else if pad ≤ 12 then [.usb]
    else []
  | .b =>
    if pad ≤ 1 then [.gpio, .adc]
    else if pad = 3 ∨ pad = 4 then []
    else if pad = 6 ∨ pad = 7 ∨ pad = 10 ∨ pad = 11 then [.gpio, .i2c]
    else if 12 ≤ pad then [.gpio, .spi]
    else [.gpio]
  | .c =>
    if pad ≤ 5 then [.gpio, .adc]
    else if pad = 10 ∨ pad = 11 then [.gpio, .uart]
    else [.gpio]
  | .d => if pad ≤ 1 then [.gpio, .can] else [.gpio]
  | .h => if pad ≤ 1 then [] else [.gpio]
  | _ => [.gpio]

/-- The pin's row on the stock board: a floating input without owner, but for the USB pads, which
belong to USB in alternate function 10. -/
def stock (pin : Pin) : PinProfile :=
  let capability := Capability.ofList (wiring pin)
  if capability.contains .usb then ⟨pin, capability, .alternate 10, some .usb⟩
  else ⟨pin, capability, .input .floating, none⟩

def stockTable : List PinProfile :=
  Pin.all.map stock

end PinProfile

/-- The largest code of a twelve-bit converter. -/
def fullScale : UInt16 := 4095

/-- A simulated pad: its mode, its logic level and the voltage on it as a twelve-bit code. -/
structure Pad where
  mode : PadMode
  level : Bool
  analog : UInt16
deriving DecidableEq

namespace Pad

def idle : Pad :=
  ⟨.input .floating, false, 0⟩

/-- Sets the mode; a pulled input takes the level it is pulled to. -/
def apply (pad : Pad) (mode : PadMode) : Pad :=
  match mode with
  | .input .pullUp => { pad with mode, level := true }
  | .input .pullDown => { pad with mode, level := false }
  | _ => { pad with mode }

/-- Drives the pad, which only an output takes up. -/
def write (pad : Pad) (high : Bool) : Pad :=
  if pad.mode = .output then { pad with level := high } else pad

theorem mode_apply (pad : Pad) (mode : PadMode) : (pad.apply mode).mode = mode := by
  unfold apply
  split <;> rfl

theorem analog_apply (pad : Pad) (mode : PadMode) : (pad.apply mode).analog = pad.analog := by
  unfold apply
  split <;> rfl

end Pad

/-- A channel of the on-chip DAC. -/
inductive DacChannel where
  | ch1 | ch2
deriving DecidableEq

namespace DacChannel

def all : List DacChannel :=
  [.ch1, .ch2]

def name : DacChannel → String
  | .ch1 => "ch1"
  | .ch2 => "ch2"

/-- The pad that the channel drives. -/
def pin : DacChannel → Pin
  | .ch1 => ⟨.a, ⟨4, by decide⟩⟩
  | .ch2 => ⟨.a, ⟨5, by decide⟩⟩

end DacChannel

/-- The simulated hardware: every pad, and the last code latched on each DAC channel. -/
structure Board where
  pads : PinMap Pad
  ch1 : Option UInt16
  ch2 : Option UInt16

namespace Board

def fresh : Board :=
  ⟨.fill .idle, none, none⟩

def pad (b : Board) (pin : Pin) : Pad :=
  b.pads.get pin

def updatePad (b : Board) (pin : Pin) (f : Pad → Pad) : Board :=
  { b with pads := b.pads.set pin (f (b.pad pin)) }

def applyMode (b : Board) (pin : Pin) (mode : PadMode) : Board :=
  b.updatePad pin (·.apply mode)

def write (b : Board) (pin : Pin) (high : Bool) : Board :=
  b.updatePad pin (·.write high)

/-- Drives a pad from outside the board. -/
def setLevel (b : Board) (pin : Pin) (high : Bool) : Board :=
  b.updatePad pin ({ · with level := high })

/-- Puts a voltage on a pad from outside the board; a code beyond full scale reads as full scale. -/
def setAnalog (b : Board) (pin : Pin) (code : UInt16) : Board :=
  b.updatePad pin ({ · with analog := min code fullScale })

def latched (b : Board) : DacChannel → Option UInt16
  | .ch1 => b.ch1
  | .ch2 => b.ch2

def setLatch (b : Board) (channel : DacChannel) (code : UInt16) : Board :=
  match channel with
  | .ch1 => { b with ch1 := some code }
  | .ch2 => { b with ch2 := some code }

/-- Latches a code on a channel and puts it on the channel's pad. -/
def latch (b : Board) (channel : DacChannel) (code : UInt16) : Except Fault Board :=
  if fullScale < code then
    .error (.argument ("dac value " ++ toString code.toNat ++ " exceeds " ++
      toString fullScale.toNat))
  else .ok ((b.setLatch channel code).setAnalog channel.pin code)

@[simp] theorem pad_updatePad_self (b : Board) (pin : Pin) (f : Pad → Pad) :
    (b.updatePad pin f).pad pin = f (b.pad pin) := by
  simp [pad, updatePad]

theorem pad_updatePad_of_ne {p q : Pin} (b : Board) (f : Pad → Pad) (h : p ≠ q) :
    (b.updatePad p f).pad q = b.pad q := by
  simp [pad, updatePad, PinMap.get_set_of_ne _ _ h]

@[simp] theorem latched_updatePad (b : Board) (pin : Pin) (f : Pad → Pad) (channel : DacChannel) :
    (b.updatePad pin f).latched channel = b.latched channel := by
  cases channel <;> rfl

@[simp] theorem pad_setLatch (b : Board) (channel : DacChannel) (code : UInt16) (pin : Pin) :
    (b.setLatch channel code).pad pin = b.pad pin := by
  cases channel <;> rfl

end Board

end Instrument
