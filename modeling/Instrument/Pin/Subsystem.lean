/-!
The subsystems that can hold a pin, and the sets of them that a pin is wired for.
-/

namespace Instrument

/-- A peripheral that can own a pin. -/
inductive Subsystem where
  | gpio | adc | dac | spi | i2c | usb | can | uart
deriving DecidableEq

namespace Subsystem

/-- The subsystems in table order. -/
def all : List Subsystem :=
  [.gpio, .adc, .dac, .spi, .i2c, .usb, .can, .uart]

def name : Subsystem → String
  | .gpio => "GPIO" | .adc => "ADC" | .dac => "DAC" | .spi => "SPI"
  | .i2c => "I2C" | .usb => "USB" | .can => "CAN" | .uart => "UART"

def index : Subsystem → Fin 8
  | .gpio => 0 | .adc => 1 | .dac => 2 | .spi => 3 | .i2c => 4 | .usb => 5 | .can => 6 | .uart => 7

/-- The text for the holder of a pin, which may have none. -/
def ownerName : Option Subsystem → String
  | none => "None"
  | some s => s.name

end Subsystem

/-- The set of subsystems that may claim a pin; an empty one marks a hard-wired pin. -/
structure Capability where
  bits : BitVec 8
deriving DecidableEq

namespace Capability

/-- No subsystem may claim the pin. -/
def empty : Capability :=
  ⟨0#8⟩

def contains (c : Capability) (s : Subsystem) : Bool :=
  c.bits.getLsbD s.index.val

def insert (c : Capability) (s : Subsystem) : Capability :=
  ⟨c.bits ||| BitVec.twoPow 8 s.index.val⟩

def ofList (members : List Subsystem) : Capability :=
  members.foldl insert empty

/-- The members in table order. -/
def toList (c : Capability) : List Subsystem :=
  Subsystem.all.filter c.contains

end Capability

end Instrument
