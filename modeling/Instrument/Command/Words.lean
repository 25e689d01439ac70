import Instrument.Board
import Instrument.Vocabulary

/-!
The words of the command language, one vocabulary for each place in a line.
-/

namespace Instrument

/-- What a gpio line asks of its pin. -/
inductive GpioAction where
  | get | set | clear | query | configure | release
deriving DecidableEq

/-- What a pin is configured as. -/
inductive Direction where
  | input | output | analog
deriving DecidableEq

/-- The sense of an input, as it is written: a bias, or the analog function. -/
inductive SenseWord where
  | bias (sense : Sense)
  | analog
deriving DecidableEq

/-- What an adc line asks of the converter. -/
inductive AdcAction where
  | configure | start | stop | status
deriving DecidableEq

/-- How the converter samples. -/
inductive SampleType where
  | oneshot | continuous
deriving DecidableEq

/-- What a dac line asks of the channels. -/
inductive DacAction where
  | start | write | stop
deriving DecidableEq

namespace Vocabulary

def gpioActions : Vocabulary GpioAction :=
  ⟨"gpio action", [("get", .get), ("set", .set), ("clear", .clear), ("query", .query),
    ("configure", .configure), ("config", .configure), ("release", .release)]⟩

def directions : Vocabulary Direction :=
  ⟨"direction", [("input", .input), ("output", .output), ("analog", .analog)]⟩

def senses : Vocabulary SenseWord :=
  ⟨"sense", [("pullup", .bias .pullUp), ("pulldown", .bias .pullDown),
    ("floating", .bias .floating), ("analog", .analog)]⟩

def ports : Vocabulary Port :=
  ⟨"port", [("porta", .a), ("portb", .b), ("portc", .c), ("portd", .d), ("porte", .e),
    ("portf", .f), ("portg", .g), ("porth", .h), ("porti", .i)]⟩

def pads : Vocabulary (Fin 16) :=
  ⟨"pin", [("pin0", 0), ("pin1", 1), ("pin2", 2), ("pin3", 3), ("pin4", 4), ("pin5", 5),
    ("pin6", 6), ("pin7", 7), ("pin8", 8), ("pin9", 9), ("pin10", 10), ("pin11", 11),
    ("pin12", 12), ("pin13", 13), ("pin14", 14), ("pin15", 15)]⟩

def adcActions : Vocabulary AdcAction :=
  ⟨"adc action", [("configure", .configure), ("start", .start), ("stop", .stop),
    ("status", .status)]⟩

def sampleTypes : Vocabulary SampleType :=
  ⟨"sample type", [("oneshot", .oneshot), ("continuous", .continuous)]⟩

def dacActions : Vocabulary DacAction :=
  ⟨"dac action", [("start", .start), ("write", .write), ("stop", .stop)]⟩

def dacChannels : Vocabulary DacChannel :=
  ⟨"dac channel", [("ch1", .ch1), ("ch2", .ch2)]⟩

end Vocabulary

end Instrument
