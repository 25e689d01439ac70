import Instrument.Config
import Instrument.Toml.Document

/-!
Configurations from TOML documents. A field that the document does not give has its default, and a
key that names no field is passed over. A section may also be given as an array, which holds its
fields in order.
-/

namespace Instrument.Config

open Toml

/-- The value given for a field, which is known by its place and by its name. -/
abbrev Fields : Type :=
  Nat → String → Option Value

/-- The fields that a value gives to a section. A date gives none. -/
def fields? : Value → Option Fields
  | .table _ entries => some fun _ name => Entries.get? entries name
  | .array elements => some fun i _ => elements[i]?
  | .tables elements => some fun i _ => elements[i]?.map (.table .header ·)
  | .moment _ => some fun _ _ => none
  | _ => none

/-- The value of a field, or its default. -/
def field {α : Type} (decode : Value → Option α) (dflt : α) (given : Option Value) : Option α :=
  match given with
  | none => some dflt
  | some v => decode v

def natural? : Value → Option Nat
  | .integer n => if 0 ≤ n then some n.toNat else none
  | _ => none

def boolean? : Value → Option Bool
  | .boolean b => some b
  | _ => none

def text? : Value → Option String
  | .text s => some s
  | _ => none

/-- The elements of an array, or the tables under repeated headers. -/
def list? {α : Type} (decode : Value → Option α) : Value → Option (List α)
  | .array elements => elements.mapM decode
  | .tables elements => elements.mapM fun entries => decode (.table .header entries)
  | _ => none

def Fetch.ofValue? (v : Value) : Option Fetch := do
  let given ← fields? v
  let dflt : Fetch := {}
  let maxLineChars ← field natural? dflt.maxLineChars (given 0 "max_line_chars")
  let maxCommandTokens ← field natural? dflt.maxCommandTokens (given 1 "max_command_tokens")
  let maxDataTokens ← field natural? dflt.maxDataTokens (given 2 "max_data_tokens")
  let debug ← field boolean? dflt.debug (given 3 "debug")
  return ⟨maxLineChars, maxCommandTokens, maxDataTokens, debug⟩

/-- A sink must have a name. -/
def Sink.ofValue? (v : Value) : Option Sink := do
  let given ← fields? v
  let name ← (given 0 "name").bind text?
  let capacity ← field natural? 16 (given 1 "capacity")
  return ⟨name, capacity⟩

def Pipe.ofValue? (v : Value) : Option Pipe := do
  let given ← fields? v
  let dflt : Pipe := {}
  let poolSize ← field natural? dflt.poolSize (given 0 "pool_size")
  let samplesPerSet ← field natural? dflt.samplesPerSet (given 1 "samples_per_set")
  let consumerTimeoutMs ← field natural? dflt.consumerTimeoutMs (given 2 "consumer_timeout_ms")
  let sinks ← field (list? Sink.ofValue?) dflt.sinks (given 3 "sinks")
  return ⟨poolSize, samplesPerSet, consumerTimeoutMs, sinks⟩

def Adc.ofValue? (v : Value) : Option Adc := do
  let given ← fields? v
  let dflt : Adc := {}
  let tag ← field text? dflt.tag (given 0 "tag")
  let periodUs ← field natural? dflt.periodUs (given 1 "period_us")
  let inputs ← field (list? text?) dflt.inputs (given 2 "inputs")
  return ⟨tag, periodUs, inputs⟩

def Shell.ofValue? (v : Value) : Option Shell := do
  let given ← fields? v
  let dflt : Shell := {}
  let prompt ← field text? dflt.prompt (given 0 "prompt")
  let banner ← field boolean? dflt.banner (given 1 "banner")
  return ⟨prompt, banner⟩

/-- The configuration in the root table of a document. -/
def ofEntries? (root : Entries) : Option Config := do
  let fetch ← field Fetch.ofValue? {} (root.get? "fetch")
  let pipe ← field Pipe.ofValue? {} (root.get? "pipe")
  let adc ← field Adc.ofValue? {} (root.get? "adc")
  let shell ← field Shell.ofValue? {} (root.get? "shell")
  return ⟨fetch, pipe, adc, shell⟩

/-- Reads a document and checks the configuration in it. -/
def ofToml (document : String) : Except Fault Config :=
  match (read? document).bind ofEntries? with
  | some c => c.check
  | none => .error (.toml "the document is not a configuration")

end Instrument.Config
