import Instrument.Proofs.PoolAccounting
import Instrument.Proofs.StationRuns

/-!
# Which configurations are accepted

The sizes of the pipeline are looked at twice: when a configuration is checked, and when the pool is
made. Both refuse a pool that is too large, but only the pool refuses sets that are. A configuration
that passes the check and names analog inputs is accepted exactly if its sets are not too large.
-/

namespace Instrument

namespace Config

/-- The sizes of the configuration leave the line reader and the pipeline something to do. -/
structure Sized (config : Config) : Prop where
  lineChars : config.fetch.maxLineChars ≠ 0
  commandTokens : config.fetch.maxCommandTokens ≠ 0
  poolSize : config.pipe.poolSize ≠ 0 ∧ config.pipe.poolSize ≤ 65535
  samplesPerSet : config.pipe.samplesPerSet ≠ 0
  capacity : ∀ sink ∈ config.pipe.sinks, sink.capacity ≠ 0
  tag : config.adc.tag ≠ ""

/-- The input names are those of pins that the converter can reach. -/
def NamesAnalogPins (config : Config) : Prop :=
  ∀ name ∈ config.adc.inputs, ∃ pin, Pin.ofName? name = some pin ∧
    (PinProfile.stock pin).capability.contains .adc = true

variable {config : Config}

lemma defect?_eq_none_iff : config.defect? = none ↔ config.Sized := by
  constructor
  · intro h
    unfold defect? at h
    cases hsink : config.pipe.sinks.find? (fun sink => sink.capacity == 0) with
    | some sink =>
      rw [hsink] at h
      split_ifs at h
    | none =>
      rw [hsink] at h
      split_ifs at h with hchars htokens hpool hset hlarge htag
      refine ⟨hchars, htokens, ⟨hpool, Nat.not_lt.1 hlarge⟩, hset, fun sink hmem => ?_, htag⟩
      simpa using List.find?_eq_none.1 hsink sink hmem
  · intro h
    have hsink : config.pipe.sinks.find? (fun sink => sink.capacity == 0) = none :=
      List.find?_eq_none.2 fun sink hmem => by simpa using h.capacity sink hmem
    rw [defect?, if_neg h.lineChars, if_neg h.commandTokens, if_neg h.poolSize.1,
      if_neg h.samplesPerSet, if_neg (Nat.not_lt.2 h.poolSize.2), hsink]
    exact if_neg h.tag

lemma check_eq_ok_iff : config.check = .ok config ↔ config.Sized := by
  rw [← defect?_eq_none_iff, check]
  cases config.defect? with
  | none => exact iff_of_true rfl rfl
  | some defect => exact iff_of_false nofun nofun

end Config

namespace Pool

lemma exists_new {size perSet : Nat} (hsize : size ≠ 0 ∧ size ≤ 65535)
    (hper : perSet ≠ 0 ∧ perSet ≤ 65535) : ∃ pool, new size perSet = .ok pool := by
  have hpool : ¬ (size = 0 ∨ maxSize < size) := by
    unfold maxSize
    omega
  have hset : ¬ (perSet = 0 ∨ maxSize < perSet) := by
    unfold maxSize
    omega
  rw [new, if_neg hpool, if_neg hset]
  exact ⟨_, rfl⟩

lemma new_of_large_sets {size perSet : Nat} (hsize : size ≠ 0 ∧ size ≤ 65535)
    (hper : 65535 < perSet) :
    new size perSet =
      .error (.config ("samples per set " ++ toString perSet ++ " out of range")) := by
  have hpool : ¬ (size = 0 ∨ maxSize < size) := by
    unfold maxSize
    omega
  rw [new, if_neg hpool, if_pos (.inr hper)]

end Pool

namespace Rig

variable {config : Config} {console : Console} {rig : Rig}

lemma mapM_inputPin_iff {names : List String} {pins : List Pin} :
    names.mapM inputPin = .ok pins ↔ names.map Pin.ofName? = pins.map some := by
  induction names generalizing pins with
  | nil =>
    cases pins with
    | nil => exact iff_of_true rfl rfl
    | cons pin pins => exact iff_of_false nofun nofun
  | cons name names ih =>
    rw [List.mapM_cons, List.map_cons]
    cases hname : Pin.ofName? name with
    | none =>
      have hfault : inputPin name = .error (.config ("adc.inputs: " ++
          (Fault.argument ("invalid pin name: " ++ name)).message)) := by
        rw [inputPin, Pin.read, hname]
        rfl
      rw [hfault]
      cases pins with
      | nil => exact iff_of_false nofun nofun
      | cons pin pins => exact iff_of_false nofun nofun
    | some first =>
      have hfirst : inputPin name = .ok first := by
        rw [inputPin, Pin.read, hname]
        rfl
      rw [hfirst]
      constructor
      · intro h
        obtain ⟨_, ⟨⟩, h⟩ := Station.bind_eq_ok h
        obtain ⟨rest, hrest, h⟩ := Station.bind_eq_ok h
        cases h
        rw [ih.1 hrest, List.map_cons]
      · intro h
        cases pins with
        | nil => cases h
        | cons pin pins =>
          rw [List.map_cons, List.cons.injEq] at h
          obtain ⟨⟨⟩, hrest⟩ := h
          rw [ih.2 hrest]
          rfl

lemma notAnalog?_eq_none_iff {pins : List Pin} : notAnalog? .stock pins = none ↔
    ∀ pin ∈ pins, (PinProfile.stock pin).capability.contains .adc = true := by
  refine ⟨Station.wired_of_notAnalog?, fun h => List.find?_eq_none.2 fun pin hpin => ?_⟩
  obtain ⟨row, hrow, hstock⟩ := PinTable.orderly_stock.exists_row pin
  have hcontains : row.capability.contains .adc = true := by
    have hwired := h pin hpin
    rw [← hstock] at hwired
    exact hwired
  simp [hrow, hcontains]

lemma namesAnalogPins_iff : config.NamesAnalogPins ↔ ∃ inputs,
    config.adc.inputs.mapM inputPin = .ok inputs ∧ notAnalog? .stock inputs = none := by
  simp only [mapM_inputPin_iff, notAnalog?_eq_none_iff, Config.NamesAnalogPins]
  generalize config.adc.inputs = names
  constructor
  · intro h
    induction names with
    | nil => exact ⟨[], rfl, List.forall_mem_nil _⟩
    | cons name names ih =>
      obtain ⟨pin, hpin, hwired⟩ := h name List.mem_cons_self
      obtain ⟨pins, hpins, hrest⟩ := ih fun other hmem => h other (List.mem_cons_of_mem _ hmem)
      exact ⟨pin :: pins, by rw [List.map_cons, hpin, hpins, List.map_cons],
        List.forall_mem_cons.2 ⟨hwired, hrest⟩⟩
  · rintro ⟨pins, hpins, hwired⟩ name hname
    have hmem : Pin.ofName? name ∈ pins.map some := hpins ▸ List.mem_map_of_mem hname
    obtain ⟨pin, hpin, hsome⟩ := List.mem_map.1 hmem
    exact ⟨pin, hsome.symm, hwired pin hpin⟩

/-- The rig that is put together around a pool. -/
def around (config : Config) (console : Console) (inputs : List Pin) (pool : Pool) : Rig where
  config := config
  inputs := inputs
  pins := .stock
  source := .new pool (config.pipe.sinks.map fun sink => .new sink.name sink.capacity)
  console := { console with debugging := config.fetch.debug }
  consuming := false
  crashed := false
  uptimeUs := 0

/-- Once the check has passed and the inputs are found, only the pool can be refused. -/
lemma new_of_inputs {inputs : List Pin} (hcheck : config.check = .ok config)
    (hinputs : config.adc.inputs.mapM inputPin = .ok inputs)
    (hwired : notAnalog? .stock inputs = none) :
    new config console = (Pool.new config.pipe.poolSize config.pipe.samplesPerSet).map
      (around config console inputs) := by
  simp only [new, hcheck, hinputs, hwired, bind, Except.bind]
  cases Pool.new config.pipe.poolSize config.pipe.samplesPerSet <;> rfl

/-- The rig that comes out has passed everything on the way. -/
lemma exists_of_new (h : new config console = .ok rig) :
    config.check = .ok config ∧ ∃ inputs pool, config.adc.inputs.mapM inputPin = .ok inputs ∧
      notAnalog? .stock inputs = none ∧
      Pool.new config.pipe.poolSize config.pipe.samplesPerSet = .ok pool ∧
      rig = around config console inputs pool := by
  obtain ⟨config', hcheck, -⟩ := Station.bind_eq_ok h
  cases Station.check_eq_ok hcheck
  obtain ⟨inputs, -, hinputs, hwired, -⟩ := Station.rig_new h
  rw [new_of_inputs hcheck hinputs hwired] at h
  cases hpool : Pool.new config.pipe.poolSize config.pipe.samplesPerSet with
  | error fault =>
    rw [hpool] at h
    cases h
  | ok pool =>
    rw [hpool] at h
    cases h
    exact ⟨hcheck, inputs, pool, hinputs, hwired, rfl, rfl⟩

/-- What a configuration describes: the pins that it names, a pool of free slots of the given sizes,
and its sinks, which are empty. -/
structure Described (config : Config) (rig : Rig) : Prop where
  config_eq : rig.config = config
  inputs : config.adc.inputs.map Pin.ofName? = rig.inputs.map some
  pins : rig.pins = .stock
  slots : rig.source.pool.capacity = config.pipe.poolSize ∧
    rig.source.pool.available = config.pipe.poolSize
  samplesPerSet : rig.source.pool.samplesPerSet = config.pipe.samplesPerSet
  sinks : rig.source.sinks = config.pipe.sinks.map fun sink => .new sink.name sink.capacity

/-- A configuration is accepted exactly if it passes the check, names analog pins and asks for sets
of at most 65535 samples, and the rig is the one that it describes. If nothing is wrong but the
size of the sets, it is the pool that refuses them. -/
theorem accepted_iff (config : Config) (console : Console) :
    ((∃ rig, new config console = .ok rig) ↔ config.check = .ok config ∧ config.NamesAnalogPins ∧
      config.pipe.samplesPerSet ≤ 65535) ∧
    (∀ rig, new config console = .ok rig → Described config rig) ∧
    (config.check = .ok config → config.NamesAnalogPins → 65535 < config.pipe.samplesPerSet →
      new config console = .error (.config
        ("samples per set " ++ toString config.pipe.samplesPerSet ++ " out of range"))) := by
  refine ⟨⟨?_, ?_⟩, ?_, ?_⟩
  · rintro ⟨rig, h⟩
    obtain ⟨hcheck, inputs, pool, hinputs, hwired, hpool, -⟩ := exists_of_new h
    obtain ⟨-, -, -, hper⟩ := Pool.accounts_new hpool
    exact ⟨hcheck, namesAnalogPins_iff.2 ⟨inputs, hinputs, hwired⟩, hper⟩
  · rintro ⟨hcheck, hnames, hper⟩
    obtain ⟨inputs, hinputs, hwired⟩ := namesAnalogPins_iff.1 hnames
    have hsized := Config.check_eq_ok_iff.1 hcheck
    obtain ⟨pool, hpool⟩ := Pool.exists_new hsized.poolSize ⟨hsized.samplesPerSet, hper⟩
    exact ⟨_, by rw [new_of_inputs hcheck hinputs hwired, hpool]; rfl⟩
  · intro rig h
    obtain ⟨-, inputs, pool, hinputs, -, hpool, rfl⟩ := exists_of_new h
    obtain ⟨haccounts, hcapacity, hper, -⟩ := Pool.accounts_new hpool
    have havailable := (haccounts.available_eq fun _ => rfl).1
    exact ⟨rfl, mapM_inputPin_iff.1 hinputs, rfl, ⟨hcapacity, havailable.trans hcapacity⟩, hper,
      rfl⟩
  · intro hcheck hnames hper
    obtain ⟨inputs, hinputs, hwired⟩ := namesAnalogPins_iff.1 hnames
    have hsized := Config.check_eq_ok_iff.1 hcheck
    rw [new_of_inputs hcheck hinputs hwired, Pool.new_of_large_sets hsized.poolSize hper]
    rfl

/-- One slot for a set of 65536 samples: the check lets it pass, and the pool does not. -/
theorem refused_after_check : ∃ config : Config,
    config.check = .ok config ∧ config.NamesAnalogPins ∧
      new config .fresh = .error (.config "samples per set 65536 out of range") := by
  let config : Config := { pipe := { poolSize := 1, samplesPerSet := 65536 } }
  have hnames : config.NamesAnalogPins := by
    intro name hname
    obtain rfl : name = "PA3" := List.mem_singleton.1 hname
    exact ⟨⟨.a, 3⟩, by decide, by decide⟩
  have htext : "samples per set " ++ toString 65536 ++ " out of range" =
      "samples per set 65536 out of range" := by
    decide
  obtain ⟨inputs, hinputs, hwired⟩ := namesAnalogPins_iff.1 hnames
  refine ⟨config, rfl, hnames, ?_⟩
  rw [new_of_inputs rfl hinputs hwired, Pool.new_of_large_sets (by decide) (by decide)]
  exact congrArg (fun text => Except.error (Fault.config text)) htext

end Rig

end Instrument
