import Instrument.Proofs.FanOut
import Instrument.Proofs.HoldingLines
import Instrument.Proofs.Manner

/-!
# The replies of the instrument

The transcript of a connection is its reply lines; what the consumers send and what the terminal
shows is set aside. Over a working connection a request adds lines to it that are tagged, and one
that fails has added nothing but notes, the lines that are sent only while debugging.
-/

namespace Instrument

open Act Text

def Opens (tag line : String) : Prop :=
  tag.toList <+: line.toList

lemma opens_append (tag rest : String) : Opens tag (tag ++ rest) := by
  rw [Opens, String.toList_append]
  exact List.prefix_append _ _

lemma Opens.append {tag line : String} (h : Opens tag line) (rest : String) :
    Opens tag (line ++ rest) := by
  rw [Opens, String.toList_append]
  exact h.trans (List.prefix_append _ _)

def answerTags : List String :=
  ["#:", "?:", "B:", "S:", "U32:", "U64:"]

/-- The tags of the lines around an answer and of the line that tells of a failure. -/
def frameTags : List String :=
  ["BEGIN:", "END:", "E:"]

def Tagged (line : String) : Prop :=
  ∃ tag ∈ answerTags, Opens tag line

/-- A line that is sent only while debugging. -/
structure IsNote (line : String) : Prop where
  opens : Opens "?:" line
  oneLine : OneLine line

lemma IsNote.tagged {line : String} (h : IsNote line) : Tagged line :=
  ⟨"?:", by decide, h.opens⟩

/-- Two tags of one line would be tags of each other. -/
lemma not_opens_of_opens {tag tag' line : String} (h : Opens tag line)
    (hne : ¬ tag.toList <+: tag'.toList ∧ ¬ tag'.toList <+: tag.toList) : ¬ Opens tag' line := by
  intro h'
  rcases List.prefix_or_prefix_of_prefix h h' with hp | hp
  · exact hne.1 hp
  · exact hne.2 hp

lemma answerTags_apart : ∀ tag ∈ answerTags, ∀ tag' ∈ frameTags,
    ¬ tag.toList <+: tag'.toList ∧ ¬ tag'.toList <+: tag.toList := by
  decide +kernel

/-- A line of an answer is never taken for a line around it. -/
lemma Tagged.not_opens {line tag : String} (h : Tagged line) (ht : tag ∈ frameTags) :
    ¬ Opens tag line := by
  obtain ⟨own, hown, hopens⟩ := h
  exact not_opens_of_opens hopens (answerTags_apart own hown tag ht)

/-! ## Connections -/

def Event.reply? : Event → Option String
  | .reply line => some line
  | _ => none

namespace Console

def replies (c : Console) : List String :=
  c.log.toList.filterMap Event.reply?

/-- No line is lost. -/
structure Working (c : Console) : Prop where
  up : c.down = false
  lossless : ∀ n, c.loses n = false

def Adds (p : String → Prop) (c c' : Console) : Prop :=
  ∃ lines, c'.replies = c.replies ++ lines ∧ ∀ line ∈ lines, p line

variable {c c' c'' : Console} {p q : String → Prop}

lemma adds_of_replies_eq (h : c'.replies = c.replies) : Adds p c c' :=
  ⟨[], h.trans (List.append_nil _).symm, nofun⟩

lemma Adds.trans (h : Adds p c c') (h' : Adds p c' c'') : Adds p c c'' := by
  obtain ⟨lines, he, hl⟩ := h
  obtain ⟨lines', he', hl'⟩ := h'
  refine ⟨lines ++ lines', by rw [he', he, List.append_assoc], fun line hline => ?_⟩
  exact (List.mem_append.1 hline).elim (hl line) (hl' line)

lemma Adds.mono (h : Adds p c c') (hpq : ∀ line, p line → q line) : Adds q c c' := by
  obtain ⟨lines, he, hl⟩ := h
  exact ⟨lines, he, fun line hline => hpq line (hl line hline)⟩

structure Resumes (c c' : Console) : Prop where
  down : c'.down = c.down
  terminalDown : c'.terminalDown = c.terminalDown
  loses : c'.loses = c.loses
  debugging : c'.debugging = c.debugging
  replies : c'.replies = c.replies

lemma Resumes.refl (c : Console) : c.Resumes c :=
  ⟨rfl, rfl, rfl, rfl, rfl⟩

lemma Resumes.trans (h : c.Resumes c') (h' : c'.Resumes c'') : c.Resumes c'' :=
  ⟨h'.down.trans h.down, h'.terminalDown.trans h.terminalDown, h'.loses.trans h.loses,
    h'.debugging.trans h.debugging, h'.replies.trans h.replies⟩

def sent (c : Console) (text : String) : Console :=
  { c with attempts := c.attempts + 1, log := c.log.push (.reply text) }

lemma exec_line (h : c.Working) (text : String) : (line text).exec c = (.ok (), c.sent text) := by
  simp [line, send, exec, h.up, h.lossless, sent]

lemma replies_sent (c : Console) (text : String) : (c.sent text).replies = c.replies ++ [text] := by
  simp [sent, replies, Event.reply?]

lemma adds_sent {text : String} (h : p text) (c : Console) : Adds p c (c.sent text) := by
  refine ⟨[text], replies_sent c text, fun line hline => ?_⟩
  rwa [List.mem_singleton.1 hline]

lemma exec_debug (h : c.Working) (text : String) :
    (debug text).exec c = (.ok (), if c.debugging then c.sent ("?:" ++ text) else c) := by
  change (if c.debugging = true then (line ("?:" ++ text)).exec c else (.ok (), c)) = _
  rw [exec_line h]
  split <;> rfl

lemma resumes_crash (c : Console) : c.Resumes c.crash := by
  refine ⟨rfl, rfl, rfl, rfl, ?_⟩
  simp [crash, replies, Event.reply?]

/-- What a consumer sends is no reply, whether it gets through or not. -/
lemma resumes_data (sink : String) (set : DataLine) (c : Console) :
    c.Resumes ((data sink set).exec c).2 := by
  unfold data send exec
  dsimp only
  split
  · exact ⟨rfl, rfl, rfl, rfl, rfl⟩
  · refine ⟨rfl, rfl, rfl, rfl, ?_⟩
    simp [replies, Event.reply?]

end Console

namespace Source

variable {s : Source}

def sinkNames (s : Source) : List String :=
  s.sinks.map Mailbox.name

lemma sinkNames_set {i : Nat} {sink sink' : Mailbox Handle} (hi : s.sinks[i]? = some sink)
    (h : sink.Same sink') : (s.sinks.set i sink').map Mailbox.name = s.sinkNames := by
  have hname : s.sinkNames[i]? = some sink.name := by rw [sinkNames, List.getElem?_map, hi]; rfl
  obtain ⟨hlt, hget⟩ := List.getElem?_eq_some_iff.1 hname
  rw [List.map_set, h.name, ← hget]
  exact List.set_getElem_self hlt

lemma sinkNames_fetch (s : Source) (i : Nat) : (s.fetch i).2.sinkNames = s.sinkNames := by
  rcases hf : s.fetch i with ⟨_ | h, s'⟩
  · rw [(fetch_eq_none hf).1]
  · obtain ⟨sink, sink', hi, -, hsame, rfl⟩ := fetch_eq_some hf
    exact sinkNames_set hi hsame

lemma sinkNames_release (s : Source) (h : Handle) :
    ((release h).exec s).2.sinkNames = s.sinkNames :=
  rfl

lemma name_post (sink : Mailbox Handle) (h : Handle) : (sink.post h).2.name = sink.name := by
  unfold Mailbox.post
  split <;> rfl

lemma sinkNames_complete (s : Source) (raw : List UInt16) :
    (s.complete raw).2.sinkNames = s.sinkNames := by
  rcases ha : s.pool.alloc with ⟨_ | h, pool⟩
  · rw [complete_of_alloc_none ha]
    rfl
  · have hsinks : (s.complete raw).2.sinks = s.sinks.map fun sink => (sink.post h).2 := by
      rw [← (fanOut_sinks h (pool.fill h s.sequence raw).2 s.sinks).2]
      simp only [complete, ha]
    rw [sinkNames, hsinks, List.map_map]
    exact List.map_congr_left fun sink _ => name_post sink h

end Source

lemma Converter.sinkNames_convert (c : Converter) (reading : Pin → UInt16) (source : Source) :
    (c.convert reading source).2.sinkNames = source.sinkNames := by
  unfold convert
  dsimp only
  rw [Source.sinkNames_complete]
  split <;> rfl

namespace Consumer

/-- The consumers leave the sinks their names, and the connection its replies. -/
structure Serves (s s' : Source × Console) : Prop where
  sinkNames : s'.1.sinkNames = s.1.sinkNames
  resumes : s.2.Resumes s'.2

lemma Serves.trans {s s' s'' : Source × Console} (h : Serves s s') (h' : Serves s' s'') :
    Serves s s'' :=
  ⟨h'.sinkNames.trans h.sinkNames, h.resumes.trans h'.resumes⟩

lemma Serves.refl (s : Source × Console) : Serves s s :=
  ⟨rfl, .refl s.2⟩

lemma serves_consume (i : Nat) (tag : String) (s : Source × Console) :
    Serves s ((consume i tag).exec s).2 := by
  obtain ⟨source, console⟩ := s
  have hnames := source.sinkNames_fetch i
  rcases hf : source.fetch i with ⟨_ | h, source'⟩
  · have hidle : (consume i tag).exec (source, console) = (.ok false, source', console) := by
      simp only [consume, exec, hf]
    rw [hidle]
    rw [hf] at hnames
    exact ⟨hnames, .refl console⟩
  · rw [hf] at hnames
    let sink := (source'.sinks[i]?.map (·.name)).getD ""
    have hserved : ((consume i tag).exec (source, console)).2 =
        (((Source.release h).exec source').2,
          ((Console.data sink (source'.dataLine tag h)).exec console).2) := by
      simp only [consume, exec, hf]
      rfl
    rw [hserved]
    exact ⟨(source'.sinkNames_release h).trans hnames, Console.resumes_data _ _ console⟩

lemma serves_consumeMany (i : Nat) (tag : String) (n : Nat) (s : Source × Console) :
    Serves s (consumeMany i tag n s) := by
  induction n generalizing s with
  | zero => exact .refl s
  | succ n ih => exact (serves_consume i tag s).trans (ih _)

lemma serves_drain (tag : String) (s : Source × Console) : Serves s (drain tag s) := by
  unfold drain
  generalize List.range s.1.sinks.length = places
  induction places generalizing s with
  | nil => exact .refl s
  | cons i rest ih => exact (serves_consumeMany i tag _ s).trans (ih _)

end Consumer

/-! ## The rig -/

namespace Rig

/-- What no request changes: the configuration, the names of the sinks, which lines the connection
loses, and that a crash, if there was one, is due to a name. -/
structure Setting where
  config : Config
  sinkNames : List String
  down : Bool
  terminalDown : Bool
  loses : Nat → Bool
  crashDue : Bool

def setting (rig : Rig) : Setting :=
  ⟨rig.config, rig.source.sinkNames, rig.console.down, rig.console.terminalDown,
    rig.console.loses, !rig.crashed || !rig.source.sinkNames.all Consumer.nameable⟩

/-- Nothing of the configuration that is sent to the host breaks a line. -/
structure Setting.OneLine (setting : Setting) : Prop where
  tag : Text.OneLine setting.config.adc.tag
  sinkNames : ∀ name ∈ setting.sinkNames, Text.OneLine name

variable {rig rig' rig'' : Rig}

lemma working_of_setting (h : rig'.setting = rig.setting) (hw : rig.console.Working) :
    rig'.console.Working where
  up := (congrArg Setting.down h).trans hw.up
  lossless n := (congrFun (congrArg Setting.loses h) n).trans (hw.lossless n)

def Setting.Answers (setting : Setting) (line : String) : Prop :=
  Tagged line ∧ (setting.OneLine → Text.OneLine line)

/-- What a failed request may have done: it has added notes. -/
structure Quiet (rig rig' : Rig) : Prop where
  setting : rig'.setting = rig.setting
  pins : rig'.pins = rig.pins
  debugging : rig'.console.debugging = rig.console.debugging
  notes : rig.console.Adds IsNote rig'.console

/-- What a request may do: it adds lines that are tagged. -/
structure Loud (rig rig' : Rig) : Prop where
  setting : rig'.setting = rig.setting
  lines : rig.console.Adds rig.setting.Answers rig'.console

lemma Quiet.refl (rig : Rig) : Quiet rig rig :=
  ⟨rfl, rfl, rfl, Console.adds_of_replies_eq rfl⟩

lemma Quiet.trans (h : Quiet rig rig') (h' : Quiet rig' rig'') : Quiet rig rig'' :=
  ⟨h'.setting.trans h.setting, h'.pins.trans h.pins, h'.debugging.trans h.debugging,
    h.notes.trans h'.notes⟩

lemma Loud.trans (h : Loud rig rig') (h' : Loud rig' rig'') : Loud rig rig'' :=
  ⟨h'.setting.trans h.setting, h.lines.trans (h.setting ▸ h'.lines)⟩

/-- What the host does not notice: the consumers may have been at work. -/
structure Silent (rig rig' : Rig) : Prop where
  setting : rig'.setting = rig.setting
  pins : rig'.pins = rig.pins
  resumes : rig.console.Resumes rig'.console

lemma Silent.refl (rig : Rig) : Silent rig rig :=
  ⟨rfl, rfl, .refl rig.console⟩

lemma Silent.trans (h : Silent rig rig') (h' : Silent rig' rig'') : Silent rig rig'' :=
  ⟨h'.setting.trans h.setting, h'.pins.trans h.pins, h.resumes.trans h'.resumes⟩

lemma Silent.quiet (h : Silent rig rig') : Quiet rig rig' :=
  ⟨h.setting, h.pins, h.resumes.debugging, Console.adds_of_replies_eq h.resumes.replies⟩

lemma Quiet.loud (h : Quiet rig rig') : Loud rig rig' :=
  ⟨h.setting, h.notes.mono fun _ hnote => ⟨hnote.tagged, fun _ => hnote.oneLine⟩⟩

def manner : Manner Rig where
  quiet := Quiet
  loud := Loud
  quiet_refl := Quiet.refl
  quiet_trans := Quiet.trans
  loud_trans := Loud.trans
  loud_of_quiet := Quiet.loud

lemma loud_pins (rig : Rig) (pins : PinTable) : Loud rig { rig with pins } :=
  ⟨rfl, Console.adds_of_replies_eq rfl⟩

def sent (rig : Rig) (text : String) : Rig :=
  { rig with console := rig.console.sent text }

lemma setting_sent (rig : Rig) (text : String) : (rig.sent text).setting = rig.setting :=
  rfl

/-- A line that does not get through is counted all the same, and that is no part of the setting. -/
lemma setting_line (rig : Rig) (text : String) :
    ((onConsole (Console.line text)).exec rig).2.setting = rig.setting := by
  unfold onConsole Console.line Console.send
  rw [exec_zoom]
  dsimp only [exec]
  split <;> rfl

lemma setting_debug (rig : Rig) (text : String) :
    ((debug text).exec rig).2.setting = rig.setting := by
  have hline := rig.setting_line ("?:" ++ text)
  unfold debug Console.debug
  unfold onConsole at hline ⊢
  rw [exec_zoom] at hline ⊢
  dsimp only [exec] at hline ⊢
  split
  · exact hline
  · rfl

lemma exec_line (hw : rig.console.Working) (text : String) :
    (onConsole (Console.line text)).exec rig = (.ok (), rig.sent text) := by
  rw [onConsole, exec_zoom, Console.exec_line hw, sent]

lemma succeeds_line {text : String} (hw : rig.console.Working)
    (h : rig.setting.Answers text) : Succeeds manner (onConsole (Console.line text)) rig :=
  ⟨(), rig.sent text, exec_line hw text, rfl, Console.adds_sent h _⟩

lemma succeeds_info {text : String} (hw : rig.console.Working) (h : OneLine text) :
    Succeeds manner (onConsole (Console.info text)) rig := by
  apply succeeds_line hw
  exact ⟨⟨"#:", by decide, opens_append _ _⟩, fun _ => oneLine_append.2 ⟨oneLine_ofList rfl, h⟩⟩

lemma succeeds_valueBool {name : String} (hw : rig.console.Working) (h : OneLine name)
    (value : Bool) : Succeeds manner (onConsole (Console.valueBool name value)) rig := by
  apply succeeds_line hw
  refine ⟨⟨"B:", by decide, ((opens_append _ _).append _).append _⟩, fun _ => ?_⟩
  simp only [oneLine_append]
  refine ⟨⟨⟨oneLine_ofList rfl, h⟩, oneLine_ofList rfl⟩, ?_⟩
  cases value <;> exact oneLine_ofList rfl

lemma succeeds_valueText {name value : String} (hw : rig.console.Working) (hn : OneLine name)
    (hv : rig.setting.OneLine → OneLine value) :
    Succeeds manner (onConsole (Console.valueText name value)) rig := by
  apply succeeds_line hw
  refine ⟨⟨"S:", by decide, ((opens_append _ _).append _).append _⟩, fun hs => ?_⟩
  simp only [oneLine_append]
  exact ⟨⟨⟨oneLine_ofList rfl, hn⟩, oneLine_ofList rfl⟩, hv hs⟩

lemma succeeds_value32 {name : String} (hw : rig.console.Working) (h : OneLine name)
    (value : Nat) : Succeeds manner (onConsole (Console.value32 name value)) rig := by
  apply succeeds_line hw
  refine ⟨⟨"U32:", by decide, ((opens_append _ _).append _).append _⟩, fun _ => ?_⟩
  simp only [oneLine_append]
  exact ⟨⟨⟨oneLine_ofList rfl, h⟩, oneLine_ofList rfl⟩, oneLine_toString value⟩

lemma succeeds_value64 {name : String} (hw : rig.console.Working)
    (h : rig.setting.OneLine → OneLine name) (value : Nat) :
    Succeeds manner (onConsole (Console.value64 name value)) rig := by
  apply succeeds_line hw
  refine ⟨⟨"U64:", by decide, ((opens_append _ _).append _).append _⟩, fun hs => ?_⟩
  simp only [oneLine_append]
  exact ⟨⟨⟨oneLine_ofList rfl, h hs⟩, oneLine_ofList rfl⟩, oneLine_toString value⟩

lemma exists_exec_debug {text : String} (hw : rig.console.Working) (h : OneLine text) :
    ∃ rig', (debug text).exec rig = (.ok (), rig') ∧ Quiet rig rig' := by
  have hnote : IsNote ("?:" ++ text) :=
    ⟨opens_append _ _, oneLine_append.2 ⟨oneLine_ofList rfl, h⟩⟩
  refine ⟨{ rig with
    console := if rig.console.debugging then rig.console.sent ("?:" ++ text) else rig.console },
    ?_, ?_⟩
  · rw [debug, onConsole, exec_zoom, Console.exec_debug hw]
  · cases rig.console.debugging with
    | true => exact ⟨rfl, rfl, rfl, Console.adds_sent hnote _⟩
    | false => exact .refl rig

lemma succeeds_debug {text : String} (hw : rig.console.Working) (h : OneLine text) :
    Succeeds manner (debug text) rig := by
  obtain ⟨rig', he, hq⟩ := exists_exec_debug hw h
  exact ⟨(), rig', he, hq.loud⟩

lemma silent_settle (rig : Rig) : Silent rig rig.settle := by
  unfold settle
  split
  · obtain ⟨hnames, hresumes⟩ := Consumer.serves_drain rig.config.adc.tag (rig.source, rig.console)
    refine ⟨?_, rfl, hresumes⟩
    simp only [setting, hnames, hresumes.down, hresumes.terminalDown, hresumes.loses]
  · exact .refl rig

lemma unspawnable_eq (rig : Rig) : rig.unspawnable =
    (!rig.consuming && !rig.source.sinkNames.all Consumer.nameable) := by
  rw [unspawnable, Source.sinkNames, List.all_map, List.not_all_eq_any_not]
  rfl

lemma silent_startConsumers (rig : Rig) : Silent rig rig.startConsumers := by
  refine Silent.trans ?_ (silent_settle _)
  cases hspawn : rig.unspawnable with
  | true =>
    have hcrash := rig.console.resumes_crash
    rw [unspawnable_eq, Bool.and_eq_true] at hspawn
    refine ⟨?_, rfl, hcrash⟩
    simp [setting, hspawn.2, hcrash.down, hcrash.terminalDown, hcrash.loses]
  | false =>
    refine ⟨?_, rfl, .refl rig.console⟩
    simp [setting]

lemma silent_source {source : Source} (h : source.sinkNames = rig.source.sinkNames) :
    Silent rig { rig with source } :=
  ⟨by simp only [setting, h], rfl, .refl rig.console⟩

lemma silent_convert (c : Converter) (n : Nat) (rig : Rig) : Silent rig (rig.convert c n) := by
  induction n with
  | zero => exact .refl rig
  | succ n ih =>
    have hnames := c.sinkNames_convert (rig.convert c n).reading (rig.convert c n).source
    exact (ih.trans (silent_source hnames)).trans (silent_settle _)

lemma tells_onPins {f : PinTable → Except Fault PinTable}
    (hf : ∀ fault, f rig.pins = .error fault → fault.OneLine) : Tells manner (onPins f) rig := by
  cases h : f rig.pins with
  | error fault =>
    have he : (onPins f).exec rig = (.error fault, rig) := by
      rw [onPins, exec_zoom, exec_update, h]
    exact tells_of_error he (.refl rig) (hf fault h)
  | ok pins =>
    have he : (onPins f).exec rig = (.ok (), { rig with pins }) := by
      rw [onPins, exec_zoom, exec_update, h]
    exact tells_of_ok he (loud_pins rig pins)

lemma succeeds_reportSinks (sinks : List (Mailbox Handle)) (hw : rig.console.Working)
    (h : rig.setting.OneLine → ∀ sink ∈ sinks, OneLine sink.name) :
    Succeeds manner (reportSinks sinks) rig := by
  induction sinks generalizing rig with
  | nil => exact succeeds_pure () rig
  | cons sink rest ih =>
    have hname : ∀ before : String, OneLine before → rig.setting.OneLine →
        OneLine (before ++ sink.name) := fun before hb hs =>
      oneLine_append.2 ⟨hb, h hs sink List.mem_cons_self⟩
    have hsink : Succeeds manner (reportSink sink) rig := by
      refine (succeeds_value64 hw (hname _ (oneLine_ofList rfl)) _).bind fun _ rig' hl => ?_
      refine succeeds_value64 (working_of_setting hl.setting hw) ?_ _
      rw [hl.setting]
      exact hname _ (oneLine_ofList rfl)
    refine hsink.bind fun _ rig' hl => ih (working_of_setting hl.setting hw) ?_
    rw [hl.setting]
    exact fun hs other hmem => h hs other (List.mem_cons_of_mem _ hmem)

lemma succeeds_counter_bind {name : String} (hname : OneLine name) (value : Nat)
    {f : Unit → Act Rig Unit} (hw : rig.console.Working)
    (hf : ∀ rig', Loud rig rig' → rig'.console.Working → Succeeds manner (f ()) rig') :
    Succeeds manner (onConsole (Console.value64 name value) >>= f) rig :=
  (succeeds_value64 hw (fun _ => hname) value).bind fun _ rig' hl =>
    hf rig' hl (working_of_setting hl.setting hw)

lemma succeeds_report (hw : rig.console.Working) : Succeeds manner report rig := by
  apply succeeds_get_bind
  refine succeeds_counter_bind (oneLine_ofList rfl) _ hw fun _ h₁ hw => ?_
  refine succeeds_counter_bind (oneLine_ofList rfl) _ hw fun _ h₂ hw => ?_
  refine succeeds_counter_bind (oneLine_ofList rfl) _ hw fun _ h₃ hw => ?_
  refine succeeds_counter_bind (oneLine_ofList rfl) _ hw fun _ h₄ hw => ?_
  refine succeeds_counter_bind (oneLine_ofList rfl) _ hw fun _ h₅ hw => ?_
  refine succeeds_counter_bind (oneLine_ofList rfl) _ hw fun _ h₆ hw => ?_
  refine succeeds_counter_bind (oneLine_ofList rfl) _ hw fun _ h₇ hw => ?_
  apply succeeds_reportSinks _ hw
  rw [(((((((h₁.trans h₂).trans h₃).trans h₄).trans h₅).trans h₆).trans h₇)).setting]
  exact fun hs sink hsink => hs.sinkNames _ (List.mem_map_of_mem hsink)

end Rig

end Instrument
