import Instrument.Command
import Instrument.Proofs.Transcript

/-!
# Requests that do not look back

No request looks at what the connection has carried. So on every working connection it answers the
same, does the same to the instrument and sends the same, whatever was sent before. This passes
through sequences of requests, so that it is enough to look at the single ones.
-/

namespace Instrument

open Act

namespace Console

/-- The connection after it has carried some further events. -/
def after (c : Console) (events : List Event) : Console :=
  events.foldl (fun c event => { c with attempts := c.attempts + 1, log := c.log.push event }) c

/-- A working connection on which debug lines are wanted or not. -/
structure Ready (debugging : Bool) (c : Console) : Prop extends Working c where
  debugging_eq : c.debugging = debugging

variable {c : Console} {debugging : Bool}

lemma after_append (c : Console) (events more : List Event) :
    c.after (events ++ more) = (c.after events).after more :=
  List.foldl_append

lemma toList_log_after (c : Console) (events : List Event) :
    (c.after events).log.toList = c.log.toList ++ events := by
  induction events generalizing c with
  | nil => exact (List.append_nil _).symm
  | cons event rest ih =>
    refine (ih _).trans ?_
    dsimp only
    rw [Queue.toList_push, List.append_assoc, List.singleton_append]

lemma Ready.after (h : c.Ready debugging) (events : List Event) :
    (c.after events).Ready debugging := by
  induction events generalizing c with
  | nil => exact h
  | cons event rest ih => exact ih ⟨⟨h.up, h.lossless⟩, h.debugging_eq⟩

lemma exec_send (h : c.Working) (event : Event) :
    (send event).exec c = (.ok (), c.after [event]) := by
  simp [send, exec, h.up, h.lossless, after]

end Console

/-- States with a connection, which may be exchanged for another. -/
class Connected (σ : Type) where
  connect : σ → Console → σ

open Connected

instance : Connected Console :=
  ⟨fun _ console => console⟩

instance : Connected Rig :=
  ⟨fun rig console => { rig with console }⟩

instance {ρ τ : Type} [Connected τ] : Connected (ρ × τ) :=
  ⟨fun s console => (s.1, connect s.2 console)⟩

/-! ## Requests -/

namespace Act

variable {σ τ ρ α β : Type} [Connected σ] [Connected τ]

/-- What the request answers, does and sends is the same on every working connection. -/
def Memoryless (act : Act σ α) : Prop :=
  ∀ (s : σ) (debugging : Bool), ∃ answer t events, ∀ c : Console, c.Ready debugging →
    act.exec (connect s c) = (answer, connect t (c.after events))

/-- A request that does not use the connection. -/
lemma memoryless_of_silent {act : Act σ α} (h : ∀ s c, act.exec (connect s c) =
    ((act.exec s).1, connect (act.exec s).2 c)) : Memoryless act :=
  fun s _ => ⟨_, _, [], fun c _ => h s c⟩

lemma memoryless_pure (a : α) : Memoryless (pure a : Act σ α) :=
  memoryless_of_silent fun _ _ => rfl

lemma memoryless_throw (fault : Fault) : Memoryless (throw fault : Act σ α) :=
  memoryless_of_silent fun _ _ => rfl

lemma memoryless_check (r : Except Fault α) : Memoryless (check r : Act σ α) :=
  memoryless_of_silent fun _ _ => rfl

lemma memoryless_modify {f : σ → σ} (hf : ∀ s c, f (connect s c) = connect (f s) c) :
    Memoryless (modify f : Act σ Unit) :=
  memoryless_of_silent fun s c => congrArg (Prod.mk _) (hf s c)

lemma memoryless_bind {act : Act σ α} {f : α → Act σ β} (ha : Memoryless act)
    (hf : ∀ a, Memoryless (f a)) : Memoryless (act >>= f) := by
  intro s debugging
  obtain ⟨answer, t, events, hexec⟩ := ha s debugging
  cases answer with
  | error fault =>
    refine ⟨.error fault, t, events, fun c hc => ?_⟩
    rw [exec_bind, hexec c hc]
  | ok a =>
    obtain ⟨answer', t', events', hexec'⟩ := hf a t debugging
    refine ⟨answer', t', events ++ events', fun c hc => ?_⟩
    rw [exec_bind, hexec c hc, Console.after_append]
    exact hexec' _ (hc.after events)

/-- What a request reads first may choose how it goes on, unless it is the connection. -/
lemma memoryless_get_bind {f : σ → Act σ β} (hf : ∀ s c, f (connect s c) = f s)
    (h : ∀ s, Memoryless (f s)) : Memoryless (get >>= f) := by
  intro s debugging
  obtain ⟨answer, t, events, hexec⟩ := h s s debugging
  refine ⟨answer, t, events, fun c hc => ?_⟩
  rw [exec_bind, exec_get]
  dsimp only
  rw [hf]
  exact hexec c hc

lemma memoryless_zoom {part : σ → τ} {put : σ → τ → σ} {act : Act τ α} (ha : Memoryless act)
    (hpart : ∀ s c, part (connect s c) = connect (part s) c)
    (hput : ∀ s t c c', put (connect s c) (connect t c') = connect (put s t) c') :
    Memoryless (zoom part put act) := by
  intro s debugging
  obtain ⟨answer, t, events, hexec⟩ := ha (part s) debugging
  refine ⟨answer, put s t, events, fun c hc => ?_⟩
  rw [exec_zoom, hpart, hexec c hc, hput]

lemma memoryless_beside {act : Act τ α} (ha : Memoryless act) :
    Memoryless (beside act : Act (ρ × τ) α) :=
  memoryless_zoom ha (fun _ _ => rfl) fun _ _ _ _ => rfl

/-- Two changes in a row. -/
lemma memoryless_comp {f g : σ → σ} (hf : Memoryless (modify f : Act σ Unit))
    (hg : Memoryless (modify g : Act σ Unit)) : Memoryless (modify fun s => g (f s) : Act σ Unit) :=
  memoryless_bind hf fun _ => hg

end Act

namespace Console

lemma memoryless_send (event : Event) : Memoryless (send event) :=
  fun s _ => ⟨.ok (), s, [event], fun _ hc => exec_send hc.toWorking event⟩

lemma memoryless_line (text : String) : Memoryless (line text) :=
  memoryless_send _

lemma memoryless_debug (text : String) : Memoryless (debug text) := by
  rintro s (_ | _)
  · refine ⟨.ok (), s, [], fun c hc => ?_⟩
    exact (exec_debug hc.toWorking text).trans (by rw [hc.debugging_eq]; rfl)
  · refine ⟨.ok (), s, [.reply ("?:" ++ text)], fun c hc => ?_⟩
    exact (exec_debug hc.toWorking text).trans (by rw [hc.debugging_eq]; rfl)

end Console

namespace Consumer

lemma memoryless_consume (i : Nat) (tag : String) : Memoryless (consume i tag) := by
  rintro ⟨source, console⟩ debugging
  rcases hf : source.fetch i with ⟨_ | h, fetched⟩
  · refine ⟨.ok false, (fetched, console), [], fun c _ => ?_⟩
    simp only [consume, exec, connect, hf]
    rfl
  · let sink := (fetched.sinks[i]?.map (·.name)).getD ""
    let set := fetched.dataLine tag h
    have hdata : ∀ c : Console, c.Ready debugging →
        (Console.data sink set).exec c = (.ok (), c.after [.data sink set.text]) :=
      fun c hc => Console.exec_send hc.toWorking _
    rcases hr : (Source.release h).exec fetched with ⟨fault | freed, released⟩
    · refine ⟨.error fault, (released, console), [.data sink set.text], fun c hc => ?_⟩
      have hsent := hdata c hc
      simp only [exec] at hsent hr
      simp only [consume, exec, connect, hf, hsent, hr, sink, set]
    · refine ⟨.ok true, (released, console), [.data sink set.text], fun c hc => ?_⟩
      have hsent := hdata c hc
      simp only [exec] at hsent hr
      simp only [consume, exec, connect, hf, hsent, hr, sink, set]
      rfl

lemma memoryless_consumeMany (i : Nat) (tag : String) (n : Nat) :
    Memoryless (modify (consumeMany i tag n) : Act (Source × Console) Unit) := by
  induction n with
  | zero => exact memoryless_modify fun _ _ => rfl
  | succ n ih =>
    have hone : Memoryless (modify fun s => ((consume i tag).exec s).2 :
        Act (Source × Console) Unit) := fun s debugging => by
      obtain ⟨answer, t, events, hexec⟩ := memoryless_consume i tag s debugging
      exact ⟨.ok (), t, events, fun c hc => congrArg (Prod.mk _) (congrArg Prod.snd (hexec c hc))⟩
    exact memoryless_comp (g := consumeMany i tag n) hone ih

lemma memoryless_drain (tag : String) :
    Memoryless (modify (drain tag) : Act (Source × Console) Unit) := by
  have hsink : ∀ i, Memoryless (modify fun s => drainSink tag s i : Act (Source × Console) Unit) :=
    fun i s => memoryless_consumeMany i tag
      ((s.1.sinks[i]?.map fun sink : Mailbox Handle => sink.size).getD 0) s
  have hsinks : ∀ sinks : List Nat, Memoryless
      (modify fun s => sinks.foldl (drainSink tag) s : Act (Source × Console) Unit) := by
    intro sinks
    induction sinks with
    | nil => exact memoryless_modify fun _ _ => rfl
    | cons i rest ih =>
      exact memoryless_comp (g := fun s => rest.foldl (drainSink tag) s) (hsink i) ih
  exact fun s => hsinks (List.range s.1.sinks.length) s

end Consumer

namespace Rig

lemma memoryless_onConsole {α : Type} {act : Act Console α} (h : Memoryless act) :
    Memoryless (onConsole act) :=
  memoryless_zoom h (fun _ _ => rfl) fun _ _ _ _ => rfl

lemma memoryless_reply (text : String) : Memoryless (onConsole (Console.line text)) :=
  memoryless_onConsole (Console.memoryless_line text)

lemma memoryless_debug (text : String) : Memoryless (debug text) :=
  memoryless_onConsole (Console.memoryless_debug text)

lemma memoryless_zoom_pins {α : Type} (act : Act PinTable α) :
    Memoryless (.zoom (·.pins) ({ · with pins := · }) act : Act Rig α) :=
  memoryless_of_silent fun _ _ => rfl

lemma memoryless_onPins (f : PinTable → Except Fault PinTable) : Memoryless (onPins f) :=
  memoryless_zoom_pins (.update f)

lemma memoryless_settle : Memoryless (modify settle : Act Rig Unit) := by
  intro rig debugging
  obtain ⟨_, ⟨source, console⟩, events, hdrain⟩ :=
    Consumer.memoryless_drain rig.config.adc.tag (rig.source, rig.console) debugging
  by_cases hconsuming : rig.consuming = true
  · refine ⟨.ok (), { rig with source }, events, fun c hc => ?_⟩
    have hserved : Consumer.drain rig.config.adc.tag (rig.source, c) = (source, c.after events) :=
      congrArg Prod.snd (hdrain c hc)
    simp only [exec_modify, settle, connect, hconsuming, if_true, hserved]
  · refine ⟨.ok (), rig, [], fun c _ => ?_⟩
    simp only [exec_modify, settle, connect, hconsuming]
    rfl

lemma memoryless_startConsumers : Memoryless (modify startConsumers : Act Rig Unit) := by
  have hspawn : Memoryless (modify fun rig : Rig => { rig with
      consuming := rig.consuming || !rig.source.sinks.isEmpty
      crashed := rig.crashed || rig.unspawnable
      console := if rig.unspawnable then rig.console.crash else rig.console } : Act Rig Unit) := by
    intro rig debugging
    have hsame : ∀ c, (connect rig c).unspawnable = rig.unspawnable := fun _ => rfl
    cases hu : rig.unspawnable with
    | true =>
      refine ⟨.ok (), { rig with
        consuming := rig.consuming || !rig.source.sinks.isEmpty, crashed := true },
        [.crash], fun c _ => ?_⟩
      simp only [exec_modify, hsame, hu, Bool.or_true, if_true]
      rfl
    | false =>
      refine ⟨.ok (), { rig with consuming := rig.consuming || !rig.source.sinks.isEmpty }, [],
        fun c _ => ?_⟩
      simp only [exec_modify, hsame, hu, Bool.or_false, Bool.false_eq_true, if_false]
      rfl
  exact memoryless_comp (g := settle) hspawn memoryless_settle

lemma memoryless_convert (c : Converter) (n : Nat) :
    Memoryless (modify (Rig.convert c n) : Act Rig Unit) := by
  induction n with
  | zero => exact memoryless_modify fun _ _ => rfl
  | succ n ih =>
    have hone : Memoryless (modify fun rig : Rig =>
        { rig with source := (c.convert rig.reading rig.source).2 } : Act Rig Unit) :=
      memoryless_modify fun _ _ => rfl
    have hserved : Memoryless (modify fun rig : Rig =>
        settle { rig with source := (c.convert rig.reading rig.source).2 } : Act Rig Unit) :=
      memoryless_comp (g := settle) hone memoryless_settle
    exact memoryless_comp (f := Rig.convert c n) ih hserved

lemma memoryless_reportSinks (sinks : List (Mailbox Handle)) : Memoryless (reportSinks sinks) := by
  induction sinks with
  | nil => exact memoryless_pure ()
  | cons sink rest ih =>
    exact memoryless_bind (memoryless_bind (memoryless_reply _) fun _ => memoryless_reply _)
      fun _ => ih

lemma memoryless_report : Memoryless report := by
  refine memoryless_get_bind (fun _ _ => rfl) fun rig => ?_
  exact memoryless_bind (memoryless_reply _) fun _ => memoryless_bind (memoryless_reply _) fun _ =>
    memoryless_bind (memoryless_reply _) fun _ => memoryless_bind (memoryless_reply _) fun _ =>
    memoryless_bind (memoryless_reply _) fun _ => memoryless_bind (memoryless_reply _) fun _ =>
    memoryless_bind (memoryless_reply _) fun _ => memoryless_reportSinks _

end Rig

/-! ## Commands -/

/-- A line may be closed after some of its words, and then has no data. -/
lemma Line.memoryless_closed {σ : Type} [Connected σ] (line : Line) (used : Nat) {rest : Act σ Unit}
    (h : Memoryless rest) : Memoryless (do
      check (line.expectNoMore used)
      let _ ← check (line.expectData 0)
      rest) :=
  memoryless_bind (memoryless_check _) fun _ => memoryless_bind (memoryless_check _) fun _ => h

lemma System.memoryless_version (line : Line) : Memoryless (version line) :=
  line.memoryless_closed 1 (Rig.memoryless_reply _)

lemma System.memoryless_reportOwners (subsystems : List Subsystem) :
    Memoryless (reportOwners subsystems) := by
  induction subsystems with
  | nil => exact memoryless_pure ()
  | cons s rest ih =>
    refine memoryless_get_bind (fun _ _ => rfl) fun rig => ?_
    dsimp only
    split
    · exact ih
    · exact memoryless_bind (Rig.memoryless_reply _) fun _ => ih

lemma System.memoryless_status (line : Line) : Memoryless (status line) := by
  refine line.memoryless_closed 1 (memoryless_get_bind (fun _ _ => rfl) fun rig => ?_)
  exact memoryless_bind (Rig.memoryless_reply _) fun _ => memoryless_bind Rig.memoryless_report
    fun _ => memoryless_reportOwners _

lemma Probe.memoryless_dispatch (probe : Probe) (line : Line) :
    Memoryless (probe.dispatch line) := by
  unfold dispatch
  split
  · exact memoryless_throw _
  · exact memoryless_throw _
  · exact Rig.memoryless_reply _

namespace Gpio

lemma memoryless_configure (pin : Pin) (line : Line) : Memoryless (configure pin line) := by
  refine memoryless_bind (memoryless_check _) ?_
  rintro ⟨mode, used⟩
  refine memoryless_bind (memoryless_check _) fun _ =>
    memoryless_get_bind (fun _ _ => rfl) fun _ => ?_
  exact memoryless_bind (memoryless_check _) fun _ => memoryless_bind (Rig.memoryless_onPins _)
    fun _ => Rig.memoryless_debug _

lemma memoryless_drive (pin : Pin) (high : Bool) : Memoryless (drive pin high) :=
  memoryless_bind (Rig.memoryless_onPins _) fun _ => memoryless_bind (Rig.memoryless_onPins _)
    fun _ => Rig.memoryless_debug _

lemma memoryless_query (pin : Pin) : Memoryless (query pin) := by
  refine memoryless_get_bind (fun _ _ => rfl) fun _ => memoryless_bind (memoryless_check _) ?_
  rintro ⟨mode, owner⟩
  exact memoryless_bind (Rig.memoryless_reply _) fun _ => Rig.memoryless_reply _

lemma memoryless_dispatch (line : Line) : Memoryless (dispatch line) := by
  unfold dispatch
  split
  · refine memoryless_bind (memoryless_check _) fun action =>
      memoryless_bind (memoryless_check _) fun pin => ?_
    have hclosed : ∀ {rest : Act Rig Unit}, Memoryless rest →
        Memoryless (check (line.expectNoMore 4) >>= fun _ => rest) := fun h =>
      memoryless_bind (memoryless_check _) fun _ => h
    cases action with
    | configure => exact memoryless_configure pin line
    | set => exact hclosed (memoryless_drive pin true)
    | clear => exact hclosed (memoryless_drive pin false)
    | get => exact hclosed (memoryless_get_bind (fun _ _ => rfl) fun _ => Rig.memoryless_reply _)
    | query => exact hclosed (memoryless_query pin)
    | release => exact hclosed (Rig.memoryless_onPins _)
  · exact memoryless_throw _

end Gpio

namespace Adc

lemma memoryless_configure (line : Line) : Memoryless (configure line) := by
  refine memoryless_get_bind (fun _ _ => rfl) fun s => ?_
  dsimp only
  split
  · exact memoryless_throw _
  · exact memoryless_bind (memoryless_check _) fun _ =>
      memoryless_bind (memoryless_modify fun _ _ => rfl) fun _ =>
      memoryless_beside (Rig.memoryless_debug _)

lemma memoryless_claimInputs : Memoryless claimInputs := by
  refine memoryless_of_silent ?_
  rintro ⟨adc, rig⟩ c
  simp only [claimInputs, exec, connect]
  rcases PinTable.claimAll .analog .adc adc.converter.inputs rig.pins with ⟨_ | _, pins⟩ <;> rfl

lemma memoryless_startUnits : Memoryless startUnits := by
  rintro ⟨adc, rig⟩ debugging
  obtain ⟨_, begun, events, hbegun⟩ := Rig.memoryless_startConsumers rig debugging
  have hconsumers : ∀ c : Console, c.Ready debugging →
      ({ rig with console := c } : Rig).startConsumers =
        { begun with console := c.after events } := fun c hc =>
    congrArg Prod.snd (hbegun c hc)
  rcases hstart : (Converter.start adc.mode).exec adc.converter with ⟨fault | _, converter⟩
  · refine ⟨.error fault, releaseInputs ({ adc with converter }, begun), events, fun c hc => ?_⟩
    simp only [exec] at hstart
    simp only [startUnits, exec, connect, hconsumers c hc, hstart]
    rfl
  · refine ⟨.ok (), ({ adc with converter }, begun), events, fun c hc => ?_⟩
    simp only [exec] at hstart
    simp only [startUnits, exec, connect, hconsumers c hc, hstart]

lemma memoryless_releaseInputs : Memoryless (modify releaseInputs : Act (Adc × Rig) Unit) :=
  memoryless_modify fun _ _ => rfl

lemma memoryless_halt : Memoryless (modify halt : Act (Adc × Rig) Unit) := by
  rintro ⟨adc, rig⟩ debugging
  obtain ⟨_, made, events, hmade⟩ :=
    Rig.memoryless_convert adc.converter adc.converter.pending rig debugging
  refine ⟨.ok (), ({ adc with converter := adc.converter.stop }, made), events, fun c hc => ?_⟩
  have hrig : Rig.convert adc.converter adc.converter.pending (connect rig c) =
      connect made (c.after events) := congrArg Prod.snd (hmade c hc)
  exact congrArg (fun rig => (Except.ok (), { adc with converter := adc.converter.stop }, rig)) hrig

lemma memoryless_start : Memoryless start := by
  refine memoryless_get_bind (fun _ _ => rfl) fun s => ?_
  dsimp only
  split
  · exact memoryless_throw _
  · have hunits (text : String) : Memoryless (startUnits >>= fun _ => beside (Rig.debug text)) :=
      memoryless_bind memoryless_startUnits fun _ => memoryless_beside (Rig.memoryless_debug text)
    split
    · exact memoryless_bind memoryless_claimInputs fun _ => hunits _
    · exact hunits _

lemma memoryless_stop : Memoryless stop := by
  refine memoryless_get_bind (fun _ _ => rfl) fun s => ?_
  dsimp only
  split
  · exact memoryless_throw _
  · have hstop := memoryless_comp (f := halt) memoryless_halt memoryless_releaseInputs
    exact memoryless_bind hstop fun _ => memoryless_beside (Rig.memoryless_debug _)

lemma memoryless_status : Memoryless status :=
  memoryless_get_bind (fun _ _ => rfl) fun _ =>
    memoryless_bind (memoryless_beside (Rig.memoryless_reply _)) fun _ =>
    memoryless_bind (memoryless_beside (Rig.memoryless_reply _)) fun _ =>
    memoryless_beside Rig.memoryless_report

lemma memoryless_dispatch (line : Line) : Memoryless (dispatch line) := by
  refine memoryless_bind (memoryless_check _) fun action => ?_
  cases action with
  | configure => exact memoryless_configure line
  | start => exact line.memoryless_closed 2 memoryless_start
  | stop => exact line.memoryless_closed 2 memoryless_stop
  | status => exact line.memoryless_closed 2 memoryless_status

end Adc

namespace Dac

lemma memoryless_start : Memoryless start := by
  refine memoryless_get_bind (fun _ _ => rfl) fun s => ?_
  dsimp only
  split
  · exact memoryless_throw _
  · exact memoryless_bind (memoryless_beside (Rig.memoryless_zoom_pins _)) fun _ =>
      memoryless_modify fun _ _ => rfl

lemma memoryless_stop : Memoryless stop := by
  refine memoryless_get_bind (fun _ _ => rfl) fun s => ?_
  dsimp only
  split
  · exact memoryless_modify fun _ _ => rfl
  · exact memoryless_throw _

lemma memoryless_write (line : Line) : Memoryless (write line) := by
  refine memoryless_bind (memoryless_check _) fun channel =>
    memoryless_bind (memoryless_check _) fun _ => memoryless_get_bind (fun _ _ => rfl) fun s => ?_
  dsimp only
  split
  · exact memoryless_bind (memoryless_check _) fun _ =>
      memoryless_bind (memoryless_beside (Rig.memoryless_onPins _)) fun _ =>
      memoryless_beside (Rig.memoryless_debug _)
  · exact memoryless_throw _

lemma memoryless_dispatch (line : Line) : Memoryless (dispatch line) := by
  refine memoryless_bind (memoryless_check _) fun action => ?_
  cases action with
  | write => exact memoryless_write line
  | start => exact line.memoryless_closed 2 memoryless_start
  | stop => exact line.memoryless_closed 2 memoryless_stop

end Dac

namespace Command

/-- A command without a state of its own. -/
lemma memoryless_dispatch_of_rig {line : Line} {command : Command} {act : Act Rig Unit}
    (hdispatch : ∀ rig, (dispatch line).exec (command, rig) =
      ((act.exec rig).1, command, (act.exec rig).2))
    (h : Memoryless act) (rig : Rig) (debugging : Bool) :
    ∃ answer t events, ∀ c : Console, c.Ready debugging →
      (dispatch line).exec (connect (command, rig) c) = (answer, connect t (c.after events)) := by
  obtain ⟨answer, t, events, hexec⟩ := h rig debugging
  refine ⟨answer, (command, t), events, fun c hc => (hdispatch _).trans ?_⟩
  exact congrArg (fun out => (out.1, command, out.2)) (hexec c hc)

lemma memoryless_dispatch (line : Line) : Memoryless (dispatch line) := by
  rintro ⟨command, rig⟩ debugging
  cases command with
  | version =>
    exact memoryless_dispatch_of_rig (fun _ => rfl) (System.memoryless_version line) rig debugging
  | status =>
    exact memoryless_dispatch_of_rig (fun _ => rfl) (System.memoryless_status line) rig debugging
  | gpio =>
    exact memoryless_dispatch_of_rig (fun _ => rfl) (Gpio.memoryless_dispatch line) rig debugging
  | adc a =>
    obtain ⟨answer, t, events, h⟩ := Adc.memoryless_dispatch line (a, rig) debugging
    exact ⟨answer, (adc t.1, t.2), events, fun c hc =>
      congrArg (fun out => (out.1, adc out.2.1, out.2.2)) (h c hc)⟩
  | dac d =>
    obtain ⟨answer, t, events, h⟩ := Dac.memoryless_dispatch line (d, rig) debugging
    exact ⟨answer, (dac t.1, t.2), events, fun c hc =>
      congrArg (fun out => (out.1, dac out.2.1, out.2.2)) (h c hc)⟩
  | probe p =>
    exact memoryless_dispatch_of_rig (fun _ => rfl) (p.memoryless_dispatch line) rig debugging

end Command

end Instrument
