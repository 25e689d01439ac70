import Instrument.Command
import Instrument.Proofs.FoldedLines
import Instrument.Proofs.Keeps

/-!
# Two runs side by side

Two requests are twins when, made in two states that are alike, they end alike: both succeed with
one answer or both fail with one kind of fault, and they leave states that are alike again. The
commands are built from twins: a text that is sent may differ, and so may the words of a line in
their case, for a connection counts lines and not what they say.
-/

namespace Instrument

/-- The kinds of faults. -/
inductive Fault.Kind where
  | parse | argument | conflict | notReady | timeout | overflow | config | io | toml
deriving DecidableEq

/-- The kind of a fault, without its text. -/
def Fault.kind : Fault → Kind
  | .parse _ => .parse
  | .argument _ => .argument
  | .conflict _ _ _ => .conflict
  | .notReady _ => .notReady
  | .timeout _ => .timeout
  | .overflow _ => .overflow
  | .config _ => .config
  | .io _ => .io
  | .toml _ => .toml

namespace Act

variable {σ τ ρ α β : Type} {R : σ → σ → Prop} {S : τ → τ → Prop}

/-- Both succeed with one answer, or both fail with one kind of fault. -/
def SameEnd (r r' : Except Fault α) : Prop :=
  r.mapError Fault.kind = r'.mapError Fault.kind

lemma SameEnd.cases {r r' : Except Fault α} (h : SameEnd r r') :
    (∃ fault fault', r = .error fault ∧ r' = .error fault' ∧ fault.kind = fault'.kind) ∨
      ∃ a, r = .ok a ∧ r' = .ok a := by
  cases r with
  | error fault =>
    cases r' with
    | error fault' => exact .inl ⟨fault, fault', rfl, rfl, Except.error.inj h⟩
    | ok a' => cases h
  | ok a =>
    cases r' with
    | error fault' => cases h
    | ok a' =>
      cases h
      exact .inr ⟨a, rfl, rfl⟩

lemma sameEnd_error {fault fault' : Fault} (h : fault.kind = fault'.kind) :
    SameEnd (.error fault : Except Fault α) (.error fault') :=
  congrArg Except.error h

lemma sameEnd_bind {r r' : Except Fault α} {f f' : α → Except Fault β} (h : SameEnd r r')
    (hf : ∀ a, SameEnd (f a) (f' a)) : SameEnd (r >>= f) (r' >>= f') := by
  rcases h.cases with ⟨fault, fault', rfl, rfl, hkind⟩ | ⟨a, rfl, rfl⟩
  · exact sameEnd_error hkind
  · exact hf a

lemma sameEnd_map {r r' : Except Fault α} (h : SameEnd r r') (f : α → β) :
    SameEnd (r.map f) (r'.map f) := by
  rcases h.cases with ⟨fault, fault', rfl, rfl, hkind⟩ | ⟨a, rfl, rfl⟩
  · exact sameEnd_error hkind
  · rfl

/-- Made in states that are alike, the two requests end alike. -/
def Twins (R : σ → σ → Prop) (act act' : Act σ α) : Prop :=
  ∀ s s', R s s' → SameEnd (act.exec s).1 (act'.exec s').1 ∧ R (act.exec s).2 (act'.exec s').2

/-- A request that sees all of the state is its own twin. -/
lemma twins_eq (act : Act σ α) : Twins Eq act act := by
  rintro s _ rfl
  exact ⟨rfl, rfl⟩

lemma twins_pure (a : α) : Twins R (pure a) (pure a) :=
  fun _ _ h => ⟨rfl, h⟩

lemma twins_throw {fault fault' : Fault} (hf : fault.kind = fault'.kind) :
    Twins R (throw fault : Act σ α) (throw fault') :=
  fun _ _ h => ⟨sameEnd_error hf, h⟩

lemma twins_check {r r' : Except Fault α} (hr : SameEnd r r') : Twins R (check r) (check r') :=
  fun _ _ h => ⟨hr, h⟩

lemma twins_modify {f f' : σ → σ} (hf : ∀ s s', R s s' → R (f s) (f' s')) :
    Twins R (modify f : Act σ Unit) (modify f') :=
  fun s s' h => ⟨rfl, hf s s' h⟩

lemma twins_bind {act act' : Act σ α} {f f' : α → Act σ β} (ha : Twins R act act')
    (hf : ∀ a, Twins R (f a) (f' a)) : Twins R (act >>= f) (act' >>= f') := by
  intro s s' h
  obtain ⟨hend, hstate⟩ := ha s s' h
  rw [exec_bind, exec_bind]
  rcases hact : act.exec s with ⟨r, t⟩
  rcases hact' : act'.exec s' with ⟨r', t'⟩
  rw [hact, hact'] at hend hstate
  change SameEnd r r' at hend
  rcases hend.cases with ⟨fault, fault', rfl, rfl, hkind⟩ | ⟨a, rfl, rfl⟩
  · exact ⟨sameEnd_error hkind, hstate⟩
  · exact hf a t t' hstate

/-- Requests that read the state first are chosen by states that are alike. -/
lemma twins_get_bind {f f' : σ → Act σ β} (hf : ∀ s s', R s s' → Twins R (f s) (f' s')) :
    Twins R (get >>= f) (get >>= f') := by
  intro s s' h
  rw [exec_bind, exec_bind, exec_get, exec_get]
  exact hf s s' h s s' h

lemma twins_zoom {part : σ → τ} {put : σ → τ → σ} {act act' : Act τ α} (ha : Twins S act act')
    (hpart : ∀ s s', R s s' → S (part s) (part s'))
    (hput : ∀ s s' t t', R s s' → S t t' → R (put s t) (put s' t')) :
    Twins R (zoom part put act) (zoom part put act') := by
  intro s s' h
  obtain ⟨hend, hstate⟩ := ha _ _ (hpart s s' h)
  rw [exec_zoom, exec_zoom]
  exact ⟨hend, hput s s' _ _ h hstate⟩

/-- Both parts are alike. -/
def Beside (Q : ρ → ρ → Prop) (S : τ → τ → Prop) (s s' : ρ × τ) : Prop :=
  Q s.1 s'.1 ∧ S s.2 s'.2

lemma twins_beside {Q : ρ → ρ → Prop} {act act' : Act τ α} (ha : Twins S act act') :
    Twins (Beside Q S) (beside act) (beside act') :=
  twins_zoom ha (fun _ _ h => h.2) fun _ _ _ _ h ht => ⟨h.1, ht⟩

end Act

open Act Text

namespace Console

/-- The two connections differ in what the host was told. -/
def Twin (c c' : Console) : Prop :=
  ∃ log, c' = { c with log }

lemma twins_send (event event' : Event) : Twins Twin (send event) (send event') := by
  rintro c _ ⟨log, rfl⟩
  unfold send
  dsimp only [exec]
  split
  · exact ⟨rfl, _, rfl⟩
  · exact ⟨rfl, _, rfl⟩

lemma twins_line (text text' : String) : Twins Twin (line text) (line text') :=
  twins_send _ _

lemma twins_data (sink : String) (set : DataLine) : Twins Twin (data sink set) (data sink set) :=
  twins_send _ _

lemma twins_debug (text text' : String) : Twins Twin (debug text) (debug text') := by
  rintro c _ ⟨log, rfl⟩
  unfold debug
  dsimp only [exec]
  split
  · exact twins_line ("?:" ++ text) ("?:" ++ text') c _ ⟨log, rfl⟩
  · exact ⟨rfl, log, rfl⟩

end Console

namespace Consumer

/-- The consumers see the sources and not what the connection has carried. -/
abbrev Twin : Source × Console → Source × Console → Prop :=
  Beside Eq Console.Twin

lemma twins_consume (i : Nat) (tag : String) : Twins Twin (consume i tag) (consume i tag) := by
  rintro ⟨source, c⟩ ⟨source', c'⟩ ⟨hsource, hc⟩
  change source = source' at hsource
  subst hsource
  unfold consume
  dsimp only [exec]
  rcases source.fetch i with ⟨_ | h, fetched⟩
  · exact ⟨rfl, rfl, hc⟩
  · obtain ⟨hsent, hlog⟩ := Console.twins_data ((fetched.sinks[i]?.map (·.name)).getD "")
      (fetched.dataLine tag h) c c' hc
    dsimp only
    rcases Source.release h fetched with ⟨_ | _, released⟩
    · exact ⟨rfl, rfl, hlog⟩
    · exact ⟨sameEnd_map hsent _, rfl, hlog⟩

variable {s s' : Source × Console}

lemma twin_consumeMany (i : Nat) (tag : String) (n : Nat) (h : Twin s s') :
    Twin (consumeMany i tag n s) (consumeMany i tag n s') := by
  induction n generalizing s s' with
  | zero => exact h
  | succ n ih => exact ih (twins_consume i tag s s' h).2

lemma twin_drain (tag : String) (h : Twin s s') : Twin (drain tag s) (drain tag s') := by
  unfold drain
  rw [h.1]
  generalize List.range s'.1.sinks.length = sinks
  induction sinks generalizing s s' with
  | nil => exact h
  | cons i rest ih =>
    refine ih ?_
    unfold drainSink
    rw [h.1]
    exact twin_consumeMany i tag _ h

end Consumer

/-! ## Rigs -/

namespace Rig

/-- The two rigs differ in what the host was told. -/
def Twin (rig rig' : Rig) : Prop :=
  ∃ log, rig' = { rig with console := { rig.console with log } }

lemma twins_onConsole {α : Type} {act act' : Act Console α} (h : Twins Console.Twin act act') :
    Twins Twin (onConsole act) (onConsole act') := by
  refine twins_zoom h ?_ ?_
  · rintro rig _ ⟨log, rfl⟩
    exact ⟨log, rfl⟩
  · rintro rig _ c _ ⟨_, rfl⟩ ⟨log, rfl⟩
    exact ⟨log, rfl⟩

lemma twins_reply (text text' : String) :
    Twins Twin (onConsole (Console.line text)) (onConsole (Console.line text')) :=
  twins_onConsole (Console.twins_line text text')

lemma twins_debug (text text' : String) : Twins Twin (debug text) (debug text') :=
  twins_onConsole (Console.twins_debug text text')

lemma twins_zoom_pins {α : Type} (act : Act PinTable α) :
    Twins Twin (.zoom (·.pins) ({ · with pins := · }) act : Act Rig α)
      (.zoom (·.pins) ({ · with pins := · }) act) := by
  refine twins_zoom (twins_eq act) ?_ ?_
  · rintro rig _ ⟨log, rfl⟩
    rfl
  · rintro rig _ pins _ ⟨log, rfl⟩ rfl
    exact ⟨log, rfl⟩

lemma twins_onPins (f : PinTable → Except Fault PinTable) : Twins Twin (onPins f) (onPins f) :=
  twins_zoom_pins (.update f)

variable {rig rig' : Rig}

lemma twin_settle (h : Twin rig rig') : Twin rig.settle rig'.settle := by
  obtain ⟨log, rfl⟩ := h
  have hserved : Consumer.Twin (rig.source, rig.console)
      (rig.source, { rig.console with log }) := ⟨rfl, log, rfl⟩
  obtain ⟨hsource, hconsole⟩ := Consumer.twin_drain rig.config.adc.tag hserved
  unfold settle
  dsimp only
  split
  · obtain ⟨log', hlog⟩ := hconsole
    rw [← hsource, hlog]
    exact ⟨log', rfl⟩
  · exact ⟨log, rfl⟩

lemma twin_startConsumers (h : Twin rig rig') : Twin rig.startConsumers rig'.startConsumers := by
  obtain ⟨log, rfl⟩ := h
  apply twin_settle
  dsimp only
  have hsame : ({ rig with console := { rig.console with log } } : Rig).unspawnable =
      rig.unspawnable := rfl
  rw [hsame]
  cases rig.unspawnable with
  | true => exact ⟨log.push .crash, rfl⟩
  | false => exact ⟨log, rfl⟩

lemma twin_convert (h : Twin rig rig') (c : Converter) (n : Nat) :
    Twin (rig.convert c n) (rig'.convert c n) := by
  induction n with
  | zero => exact h
  | succ n ih =>
    rw [convert_succ, convert_succ]
    obtain ⟨log, hlog⟩ := ih
    rw [hlog]
    exact twin_settle ⟨log, rfl⟩

lemma twins_reportSinks (sinks : List (Mailbox Handle)) :
    Twins Twin (reportSinks sinks) (reportSinks sinks) := by
  induction sinks with
  | nil => exact twins_pure ()
  | cons sink rest ih =>
    exact twins_bind (twins_bind (twins_reply _ _) fun _ => twins_reply _ _) fun _ => ih

lemma twins_report : Twins Twin report report := by
  refine twins_get_bind ?_
  rintro rig _ ⟨log, rfl⟩
  exact twins_bind (twins_reply _ _) fun _ => twins_bind (twins_reply _ _) fun _ =>
    twins_bind (twins_reply _ _) fun _ => twins_bind (twins_reply _ _) fun _ =>
    twins_bind (twins_reply _ _) fun _ => twins_bind (twins_reply _ _) fun _ =>
    twins_bind (twins_reply _ _) fun _ => twins_reportSinks _

end Rig

end Instrument
