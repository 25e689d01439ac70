import Instrument.Registry
import Instrument.Proofs.Keeps

/-!
# Requests that only reply

Reports, listings and debug lines touch nothing of the rig but the connection to the host, and they
do so whether the lines get through or not.
-/

namespace Instrument

namespace Rig

variable {α β : Type}

/-- The request leaves all of the rig as it is, but for the connection. -/
def OnlyReplies (act : Act Rig α) : Prop :=
  ∀ rig, ∃ console, (act.exec rig).2 = { rig with console }

lemma OnlyReplies.keeps {act : Act Rig α} {p : Rig → Prop} (h : OnlyReplies act)
    (hp : ∀ rig console, p rig → p { rig with console }) : act.Keeps p := by
  intro rig hrig
  obtain ⟨console, he⟩ := h rig
  rw [he]
  exact hp rig console hrig

lemma onlyReplies_pure (a : α) : OnlyReplies (pure a) :=
  fun rig => ⟨rig.console, rfl⟩

lemma onlyReplies_check (r : Except Fault α) : OnlyReplies (Act.check r) :=
  fun rig => ⟨rig.console, rfl⟩

lemma onlyReplies_onConsole (act : Act Console α) : OnlyReplies (onConsole act) :=
  fun rig => ⟨(act.exec rig.console).2, rfl⟩

lemma onlyReplies_bind {act : Act Rig α} {f : α → Act Rig β} (ha : OnlyReplies act)
    (hf : ∀ a, OnlyReplies (f a)) : OnlyReplies (act >>= f) := by
  intro rig
  obtain ⟨console, he⟩ := ha rig
  rw [Act.exec_bind]
  rcases hact : act.exec rig with ⟨_ | a, rig'⟩
  · rw [hact] at he
    exact ⟨console, he⟩
  · rw [hact] at he
    obtain ⟨console', he'⟩ := hf a rig'
    refine ⟨console', ?_⟩
    rw [show ((f a).exec rig').2 = _ from he', show rig' = _ from he]

lemma onlyReplies_get_bind {f : Rig → Act Rig β} (hf : ∀ rig, OnlyReplies (f rig)) :
    OnlyReplies (get >>= f) := by
  intro rig
  rw [Act.exec_bind, Act.exec_get]
  exact hf rig rig

lemma onlyReplies_debug (text : String) : OnlyReplies (debug text) :=
  onlyReplies_onConsole _

lemma onlyReplies_reportSinks (sinks : List (Mailbox Handle)) :
    OnlyReplies (reportSinks sinks) := by
  induction sinks with
  | nil => exact onlyReplies_pure ()
  | cons sink rest ih =>
    refine onlyReplies_bind (onlyReplies_bind ?_ fun _ => ?_) fun _ => ih
    · exact onlyReplies_onConsole _
    · exact onlyReplies_onConsole _

lemma onlyReplies_report : OnlyReplies report := by
  refine onlyReplies_get_bind fun rig => ?_
  iterate 7 refine onlyReplies_bind (onlyReplies_onConsole _) fun _ => ?_
  exact onlyReplies_reportSinks _

end Rig

open Rig

lemma System.onlyReplies_version (line : Line) : OnlyReplies (version line) :=
  onlyReplies_bind (onlyReplies_check _) fun _ =>
    onlyReplies_bind (onlyReplies_check _) fun _ => onlyReplies_onConsole _

lemma System.onlyReplies_reportOwners (subsystems : List Subsystem) :
    OnlyReplies (reportOwners subsystems) := by
  induction subsystems with
  | nil => exact onlyReplies_pure ()
  | cons s rest ih =>
    refine onlyReplies_get_bind fun rig => ?_
    dsimp only
    split
    · exact ih
    · exact onlyReplies_bind (onlyReplies_onConsole _) fun _ => ih

lemma System.onlyReplies_status (line : Line) : OnlyReplies (status line) := by
  refine onlyReplies_bind (onlyReplies_check _) fun _ => ?_
  refine onlyReplies_bind (onlyReplies_check _) fun _ => ?_
  refine onlyReplies_get_bind fun rig => ?_
  refine onlyReplies_bind (onlyReplies_onConsole _) fun _ => ?_
  exact onlyReplies_bind onlyReplies_report fun _ => onlyReplies_reportOwners _

lemma Registry.onlyReplies_infoLines (lines : List String) : OnlyReplies (infoLines lines) := by
  induction lines with
  | nil => exact onlyReplies_pure ()
  | cons text rest ih => exact onlyReplies_bind (onlyReplies_onConsole _) fun _ => ih

lemma Registry.onlyReplies_help (r : Registry) : OnlyReplies r.help :=
  onlyReplies_bind (onlyReplies_infoLines _) fun _ => onlyReplies_infoLines _

end Instrument
