import Instrument.Act
import Mathlib.Tactic.Lemma

/-!
# What requests keep

A request keeps a condition on states when it leaves every state that meets it in one that does,
whether it succeeds or fails. The condition passes through sequences of requests, so that it is
enough to look at the single changes.
-/

namespace Instrument.Act

variable {σ τ α β : Type} {p : σ → Prop}

/-- The condition holds after the request if it holds before, whatever the answer. -/
def Keeps (p : σ → Prop) (act : Act σ α) : Prop :=
  ∀ s, p s → p (act.exec s).2

lemma keeps_throw (fault : Fault) : Keeps p (throw fault : Act σ α) :=
  fun _ h => h

lemma keeps_check (r : Except Fault α) : Keeps p (check r) :=
  fun _ h => h

lemma keeps_modify {f : σ → σ} (hf : ∀ s, p s → p (f s)) : Keeps p (modify f : Act σ Unit) :=
  hf

lemma keeps_update {f : σ → Except Fault σ} (hf : ∀ s s', p s → f s = .ok s' → p s') :
    Keeps p (update f) := by
  intro s h
  rw [exec_update]
  cases hs : f s with
  | ok s' => exact hf s s' h hs
  | error fault => exact h

lemma keeps_bind {act : Act σ α} {f : α → Act σ β} (ha : Keeps p act) (hf : ∀ a, Keeps p (f a)) :
    Keeps p (act >>= f) := by
  intro s h
  have hs := ha s h
  rw [exec_bind]
  rcases hact : act.exec s with ⟨_ | a, s'⟩
  · rwa [hact] at hs
  · rw [hact] at hs
    exact hf a s' hs

/-- What comes after a check may rely on what that has found. -/
lemma keeps_check_bind {r : Except Fault α} {f : α → Act σ β}
    (hf : ∀ a, r = .ok a → Keeps p (f a)) : Keeps p (check r >>= f) := by
  cases r with
  | error fault => exact fun _ h => h
  | ok a => exact hf a rfl

/-- A request that reads the state first may be chosen by what it reads. -/
lemma keeps_get_bind {f : σ → Act σ β} (hf : ∀ s, p s → p ((f s).exec s).2) :
    Keeps p (get >>= f) := by
  intro s h
  rw [exec_bind, exec_get]
  exact hf s h

lemma keeps_beside {p : σ × τ → Prop} {act : Act τ α}
    (h : ∀ s, Keeps (fun t => p (s, t)) act) : Keeps p (beside act) :=
  fun s => h s.1 s.2

/-- Nothing becomes of what a request stands beside. -/
lemma keeps_fst (act : Act τ α) : Keeps (fun s : σ × τ => p s.1) (beside act) :=
  fun _ h => h

end Instrument.Act
