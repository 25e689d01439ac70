import Instrument.Proofs.Keeps
import Instrument.Proofs.OneLine

/-!
# Requests that fail quietly

What a request may change depends on how it ends. A manner says which changes are admitted to a
request that fails and which to one that succeeds. A check that fails has changed nothing, so
requests are put together from checks, then one step that may fail, and then steps that cannot.
-/

namespace Instrument.Act

variable {σ ρ τ α β : Type}

/-- The changes that a failed request may leave behind are quiet, and those of one that has
succeeded are loud. -/
structure Manner (σ : Type) where
  quiet : σ → σ → Prop
  loud : σ → σ → Prop
  quiet_refl : ∀ s, quiet s s
  quiet_trans : ∀ {s t u}, quiet s t → quiet t u → quiet s u
  loud_trans : ∀ {s t u}, loud s t → loud t u → loud s u
  loud_of_quiet : ∀ {s t}, quiet s t → loud s t

/-- Made in `s`, the request changes what the manner admits to its end, and its fault stays on one
line if it has one. -/
def Tells (m : Manner σ) (act : Act σ α) (s : σ) : Prop :=
  match act.exec s with
  | (.ok _, t) => m.loud s t
  | (.error fault, t) => m.quiet s t ∧ fault.OneLine

def Succeeds (m : Manner σ) (act : Act σ α) (s : σ) : Prop :=
  ∃ a t, act.exec s = (.ok a, t) ∧ m.loud s t

variable {m : Manner σ} {act : Act σ α} {f : α → Act σ β} {s t : σ} {a : α}

lemma Succeeds.tells (h : Succeeds m act s) : Tells m act s := by
  obtain ⟨a, t, he, hl⟩ := h
  simpa only [Tells, he] using hl

lemma tells_of_ok (he : act.exec s = (.ok a, t)) (hl : m.loud s t) : Tells m act s :=
  Succeeds.tells ⟨a, t, he, hl⟩

lemma tells_of_error {fault : Fault} (he : act.exec s = (.error fault, t)) (hq : m.quiet s t)
    (hf : fault.OneLine) : Tells m act s := by
  simp only [Tells, he]
  exact ⟨hq, hf⟩

lemma Tells.loud (h : Tells m act s) : m.loud s (act.exec s).2 := by
  unfold Tells at h
  rcases he : act.exec s with ⟨fault | a, t⟩
  · rw [he] at h
    exact m.loud_of_quiet h.1
  · rw [he] at h
    exact h

lemma succeeds_pure (a : α) (s : σ) : Succeeds m (pure a) s :=
  ⟨a, s, rfl, m.loud_of_quiet (m.quiet_refl s)⟩

lemma tells_throw {fault : Fault} (h : fault.OneLine) : Tells m (throw fault : Act σ α) s :=
  tells_of_error rfl (m.quiet_refl s) h

lemma tells_check_bind {r : Except Fault α} (hr : ∀ fault, r = .error fault → fault.OneLine)
    (hf : ∀ a, r = .ok a → Tells m (f a) s) : Tells m (check r >>= f) s := by
  cases r with
  | error fault => exact tells_of_error rfl (m.quiet_refl s) (hr fault rfl)
  | ok a =>
    have h := hf a rfl
    unfold Tells at h ⊢
    rwa [exec_bind, exec_check]

lemma tells_get_bind {f : σ → Act σ β} (h : Tells m (f s) s) : Tells m (get >>= f) s := by
  unfold Tells at h ⊢
  rwa [exec_bind, exec_get]

lemma succeeds_get_bind {f : σ → Act σ β} (h : Succeeds m (f s) s) :
    Succeeds m (get >>= f) s := by
  obtain ⟨b, t, he, hl⟩ := h
  refine ⟨b, t, ?_, hl⟩
  rw [exec_bind, exec_get]
  exact he

lemma exec_bind_of_ok (he : act.exec s = (.ok a, t)) : (act >>= f).exec s = (f a).exec t := by
  rw [exec_bind, he]

lemma exec_map (f : α → β) (act : Act σ α) (s : σ) :
    (f <$> act).exec s = ((act.exec s).1.map f, (act.exec s).2) := by
  rw [map_eq_pure_bind, exec_bind]
  rcases act.exec s with ⟨_ | a, t⟩ <;> rfl

lemma succeeds_bind_of_ok (he : act.exec s = (.ok a, t)) (hl : m.loud s t)
    (hf : Succeeds m (f a) t) : Succeeds m (act >>= f) s := by
  obtain ⟨b, u, heb, hlb⟩ := hf
  exact ⟨b, u, (exec_bind_of_ok he).trans heb, m.loud_trans hl hlb⟩

lemma tells_bind_of_error {fault : Fault} (he : act.exec s = (.error fault, t))
    (hq : m.quiet s t) (hf : fault.OneLine) : Tells m (act >>= f) s := by
  have hfail : (act >>= f).exec s = (.error fault, t) := by rw [exec_bind, he]
  exact tells_of_error hfail hq hf

lemma Succeeds.bind (h : Succeeds m act s) (hf : ∀ a t, m.loud s t → Succeeds m (f a) t) :
    Succeeds m (act >>= f) s := by
  obtain ⟨a, t, he, hl⟩ := h
  exact succeeds_bind_of_ok he hl (hf a t hl)

/-- After the step that may fail there are only steps that cannot. -/
lemma Tells.bind (h : Tells m act s) (hf : ∀ a t, m.loud s t → Succeeds m (f a) t) :
    Tells m (act >>= f) s := by
  unfold Tells at h
  rcases he : act.exec s with ⟨fault | a, t⟩
  · rw [he] at h
    exact tells_bind_of_error he h.1 h.2
  · rw [he] at h
    exact (succeeds_bind_of_ok he h (hf a t h)).tells

lemma tells_bind_of_quiet (he : act.exec s = (.ok a, t)) (hq : m.quiet s t)
    (hf : Tells m (f a) t) : Tells m (act >>= f) s := by
  unfold Tells at hf
  rcases hef : (f a).exec t with ⟨fault | b, u⟩
  · rw [hef] at hf
    exact tells_of_error ((exec_bind_of_ok he).trans hef) (m.quiet_trans hq hf.1) hf.2
  · rw [hef] at hf
    exact tells_of_ok ((exec_bind_of_ok he).trans hef) (m.loud_trans (m.loud_of_quiet hq) hf)

/-! ## A state beside another -/

/-- A failed request leaves what stands beside the state as it was. -/
def Manner.beside (ρ : Type) (m : Manner τ) : Manner (ρ × τ) where
  quiet s t := t.1 = s.1 ∧ m.quiet s.2 t.2
  loud s t := m.loud s.2 t.2
  quiet_refl s := ⟨rfl, m.quiet_refl s.2⟩
  quiet_trans h h' := ⟨h'.1.trans h.1, m.quiet_trans h.2 h'.2⟩
  loud_trans h h' := m.loud_trans h h'
  loud_of_quiet h := m.loud_of_quiet h.2

lemma Succeeds.beside {m : Manner τ} {act : Act τ α} {r : ρ} {t : τ} (h : Succeeds m act t) :
    Succeeds (m.beside ρ) (Act.beside act) (r, t) := by
  obtain ⟨a, t', he, hl⟩ := h
  refine ⟨a, (r, t'), ?_, hl⟩
  rw [exec_beside, he]

lemma Tells.beside {m : Manner τ} {act : Act τ α} {r : ρ} {t : τ} (h : Tells m act t) :
    Tells (m.beside ρ) (Act.beside act) (r, t) := by
  unfold Tells at h
  rcases he : act.exec t with ⟨fault | a, t'⟩
  · rw [he] at h
    have hfail : (Act.beside act).exec (r, t) = (.error fault, r, t') := by
      rw [exec_beside, he]
    exact tells_of_error hfail ⟨rfl, h.1⟩ h.2
  · rw [he] at h
    have hok : (Act.beside act).exec (r, t) = (.ok a, r, t') := by
      rw [exec_beside, he]
    exact tells_of_ok hok h

/-- What a request does to one part of a state, another does to the state, where the part that
stands beside is `g` of what stood beside it. -/
lemma Tells.lift {ρ' : Type} {m : Manner τ} {act : Act (ρ × τ) α} {act' : Act (ρ' × τ) α}
    (g : ρ → ρ') {r : ρ} {t : τ} (h : Tells (m.beside ρ) act (r, t))
    (he : act'.exec (g r, t) =
      ((act.exec (r, t)).1, g (act.exec (r, t)).2.1, (act.exec (r, t)).2.2)) :
    Tells (m.beside ρ') act' (g r, t) := by
  unfold Tells at h
  rcases hact : act.exec (r, t) with ⟨fault | a, r', t'⟩
  · rw [hact] at h he
    have hr : r' = r := h.1.1
    rw [hr] at he
    exact tells_of_error he ⟨rfl, h.1.2⟩ h.2
  · rw [hact] at h he
    exact tells_of_ok he h

end Instrument.Act
