import Instrument.Fault

/-!
Requests that may fail. A request runs on a state and leaves a state behind whether it succeeds or
not: what it did before it failed stays done.
-/

namespace Instrument

/-- A request on a state `σ` that answers `α` or a fault. -/
abbrev Act (σ α : Type) : Type :=
  ExceptT Fault (StateM σ) α

namespace Act

variable {σ τ α β : Type}

/-- Runs a request: its answer, and the state it leaves. -/
def exec (act : Act σ α) (s : σ) : Except Fault α × σ :=
  act s

/-- The request that answers what a pure check answers. -/
def check (r : Except Fault α) : Act σ α :=
  fun s => (r, s)

/-- Replaces the state by one that may be refused; a refusal changes nothing. -/
def update (f : σ → Except Fault σ) : Act σ Unit :=
  fun s =>
    match f s with
    | .ok s' => (.ok (), s')
    | .error fault => (.error fault, s)

/-- Runs a request on one part of a state. -/
def zoom (part : σ → τ) (put : σ → τ → σ) (act : Act τ α) : Act σ α :=
  fun s =>
    let (r, t) := act.exec (part s)
    (r, put s t)

/-- Runs a request on a state that stands beside another. -/
def beside (act : Act τ α) : Act (σ × τ) α :=
  zoom (·.2) (fun s t => (s.1, t)) act

theorem exec_bind (act : Act σ α) (f : α → Act σ β) (s : σ) :
    (act >>= f).exec s =
      match act.exec s with
      | (.ok a, s') => (f a).exec s'
      | (.error fault, s') => (.error fault, s') := by
  show (ExceptT.bindCont f (act s).1) (act s).2 = _
  unfold exec
  rcases act s with ⟨r, s'⟩
  cases r <;> rfl

@[simp] theorem exec_pure (a : α) (s : σ) : (pure a : Act σ α).exec s = (.ok a, s) :=
  rfl

@[simp] theorem exec_throw (fault : Fault) (s : σ) :
    (throw fault : Act σ α).exec s = (.error fault, s) :=
  rfl

@[simp] theorem exec_check (r : Except Fault α) (s : σ) : (check r).exec s = (r, s) :=
  rfl

@[simp] theorem exec_get (s : σ) : (get : Act σ σ).exec s = (.ok s, s) :=
  rfl

@[simp] theorem exec_modify (f : σ → σ) (s : σ) :
    (modify f : Act σ Unit).exec s = (.ok (), f s) :=
  rfl

theorem exec_update (f : σ → Except Fault σ) (s : σ) :
    (update f).exec s =
      match f s with
      | .ok s' => (.ok (), s')
      | .error fault => (.error fault, s) :=
  rfl

@[simp] theorem exec_zoom (part : σ → τ) (put : σ → τ → σ) (act : Act τ α) (s : σ) :
    (zoom part put act).exec s = ((act.exec (part s)).1, put s (act.exec (part s)).2) :=
  rfl

@[simp] theorem exec_beside (act : Act τ α) (s : σ × τ) :
    (beside act).exec s = ((act.exec s.2).1, s.1, (act.exec s.2).2) :=
  rfl

end Act

end Instrument
