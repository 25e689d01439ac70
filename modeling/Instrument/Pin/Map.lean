import Instrument.Pin

/-!
Tables with one entry for every pin of the board.
-/

namespace Instrument

/-- One value for each pin. -/
structure PinMap (α : Type) where
  cells : Vector α Pin.count

namespace PinMap

variable {α β : Type}

def get (m : PinMap α) (pin : Pin) : α :=
  m.cells[pin.index]

def set (m : PinMap α) (pin : Pin) (a : α) : PinMap α :=
  ⟨m.cells.set pin.index a⟩

/-- The same value for every pin. -/
def fill (a : α) : PinMap α :=
  ⟨Vector.replicate Pin.count a⟩

/-- The entries of two tables combined pin by pin. -/
def zipWith {γ : Type} (f : α → β → γ) (m : PinMap α) (n : PinMap β) : PinMap γ :=
  ⟨Vector.zipWith f m.cells n.cells⟩

def map (f : α → β) (m : PinMap α) : PinMap β :=
  ⟨m.cells.map f⟩

@[simp] theorem get_set_self (m : PinMap α) (pin : Pin) (a : α) : (m.set pin a).get pin = a := by
  simp [get, set]

theorem get_set_of_ne {p q : Pin} (m : PinMap α) (a : α) (h : p ≠ q) :
    (m.set p a).get q = m.get q := by
  have hv : p.index.val ≠ q.index.val := fun hv => h (Pin.index_injective (Fin.ext hv))
  simp only [get, set, Fin.getElem_fin]
  exact Vector.getElem_set_ne p.index.isLt q.index.isLt hv

theorem get_set (m : PinMap α) (p q : Pin) (a : α) :
    (m.set p a).get q = if p = q then a else m.get q := by
  split
  · next h => subst h; simp
  · next h => exact get_set_of_ne m a h

@[simp] theorem get_fill (a : α) (pin : Pin) : (fill a).get pin = a := by
  simp [get, fill]

@[simp] theorem get_zipWith {γ : Type} (f : α → β → γ) (m : PinMap α) (n : PinMap β) (pin : Pin) :
    (zipWith f m n).get pin = f (m.get pin) (n.get pin) := by
  simp [get, zipWith]

@[simp] theorem get_map (f : α → β) (m : PinMap α) (pin : Pin) :
    (m.map f).get pin = f (m.get pin) := by
  simp [get, map]

end PinMap

end Instrument
