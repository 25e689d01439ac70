/-!
The flat memory behind the sample sets. It is as long as its user needs: cells that were never
written hold zero, and writing behind the end makes the memory longer.
-/

namespace Instrument

/-- Cells numbered from zero. -/
structure SampleStore where
  cells : Array UInt16

namespace SampleStore

def empty : SampleStore :=
  ⟨#[]⟩

def get (s : SampleStore) (i : Nat) : UInt16 :=
  s.cells.getD i 0

def set (s : SampleStore) (i : Nat) (v : UInt16) : SampleStore :=
  if i < s.cells.size then ⟨s.cells.setIfInBounds i v⟩
  else ⟨(s.cells ++ Array.replicate (i - s.cells.size) 0).push v⟩

/-- Writes values to neighbouring cells. -/
def write (s : SampleStore) (start : Nat) : List UInt16 → SampleStore
  | [] => s
  | v :: vs => (s.set start v).write (start + 1) vs

/-- The values of `n` neighbouring cells. -/
def read (s : SampleStore) (start n : Nat) : List UInt16 :=
  (List.range n).map fun k => s.get (start + k)

theorem get_set (s : SampleStore) (i j : Nat) (v : UInt16) :
    (s.set i v).get j = if i = j then v else s.get j := by
  unfold set get
  split
  · next h =>
    simp only [Array.getD_eq_getD_getElem?, Array.getElem?_setIfInBounds]
    split <;> simp_all
  · next h =>
    simp only [Array.getD_eq_getD_getElem?, Array.getElem?_push, Array.size_append,
      Array.size_replicate, Array.getElem?_append, Array.getElem?_replicate]
    have hi : s.cells.size + (i - s.cells.size) = i := by omega
    rw [hi]
    by_cases hij : i = j
    · simp [hij]
    · have hji : ¬ j = i := fun e => hij e.symm
      simp only [hij, hji, if_false]
      by_cases hj : j < s.cells.size
      · simp [hj]
      · by_cases hlt : j - s.cells.size < i - s.cells.size <;> simp [hj, hlt]

theorem get_write (s : SampleStore) (start j : Nat) (vs : List UInt16) :
    (s.write start vs).get j =
      if start ≤ j ∧ j < start + vs.length then vs.getD (j - start) 0 else s.get j := by
  induction vs generalizing s start with
  | nil =>
    have h : ¬ (start ≤ j ∧ j < start) := by omega
    simp [write, h]
  | cons v vs ih =>
    rw [write, ih, get_set]
    by_cases hj : start = j
    · subst hj
      have hout : ¬ (start + 1 ≤ start ∧ start < start + 1 + vs.length) := by omega
      rw [if_neg hout, if_pos rfl]
      simp
    · by_cases hin : start + 1 ≤ j ∧ j < start + 1 + vs.length
      · have h : start ≤ j ∧ j < start + (v :: vs).length := by
          simp only [List.length_cons]
          omega
        have hs : j - start = (j - (start + 1)) + 1 := by omega
        rw [if_pos hin, if_pos h, hs, List.getD_cons_succ]
      · have h : ¬ (start ≤ j ∧ j < start + (v :: vs).length) := by
          simp only [List.length_cons]
          omega
        rw [if_neg hin, if_neg h, if_neg hj]

/-- What was written is read back. -/
theorem read_write (s : SampleStore) (start : Nat) (vs : List UInt16) :
    (s.write start vs).read start vs.length = vs := by
  apply List.ext_getElem
  · simp [read]
  · intro k hk hk'
    have h : start ≤ start + k ∧ start + k < start + vs.length := by omega
    have hk'' : k < vs.length := hk'
    simp [read, get_write, hk'']

/-- Cells outside the written stretch keep their values. -/
theorem read_write_of_disjoint (s : SampleStore) (start other n : Nat) (vs : List UInt16)
    (h : other + n ≤ start ∨ start + vs.length ≤ other) :
    (s.write start vs).read other n = s.read other n := by
  refine List.map_congr_left fun k hk => ?_
  have hk := List.mem_range.1 hk
  rw [get_write, if_neg (by omega)]

end SampleStore

end Instrument
