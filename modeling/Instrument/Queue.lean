/-!
First-in first-out queues. A queue is kept in two lists, so that neither end costs more for a long
queue; `Queue.toList` is its contents, the oldest first, and says what every operation does.
-/

namespace Instrument

/-- A queue, kept as its older half and, the newest first, its younger half. -/
structure Queue (α : Type) where
  older : List α
  younger : List α
  /-- The number of elements. -/
  size : Nat
  size_eq : size = older.length + younger.length

namespace Queue

variable {α : Type}

/-- The elements, the oldest first. -/
def toList (q : Queue α) : List α :=
  q.older ++ q.younger.reverse

/-- The queue of the elements of a list, of which the first is the oldest. -/
def ofList (elements : List α) : Queue α :=
  ⟨elements, [], elements.length, rfl⟩

def empty : Queue α :=
  ofList []

/-- Appends an element. -/
def push (q : Queue α) (a : α) : Queue α :=
  ⟨q.older, a :: q.younger, q.size + 1, by simp [q.size_eq, Nat.add_assoc]⟩

/-- The oldest element, and the queue without it. -/
def pop? : Queue α → Option (α × Queue α)
  | ⟨a :: older, younger, size, h⟩ =>
    some (a, ⟨older, younger, size - 1, by simp at h; omega⟩)
  | ⟨[], younger, _, _⟩ =>
    match younger.reverse with
    | [] => none
    | a :: older => some (a, ofList older)

@[simp] theorem toList_ofList (elements : List α) : (ofList elements).toList = elements := by
  simp [toList, ofList]

@[simp] theorem toList_push (q : Queue α) (a : α) : (q.push a).toList = q.toList ++ [a] := by
  simp [toList, push]

theorem length_toList (q : Queue α) : q.toList.length = q.size := by
  simp [toList, q.size_eq]

@[simp] theorem size_push (q : Queue α) (a : α) : (q.push a).size = q.size + 1 :=
  rfl

/-- Taking from a queue takes the head of its contents and leaves the tail. -/
theorem pop?_map_toList (q : Queue α) :
    q.pop?.map (fun (a, rest) => (a, rest.toList)) =
      match q.toList with
      | [] => none
      | a :: rest => some (a, rest) := by
  rcases q with ⟨_ | ⟨a, older⟩, younger, size, h⟩
  · show Option.map _ (match younger.reverse with
      | [] => none
      | a :: older => some (a, ofList older)) = match younger.reverse with
      | [] => none
      | a :: rest => some (a, rest)
    cases younger.reverse <;> simp
  · rfl

theorem pop?_eq_none_iff {q : Queue α} : q.pop? = none ↔ q.toList = [] := by
  have h := pop?_map_toList q
  cases hp : q.pop? <;> cases hl : q.toList <;> simp_all

theorem toList_eq_cons_of_pop? {q rest : Queue α} {a : α} (h : q.pop? = some (a, rest)) :
    q.toList = a :: rest.toList := by
  have hm := pop?_map_toList q
  cases hl : q.toList <;> simp_all

end Queue

end Instrument
