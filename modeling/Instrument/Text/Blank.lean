/-!
White space in host text, and the cuts that are made at it. `isBlank` is the Unicode property
White_Space, 25 characters in all. All cuts work on lists of characters, so that their laws are
inductions on the list.
-/

namespace Instrument.Text

/-- The Unicode property White_Space. -/
def isBlank (c : Char) : Bool :=
  let n := c.toNat
  (9 ≤ n && n ≤ 13) || n == 32 || n == 0x85 || n == 0xA0 || n == 0x1680 ||
    (0x2000 ≤ n && n ≤ 0x200A) || n == 0x2028 || n == 0x2029 || n == 0x202F || n == 0x205F ||
    n == 0x3000

/-- Drops the longest run at the end whose characters all satisfy `p`. -/
def dropTrailing (p : Char → Bool) (s : List Char) : List Char :=
  (s.reverse.dropWhile p).reverse

def trim (s : List Char) : List Char :=
  dropTrailing isBlank (s.dropWhile isBlank)

/-- The stretches between separators; two neighbouring separators have an empty one between them. -/
def splitBy (sep : Char → Bool) : List Char → List (List Char)
  | [] => [[]]
  | c :: cs => if sep c then [] :: splitBy sep cs else (splitBy sep cs).modifyHead (c :: ·)

/-- The non-empty stretches between separators. -/
def pieces (sep : Char → Bool) (s : List Char) : List (List Char) :=
  (splitBy sep s).filter fun piece => !piece.isEmpty

def words (s : List Char) : List (List Char) :=
  pieces isBlank s

theorem splitBy_ne_nil (sep : Char → Bool) (s : List Char) : splitBy sep s ≠ [] := by
  induction s with
  | nil => simp [splitBy]
  | cons c cs ih =>
    rw [splitBy]
    split
    · simp
    · cases h : splitBy sep cs with
      | nil => exact absurd h ih
      | cons piece rest => simp [List.modifyHead]

theorem ne_nil_of_mem_pieces {sep : Char → Bool} {s piece : List Char}
    (h : piece ∈ pieces sep s) : piece ≠ [] := by
  simp only [pieces, List.mem_filter] at h
  simpa using h.2

end Instrument.Text
