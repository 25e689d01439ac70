import Instrument.Fault
import Instrument.Text.Fold

/-!
The words that a place in a command line admits. A vocabulary is an ordered list of words, each
with its meaning; words are compared whole and without regard to ASCII case, so `pin1` is never
taken for the beginning of `pin10`. Two words may mean the same.
-/

namespace Instrument

/-- The words for one place in a line, which `slot` names in diagnostics. -/
structure Vocabulary (α : Type) where
  slot : String
  entries : List (String × α)

namespace Vocabulary

variable {α : Type}

def words (v : Vocabulary α) : List String :=
  v.entries.map (·.1)

/-- The position of the first of `words` that is `token` up to ASCII case. -/
def position? (words : List String) (token : String) : Option Nat :=
  words.findIdx? (Text.sameWord · token)

def find? (v : Vocabulary α) (token : String) : Option α :=
  (v.entries.find? fun entry => Text.sameWord entry.1 token).map (·.2)

def resolve (v : Vocabulary α) : Option String → Except Fault α
  | none => .error (.parse
      ("missing " ++ v.slot ++ " (" ++ String.intercalate "|" v.words ++ ")"))
  | some token =>
    match v.find? token with
    | some meaning => .ok meaning
    | none => .error (.parse ("unknown " ++ v.slot ++ ": " ++ token))

end Vocabulary

end Instrument
