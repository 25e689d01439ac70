/-!
Comparison of words without regard to case. Only the letters of ASCII have two cases here: a
letter outside ASCII is compared as it stands.
-/

namespace Instrument.Text

/-- The word with the capitals of ASCII in lower case. -/
def fold (s : String) : String :=
  String.ofList (s.toList.map Char.toLower)

def sameWord (a b : String) : Bool :=
  fold a == fold b

end Instrument.Text
