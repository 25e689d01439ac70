import Instrument.Command.Words
import Instrument.Numeral
import Instrument.PinTable
import Instrument.Proofs.LineGrammar

/-!
# Texts that stay on one line

The host tells the lines of a reply by their ends, so no text that is sent may hold a carriage
return or a line feed. The words of a line hold no blanks, and the faults that quote them are texts
of one line.
-/

namespace Instrument

namespace Text

/-- No character of the text ends a line. -/
def OneLine (s : String) : Prop :=
  '\r' ∉ s.toList ∧ '\n' ∉ s.toList

instance (s : String) : Decidable (OneLine s) :=
  inferInstanceAs (Decidable (_ ∧ _))

lemma oneLine_append {a b : String} : OneLine (a ++ b) ↔ OneLine a ∧ OneLine b := by
  simp only [OneLine, String.toList_append, List.mem_append]
  tauto

lemma oneLine_of_chars {s : String} (h : ∀ c ∈ s.toList, c ≠ '\r' ∧ c ≠ '\n') : OneLine s :=
  ⟨fun hc => (h _ hc).1 rfl, fun hc => (h _ hc).2 rfl⟩

lemma oneLine_ofList {chars : List Char}
    (h : chars.all (fun c => c != '\r' && c != '\n') = true) : OneLine (String.ofList chars) := by
  apply oneLine_of_chars
  intro c hc
  rw [String.toList_ofList] at hc
  simpa using List.all_eq_true.1 h c hc

lemma oneLine_of_not_blank {s : String} (h : ∀ c ∈ s.toList, isBlank c = false) : OneLine s := by
  apply oneLine_of_chars
  intro c hc
  have hb := h c hc
  constructor
  · rintro rfl
    cases hb
  · rintro rfl
    cases hb

lemma oneLine_intercalate {sep : String} {words : List String} (hs : OneLine sep)
    (hw : ∀ word ∈ words, OneLine word) : OneLine (String.intercalate sep words) := by
  induction words with
  | nil =>
    rw [String.intercalate_nil]
    decide
  | cons word rest ih =>
    have hword := hw word List.mem_cons_self
    have hrest := ih fun w hmem => hw w (List.mem_cons_of_mem _ hmem)
    cases rest with
    | nil => rwa [String.intercalate_singleton]
    | cons next rest =>
      rw [String.intercalate_cons_cons, oneLine_append, oneLine_append]
      exact ⟨⟨hword, hs⟩, hrest⟩

lemma oneLine_toString (n : Nat) : OneLine (toString n) := by
  apply oneLine_of_chars
  intro c hc
  rw [Nat.toString_eq_repr, Nat.toList_repr] at hc
  have hdigit : c.isDigit = true := Nat.isDigit_of_mem_toDigits (by omega) (by omega) hc
  constructor
  · rintro rfl
    cases hdigit
  · rintro rfl
    cases hdigit

/-- Only a capital changes, and it changes to a small letter. -/
lemma eq_of_toLower_eq {c d : Char} (h : c.toLower = d) (hd : d.toNat < 97) : c = d := by
  unfold Char.toLower at h
  split at h
  · next hupper =>
    have hval : (c.val + 32).toNat = d.toNat := congrArg Char.toNat h
    have hlow : 65 ≤ c.val.toNat := UInt32.le_iff_toNat_le.1 hupper.1
    have hhigh : c.val.toNat ≤ 90 := UInt32.le_iff_toNat_le.1 hupper.2
    rw [UInt32.toNat_add, Nat.mod_eq_of_lt] at hval
    · have h32 : (32 : UInt32).toNat = 32 := rfl
      omega
    · have h32 : (32 : UInt32).toNat = 32 := rfl
      omega
  · exact h

lemma oneLine_fold {s : String} (h : OneLine s) : OneLine (fold s) := by
  apply oneLine_of_chars
  intro c hc
  rw [fold, String.toList_ofList] at hc
  obtain ⟨d, hd, rfl⟩ := List.mem_map.1 hc
  constructor
  · intro hlower
    exact h.1 (eq_of_toLower_eq hlower (by decide) ▸ hd)
  · intro hlower
    exact h.2 (eq_of_toLower_eq hlower (by decide) ▸ hd)

/-- No character of a piece separates pieces, and all of them stem from the text. -/
lemma mem_of_mem_splitBy {sep : Char → Bool} {s piece : List Char} (h : piece ∈ splitBy sep s)
    {c : Char} (hc : c ∈ piece) : c ∈ s ∧ sep c = false := by
  induction s generalizing piece with
  | nil =>
    rw [splitBy, List.mem_singleton] at h
    subst h
    cases hc
  | cons d ds ih =>
    rw [splitBy] at h
    split at h
    · rcases List.mem_cons.1 h with rfl | h
      · cases hc
      · obtain ⟨hmem, hsep⟩ := ih h hc
        exact ⟨List.mem_cons_of_mem _ hmem, hsep⟩
    · next hd =>
      cases hs : splitBy sep ds with
      | nil => exact absurd hs (splitBy_ne_nil sep ds)
      | cons first rest =>
        rw [hs, List.modifyHead_cons, List.mem_cons] at h
        rw [hs] at ih
        rcases h with rfl | h
        · rcases List.mem_cons.1 hc with rfl | hc
          · exact ⟨List.mem_cons_self, by simpa using hd⟩
          · obtain ⟨hmem, hsep⟩ := ih List.mem_cons_self hc
            exact ⟨List.mem_cons_of_mem _ hmem, hsep⟩
        · obtain ⟨hmem, hsep⟩ := ih (List.mem_cons_of_mem _ h) hc
          exact ⟨List.mem_cons_of_mem _ hmem, hsep⟩

lemma mem_of_mem_pieces {sep : Char → Bool} {s piece : List Char} (h : piece ∈ pieces sep s)
    {c : Char} (hc : c ∈ piece) : c ∈ s ∧ sep c = false :=
  mem_of_mem_splitBy (List.mem_of_mem_filter h) hc

lemma oneLine_of_mem_words {s piece : List Char} (h : piece ∈ words s) :
    OneLine (String.ofList piece) := by
  apply oneLine_of_not_blank
  intro c hc
  rw [String.toList_ofList] at hc
  exact (mem_of_mem_pieces h hc).2

end Text

open Text

def Fault.OneLine (fault : Fault) : Prop :=
  Text.OneLine fault.message

instance (fault : Fault) : Decidable fault.OneLine :=
  inferInstanceAs (Decidable (Text.OneLine fault.message))

lemma Fault.oneLine_parse {text : String} : (parse text).OneLine ↔ Text.OneLine text :=
  oneLine_append.trans (and_iff_right (oneLine_ofList rfl))

lemma Fault.oneLine_argument {text : String} : (argument text).OneLine ↔ Text.OneLine text :=
  oneLine_append.trans (and_iff_right (oneLine_ofList rfl))

lemma Fault.oneLine_notReady {text : String} : (notReady text).OneLine ↔ Text.OneLine text :=
  oneLine_append.trans (and_iff_right (oneLine_ofList rfl))

namespace Vocabulary

structure OneLine {α : Type} (v : Vocabulary α) : Prop where
  slot : Text.OneLine v.slot
  words : ∀ word ∈ v.words, Text.OneLine word

lemma oneLine_gpioActions : gpioActions.OneLine :=
  ⟨oneLine_ofList rfl, by decide⟩

lemma oneLine_directions : directions.OneLine :=
  ⟨oneLine_ofList rfl, by decide⟩

lemma oneLine_senses : senses.OneLine :=
  ⟨oneLine_ofList rfl, by decide⟩

lemma oneLine_ports : ports.OneLine :=
  ⟨oneLine_ofList rfl, by decide⟩

lemma oneLine_pads : pads.OneLine :=
  ⟨oneLine_ofList rfl, by decide⟩

lemma oneLine_adcActions : adcActions.OneLine :=
  ⟨oneLine_ofList rfl, by decide⟩

lemma oneLine_sampleTypes : sampleTypes.OneLine :=
  ⟨oneLine_ofList rfl, by decide⟩

lemma oneLine_dacActions : dacActions.OneLine :=
  ⟨oneLine_ofList rfl, by decide⟩

lemma oneLine_dacChannels : dacChannels.OneLine :=
  ⟨oneLine_ofList rfl, by decide⟩

end Vocabulary

namespace Line

variable {line : Line}

/-- No word of the line breaks the line of a reply. -/
structure OneLine (line : Line) : Prop where
  command : ∀ word ∈ line.command, Text.OneLine word
  data : ∀ word ∈ line.data, Text.OneLine word

lemma oneLine_commandWords (path : List Char) :
    ∀ word ∈ commandWords (path.filter fun c => !isBlank c), Text.OneLine word := by
  intro word hword
  obtain ⟨piece, hpiece, rfl⟩ := List.mem_map.1 hword
  apply oneLine_of_not_blank
  intro c hc
  rw [String.toList_ofList] at hc
  simpa using (List.mem_filter.1 (mem_of_mem_pieces hpiece hc).1).2

lemma oneLine_dataWords (inner : List Char) : ∀ word ∈ dataWords inner, Text.OneLine word := by
  intro word hword
  obtain ⟨piece, hpiece, rfl⟩ := List.mem_map.1 hword
  exact oneLine_of_mem_words hpiece

lemma Spells.oneLine {limits : Limits} {t path inner : List Char}
    (h : Spells limits t path inner line) : line.OneLine where
  command word hword := by
    rw [h.command, ← commandWords_eq] at hword
    exact oneLine_commandWords path word hword
  data word hword := by
    rw [h.data, ← dataWords_eq] at hword
    exact oneLine_dataWords inner word hword

lemma oneLine_of_read {limits : Limits} {text : String}
    (h : read limits text = .ok (some line)) : line.OneLine := by
  rw [read, readInto_fst] at h
  split at h
  · cases h
  · split at h
    · cases h
    · cases hread : (ofTrimmed limits (trim (dropTrailing isTerminator text.toList)) []).1 with
      | error d =>
        rw [hread] at h
        cases h
      | ok line' =>
        rw [hread] at h
        cases h
        obtain ⟨path, inner, hspells⟩ := (ofTrimmed_fst_eq_ok_iff (dropTrailing_trim _) []).1 hread
        exact hspells.oneLine

lemma OneLine.word {i : Nat} {word : String} (h : line.OneLine)
    (hi : line.command[i]? = some word) : Text.OneLine word :=
  h.command word (List.mem_of_getElem? hi)

lemma OneLine.render (h : line.OneLine) : Text.OneLine line.render := by
  have hpath : Text.OneLine (String.intercalate ":" line.command) :=
    oneLine_intercalate (oneLine_ofList rfl) h.command
  unfold Line.render
  dsimp only
  split
  · exact hpath
  · have hdata : Text.OneLine (String.intercalate " " line.data) :=
      oneLine_intercalate (oneLine_ofList rfl) h.data
    simp only [oneLine_append]
    exact ⟨⟨⟨hpath, oneLine_ofList rfl⟩, hdata⟩, oneLine_ofList rfl⟩

lemma Defect.oneLine_fault (d : Defect) : d.fault.OneLine := by
  rw [Defect.fault, Fault.oneLine_parse]
  have hbound : ∀ (before after : String) (n : Nat), Text.OneLine before → Text.OneLine after →
      Text.OneLine (before ++ toString n ++ after) := by
    intro before after n hbefore hafter
    rw [oneLine_append, oneLine_append]
    exact ⟨⟨hbefore, oneLine_toString n⟩, hafter⟩
  cases d with
  | tooLong max => exact hbound _ _ max (oneLine_ofList rfl) (oneLine_ofList rfl)
  | noCommand => exact oneLine_ofList rfl
  | unclosed => exact oneLine_ofList rfl
  | unbalanced => exact oneLine_ofList rfl
  | tooManyCommandTokens max => exact hbound _ _ max (oneLine_ofList rfl) (oneLine_ofList rfl)
  | tooManyDataTokens max => exact hbound _ _ max (oneLine_ofList rfl) (oneLine_ofList rfl)

lemma oneLine_expectNoMore (h : line.OneLine) {used : Nat} {fault : Fault}
    (he : line.expectNoMore used = .error fault) : fault.OneLine := by
  unfold expectNoMore at he
  split at he
  · next extra hextra =>
    cases he
    rw [Fault.oneLine_parse, oneLine_append]
    exact ⟨oneLine_ofList rfl, h.word hextra⟩
  · cases he

lemma oneLine_expectData {n : Nat} {fault : Fault} (he : line.expectData n = .error fault) :
    fault.OneLine := by
  unfold expectData at he
  split at he
  · cases he
  · cases he
    simp only [Fault.oneLine_argument, oneLine_append]
    exact ⟨⟨⟨oneLine_ofList rfl, oneLine_toString n⟩, oneLine_ofList rfl⟩, oneLine_toString _⟩

/-- A word at a place that a vocabulary is for is missing or unknown. -/
lemma oneLine_resolve {α : Type} {v : Vocabulary α} (hv : v.OneLine) (h : line.OneLine) {i : Nat}
    {fault : Fault} (he : v.resolve line.command[i]? = .error fault) : fault.OneLine := by
  cases hi : line.command[i]? with
  | none =>
    rw [hi] at he
    cases he
    simp only [Fault.oneLine_parse, oneLine_append]
    have hlist : Text.OneLine (String.intercalate "|" v.words) :=
      oneLine_intercalate (oneLine_ofList rfl) hv.words
    exact ⟨⟨⟨⟨oneLine_ofList rfl, hv.slot⟩, oneLine_ofList rfl⟩, hlist⟩, oneLine_ofList rfl⟩
  | some token =>
    rw [hi, Vocabulary.resolve] at he
    split at he
    · cases he
    · cases he
      simp only [Fault.oneLine_parse, oneLine_append]
      exact ⟨⟨⟨oneLine_ofList rfl, hv.slot⟩, oneLine_ofList rfl⟩, h.word hi⟩

end Line

lemma Numeral.Defect.oneLine_fault {token : String} (h : Text.OneLine token) (d : Defect) :
    (d.fault token).OneLine := by
  rw [Defect.fault, Fault.oneLine_argument]
  cases d with
  | malformed => exact oneLine_append.2 ⟨oneLine_ofList rfl, h⟩
  | tooLarge => exact oneLine_append.2 ⟨oneLine_ofList rfl, h⟩
  | outside min max =>
    change Text.OneLine (token ++ " out of range [" ++ toString min ++ ", " ++ toString max ++ "]")
    simp only [oneLine_append]
    exact ⟨⟨⟨⟨⟨h, oneLine_ofList rfl⟩, oneLine_toString min⟩, oneLine_ofList rfl⟩,
      oneLine_toString max⟩, oneLine_ofList rfl⟩

lemma Pin.oneLine_name (pin : Pin) : Text.OneLine pin.name := by
  simp only [Pin.name, oneLine_append]
  refine ⟨⟨oneLine_ofList rfl, ?_⟩, oneLine_toString _⟩
  cases pin.port <;> decide

lemma Subsystem.oneLine_name (s : Subsystem) : Text.OneLine s.name := by
  cases s <;> exact oneLine_ofList rfl

lemma Subsystem.oneLine_ownerName (owner : Option Subsystem) : Text.OneLine (ownerName owner) := by
  cases owner with
  | none => exact oneLine_ofList rfl
  | some s => exact s.oneLine_name

lemma PadMode.oneLine_text (mode : PadMode) : Text.OneLine mode.text := by
  rcases mode with ⟨_ | _ | _⟩ | _ | _ | function
  · decide
  · decide
  · decide
  · decide
  · decide
  · rw [text, oneLine_append]
    exact ⟨oneLine_ofList rfl, oneLine_toString _⟩

lemma Fault.oneLine_conflict (pin : Pin) (owner : Option Subsystem) (s : Subsystem) :
    (conflict pin.name (Subsystem.ownerName owner) s.name).OneLine := by
  change Text.OneLine ("resource conflict: " ++ pin.name ++ " owned by " ++
    Subsystem.ownerName owner ++ ", requested by " ++ s.name)
  simp only [oneLine_append]
  exact ⟨⟨⟨⟨⟨oneLine_ofList rfl, pin.oneLine_name⟩, oneLine_ofList rfl⟩,
    Subsystem.oneLine_ownerName owner⟩, oneLine_ofList rfl⟩, s.oneLine_name⟩

namespace PinTable

variable {t : PinTable} {pin : Pin} {fault : Fault}

lemma oneLine_row (h : t.row pin = .error fault) : fault.OneLine := by
  unfold row at h
  split at h
  · cases h
  · cases h
    simp only [Fault.oneLine_argument, oneLine_append]
    exact ⟨⟨oneLine_ofList rfl, pin.oneLine_name⟩, oneLine_ofList rfl⟩

lemma oneLine_claim {mode : PadMode} {s : Subsystem} (h : t.claim pin mode s = .error fault) :
    fault.OneLine := by
  unfold claim at h
  cases hrow : t.row pin with
  | error fault' =>
    rw [hrow] at h
    cases h
    exact oneLine_row hrow
  | ok row =>
    simp only [hrow] at h
    split at h
    · cases h
    · cases h
      exact Fault.oneLine_conflict pin row.owner s

lemma oneLine_claimFrom {mode : PadMode} {s : Subsystem} {taken pins : List Pin}
    (h : ((claimFrom mode s taken pins).exec t).1 = .error fault) : fault.OneLine := by
  induction pins generalizing taken t with
  | nil => cases h
  | cons pin pins ih =>
    unfold claimFrom Act.exec at h
    cases hc : t.claim pin mode s with
    | error fault' =>
      simp only [hc] at h
      cases h
      exact oneLine_claim hc
    | ok t' =>
      simp only [hc] at h
      exact ih h

end PinTable

end Instrument
