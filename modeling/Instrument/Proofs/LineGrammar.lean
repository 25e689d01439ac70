import Instrument.Line
import Mathlib.Data.List.DropRight
import Mathlib.Tactic.Lemma

/-!
# The grammar of lines

A text without blanks at its ends is a line when it is a path alone, or a path and data words in
one pair of parentheses. `Spells` says so in terms of the text, and the reader answers a line for
exactly the texts that spell it, whatever its buffer held before.
-/

namespace Instrument

open Text

lemma Text.splitBy_eq_splitOnP (sep : Char → Bool) (s : List Char) :
    splitBy sep s = s.splitOnP sep := by
  induction s with
  | nil => rfl
  | cons c cs ih => rw [splitBy, ih, List.splitOnP_cons_eq_if_modifyHead]

namespace Line

variable {limits : Limits} {t path inner : List Char} {line : Line}

/-- The text `t` is the path, or the path and the inside in parentheses, and the words of the two
make the line. -/
structure Spells (limits : Limits) (t path inner : List Char) (line : Line) : Prop where
  shape : t = path ∧ inner = [] ∨ t = path ++ '(' :: (inner ++ [')'])
  no_parens : ∀ c ∈ path ++ inner, c ≠ '(' ∧ c ≠ ')'
  command : line.command = (((path.filter fun c => !isBlank c).splitOnP (· == ':')).filter
    fun word => !word.isEmpty).map String.ofList
  data : line.data = ((inner.splitOnP isBlank).filter fun word => !word.isEmpty).map String.ofList
  one_le_command : 1 ≤ line.command.length
  command_le : line.command.length ≤ limits.maxCommandTokens
  data_le : line.data.length ≤ limits.maxDataTokens

lemma isParen_iff {c : Char} : isParen c = true ↔ c = '(' ∨ c = ')' := by
  simp [isParen]

lemma any_isParen_eq_false_iff {s : List Char} :
    s.any isParen = false ↔ ∀ c ∈ s, c ≠ '(' ∧ c ≠ ')' := by
  simp [List.any_eq_false, isParen]

lemma takeWhile_append_paren (h : ∀ c ∈ path, c ≠ '(') (rest : List Char) :
    (path ++ '(' :: rest).takeWhile (· != '(') = path := by
  rw [List.takeWhile_append_of_pos (by simpa using h)]
  simp

lemma dropWhile_append_paren (h : ∀ c ∈ path, c ≠ '(') (rest : List Char) :
    (path ++ '(' :: rest).dropWhile (· != '(') = '(' :: rest := by
  rw [List.dropWhile_append_of_pos (by simpa using h)]
  simp

lemma unclose?_concat (inner : List Char) : unclose? (inner ++ [')']) = some inner := by
  simp [unclose?]

lemma eq_concat_of_unclose? {s : List Char} (h : unclose? s = some inner) :
    s = inner ++ [')'] := by
  unfold unclose? at h
  split at h
  · next hlast =>
    obtain ⟨front, rfl⟩ := List.getLast?_eq_some_iff.1 hlast
    simpa using h
  · cases h

lemma sections_of_shape (hs : t = path ∧ inner = [] ∨ t = path ++ '(' :: (inner ++ [')']))
    (hp : ∀ c ∈ path ++ inner, c ≠ '(' ∧ c ≠ ')') : sections t = .ok (path, inner) := by
  have hpath : path.any isParen = false :=
    any_isParen_eq_false_iff.2 fun c hc => hp c (List.mem_append_left inner hc)
  have hinner : inner.any isParen = false :=
    any_isParen_eq_false_iff.2 fun c hc => hp c (List.mem_append_right path hc)
  have hopen : ∀ c ∈ path, c ≠ '(' := fun c hc => (hp c (List.mem_append_left inner hc)).1
  rcases hs with ⟨rfl, rfl⟩ | rfl
  · have htake : t.takeWhile (· != '(') = t := by simpa using hopen
    have hdrop : t.dropWhile (· != '(') = [] := by simpa using hopen
    simp only [sections, htake, hdrop, hpath, Bool.false_eq_true, if_false]
  · have htrim : dropTrailing isBlank (inner ++ [')']) = inner ++ [')'] :=
      List.rdropWhile_concat_neg isBlank inner ')' (by decide)
    simp only [sections, takeWhile_append_paren hopen, dropWhile_append_paren hopen, htrim,
      unclose?_concat, hinner, hpath, Bool.false_eq_true, or_self, if_false]

/-- A text without a blank at its end has none at the end of what follows its path. -/
lemma dropTrailing_of_append (front : List Char) {rest : List Char}
    (h : dropTrailing isBlank (front ++ rest) = front ++ rest) :
    dropTrailing isBlank rest = rest := by
  apply List.rdropWhile_eq_self_iff.2
  intro hrest
  have hlast := List.rdropWhile_eq_self_iff.1 h (List.append_ne_nil_of_right_ne_nil front hrest)
  rwa [List.getLast_append_of_right_ne_nil front rest hrest] at hlast

/-- The text of a path that is cut off has one of the two shapes, if no blank stands at its end. -/
lemma shape_of_sections (ht : dropTrailing isBlank t = t) (h : sections t = .ok (path, inner)) :
    (t = path ∧ inner = [] ∨ t = path ++ '(' :: (inner ++ [')'])) ∧
      ∀ c ∈ path ++ inner, c ≠ '(' ∧ c ≠ ')' := by
  have hcut : t.takeWhile (· != '(') ++ t.dropWhile (· != '(') = t :=
    List.takeWhile_append_dropWhile
  unfold sections at h
  cases hdrop : t.dropWhile (· != '(') with
  | nil =>
    simp only [hdrop] at h hcut
    split at h
    · cases h
    · next hany =>
      cases h
      rw [List.append_nil] at hcut ⊢
      exact ⟨.inl ⟨hcut.symm, rfl⟩, any_isParen_eq_false_iff.1 (by simpa using hany)⟩
  | cons c rest =>
    have hc : c = '(' := by
      have hhead := List.head?_dropWhile_not (· != '(') t
      rw [hdrop] at hhead
      simpa using hhead
    subst hc
    rw [hdrop] at hcut
    have htrim : dropTrailing isBlank rest = rest := by
      apply dropTrailing_of_append (t.takeWhile (· != '(') ++ ['('])
      rw [List.append_assoc, List.singleton_append, hcut, ht]
    simp only [hdrop, htrim] at h
    cases hu : unclose? rest with
    | none =>
      simp only [hu] at h
      cases h
    | some inside =>
      simp only [hu] at h
      split at h
      · cases h
      · next hany =>
        cases h
        rw [not_or, Bool.not_eq_true, Bool.not_eq_true, any_isParen_eq_false_iff,
          any_isParen_eq_false_iff] at hany
        refine ⟨.inr ?_, ?_⟩
        · rw [← eq_concat_of_unclose? hu, hcut]
        · intro c hc
          rcases List.mem_append.1 hc with hc | hc
          · exact hany.2 c hc
          · exact hany.1 c hc

lemma ofWords_eq_ok_iff {command data : List String} : ofWords limits command data = .ok line ↔
    line = ⟨command, data⟩ ∧ 1 ≤ command.length ∧ command.length ≤ limits.maxCommandTokens ∧
      data.length ≤ limits.maxDataTokens := by
  unfold ofWords
  cases command with
  | nil => simp
  | cons word rest =>
    simp only [List.isEmpty_cons, Bool.false_eq_true, if_false]
    split
    · next hlong => exact ⟨nofun, fun h => by omega⟩
    · split
      · next hlong => exact ⟨nofun, fun h => by omega⟩
      · next hc hd =>
        rw [Except.ok.injEq, eq_comm]
        simp only [List.length_cons] at hc ⊢
        exact ⟨fun h => ⟨h, by omega, by omega, by omega⟩, And.left⟩

/-- The words are cut out of what was written last, so what the buffer held before is of no
account. -/
lemma ofSections_fst (limits : Limits) (path inner scratch : List Char) :
    (ofSections limits path inner scratch).1 =
      ofWords limits (commandWords (path.filter fun c => !isBlank c)) (dataWords inner) := by
  have hexec : (ofSections limits path inner scratch).1 =
      let buffer := (path.filter fun c => !isBlank c) ++ inner
      let split := (path.filter fun c => !isBlank c).length
      ofWords limits (commandWords (buffer.splitAt split).1)
        (dataWords (buffer.splitAt split).2) := rfl
  rw [hexec]
  simp only [List.splitAt_eq, List.take_left, List.drop_left]

lemma commandWords_eq (path : List Char) : commandWords path =
    ((path.splitOnP (· == ':')).filter fun word => !word.isEmpty).map String.ofList := by
  rw [commandWords, pieces, splitBy_eq_splitOnP]

lemma dataWords_eq (inner : List Char) : dataWords inner =
    ((inner.splitOnP isBlank).filter fun word => !word.isEmpty).map String.ofList := by
  rw [dataWords, words, pieces, splitBy_eq_splitOnP]

lemma ofSections_fst_eq_ok_iff {scratch : List Char}
    (hs : t = path ∧ inner = [] ∨ t = path ++ '(' :: (inner ++ [')']))
    (hp : ∀ c ∈ path ++ inner, c ≠ '(' ∧ c ≠ ')') :
    (ofSections limits path inner scratch).1 = .ok line ↔ Spells limits t path inner line := by
  rw [ofSections_fst, ofWords_eq_ok_iff, commandWords_eq, dataWords_eq]
  constructor
  · rintro ⟨rfl, hone, hcommand, hdata⟩
    exact ⟨hs, hp, rfl, rfl, hone, hcommand, hdata⟩
  · intro h
    refine ⟨?_, h.command ▸ h.one_le_command, h.command ▸ h.command_le, h.data ▸ h.data_le⟩
    cases line
    rw [mk.injEq]
    exact ⟨h.command, h.data⟩

/-! ## Lines -/

/-- A line has a command word, so its text does not open with a parenthesis. -/
lemma Spells.head_not_paren (h : Spells limits t path inner line) :
    t.head?.any isParen = false := by
  cases path with
  | nil =>
    have hnone : line.command = [] := h.command
    have hone := h.one_le_command
    rw [hnone] at hone
    cases hone
  | cons c path =>
    have hc := h.no_parens c (by simp)
    have hhead : t.head? = some c := by
      rcases h.shape with ⟨rfl, -⟩ | rfl <;> rfl
    rw [hhead, Option.any_some, ← Bool.not_eq_true, isParen_iff]
    tauto

lemma ofTrimmed_fst_eq_ok_iff (ht : dropTrailing isBlank t = t) (scratch : List Char) :
    (ofTrimmed limits t scratch).1 = .ok line ↔
      ∃ path inner, Spells limits t path inner line := by
  constructor
  · intro h
    unfold ofTrimmed at h
    split at h
    · cases h
    · cases hs : sections t with
      | error d =>
        simp only [hs] at h
        cases h
      | ok cut =>
        obtain ⟨path, inner⟩ := cut
        simp only [hs] at h
        obtain ⟨hshape, hparens⟩ := shape_of_sections ht hs
        exact ⟨path, inner, (ofSections_fst_eq_ok_iff hshape hparens).1 h⟩
  · rintro ⟨path, inner, h⟩
    have hhead : ¬(t.head?.any isParen = true) := by simp [h.head_not_paren]
    have hs := sections_of_shape h.shape h.no_parens
    simp only [ofTrimmed, if_neg hhead, hs]
    exact (ofSections_fst_eq_ok_iff h.shape h.no_parens).2 h

lemma not_spells_nil : ¬Spells limits [] path inner line := by
  intro h
  have hpath : path = [] := by
    rcases h.shape with ⟨hp, -⟩ | hp
    · exact hp.symm
    · simp at hp
  have hnone : line.command = [] := by rw [h.command, hpath]; rfl
  have hone := h.one_le_command
  rw [hnone] at hone
  cases hone

lemma ofTrimmed_fst_ne_tooLong (limits : Limits) (t scratch : List Char) (max : Nat) :
    (ofTrimmed limits t scratch).1 ≠ .error (.tooLong max) := by
  unfold ofTrimmed
  split
  · exact nofun
  · cases hs : sections t with
    | error d =>
      rintro ⟨rfl⟩
      unfold sections at hs
      dsimp only at hs
      split at hs
      · split at hs <;> cases hs
      · split at hs
        · cases hs
        · split at hs <;> cases hs
    | ok cut =>
      intro h
      change (ofSections limits cut.1 cut.2 scratch).1 = _ at h
      rw [ofSections_fst, ofWords] at h
      split at h
      · cases h
      · split at h
        · cases h
        · split at h <;> cases h

lemma dropTrailing_trim (s : List Char) : dropTrailing isBlank (trim s) = trim s :=
  List.rdropWhile_idempotent isBlank (s.dropWhile isBlank)

lemma readInto_fst (limits : Limits) (text : String) (scratch : List Char) :
    (readInto limits text scratch).1 =
      if limits.maxLineChars < (dropTrailing isTerminator text.toList).length then
        .error (.tooLong limits.maxLineChars)
      else if (trim (dropTrailing isTerminator text.toList)).isEmpty then .ok none
      else ((ofTrimmed limits (trim (dropTrailing isTerminator text.toList)) scratch).1).map
        some := by
  unfold readInto
  dsimp only
  split
  · rfl
  · split <;> rfl

/-- Reading a line, with any limits and whatever the buffer held before. `s` is the text without
its line terminator and `t` what is left of it without blanks at the ends. A text that is too long
is refused; else a blank one is passed over, a text of the grammar gives its words, and every other
one is refused as malformed. -/
theorem readInto_grammar (limits : Limits) (text : String) (scratch : List Char) :
    let s := text.toList.rdropWhile fun c => c == '\r' || c == '\n'
    let t := (s.dropWhile isBlank).rdropWhile isBlank
    let answer := (readInto limits text scratch).1
    (limits.maxLineChars < s.length → answer = .error (.tooLong limits.maxLineChars)) ∧
    (s.length ≤ limits.maxLineChars →
      (answer = .ok none ↔ t = []) ∧
      (∀ line, answer = .ok (some line) ↔ ∃ path inner, Spells limits t path inner line) ∧
      (t ≠ [] → (¬∃ line path inner, Spells limits t path inner line) →
        ∃ d : Defect, answer = .error d ∧ (∀ max, d ≠ .tooLong max) ∧
          d.fault = .parse d.message)) := by
  intro s t answer
  have hanswer : answer = if limits.maxLineChars < s.length then
      .error (.tooLong limits.maxLineChars)
    else if t.isEmpty then .ok none else ((ofTrimmed limits t scratch).1).map some :=
    readInto_fst limits text scratch
  have ht : dropTrailing isBlank t = t := dropTrailing_trim s
  refine ⟨fun hlong => by rw [hanswer, if_pos hlong], fun hshort => ?_⟩
  rw [if_neg (Nat.not_lt.2 hshort)] at hanswer
  by_cases hblank : t = []
  · rw [if_pos (List.isEmpty_iff.2 hblank)] at hanswer
    refine ⟨iff_of_true hanswer hblank, fun line => ?_, fun hne => absurd hblank hne⟩
    rw [hanswer, hblank]
    exact iff_of_false nofun fun ⟨path, inner, h⟩ => not_spells_nil h
  · rw [if_neg (mt List.isEmpty_iff.1 hblank)] at hanswer
    cases hread : (ofTrimmed limits t scratch).1 with
    | error d =>
      rw [hread, Except.map] at hanswer
      have hnone : ∀ line, ¬∃ path inner, Spells limits t path inner line := by
        intro line h
        rw [(ofTrimmed_fst_eq_ok_iff ht scratch).2 h] at hread
        cases hread
      refine ⟨iff_of_false (by rw [hanswer]; exact nofun) hblank, fun line => ?_, fun _ _ => ?_⟩
      · exact iff_of_false (by rw [hanswer]; exact nofun) (hnone line)
      · refine ⟨d, hanswer, fun max hd => ?_, rfl⟩
        exact ofTrimmed_fst_ne_tooLong limits t scratch max (hread.trans (congrArg _ hd))
    | ok line =>
      rw [hread, Except.map] at hanswer
      refine ⟨iff_of_false (by rw [hanswer]; exact nofun) hblank, fun line' => ?_, ?_⟩
      · rw [← ofTrimmed_fst_eq_ok_iff ht scratch, hread, hanswer]
        simp
      · exact fun _ hno => absurd ⟨line, (ofTrimmed_fst_eq_ok_iff ht scratch).1 hread⟩ hno

end Line

end Instrument
