import Instrument.Proofs.OneLine
import Instrument.Registry

/-!
# Lines and their canonical texts

The canonical text of a line spells the line again: the words are joined by the separators at which
the reader cuts, and none of them holds one. No text of a line is shorter than its canonical one,
so the bound on the length of a text does not stand in the way.
-/

namespace Instrument

namespace Text

lemma mem_intercalate {x c : Char} {ws : List (List Char)} (h : c ∈ [x].intercalate ws) :
    c = x ∨ ∃ w ∈ ws, c ∈ w := by
  induction ws with
  | nil => cases h
  | cons w rest ih =>
    cases rest with
    | nil =>
      rw [List.intercalate_singleton] at h
      exact .inr ⟨w, List.mem_cons_self, h⟩
    | cons v rest =>
      rw [List.intercalate_cons_cons, List.append_assoc, List.mem_append, List.mem_append,
        List.mem_singleton] at h
      rcases h with hw | hx | hrest
      · exact .inr ⟨w, List.mem_cons_self, hw⟩
      · exact .inl hx
      · rcases ih hrest with hx | ⟨u, hu, hc⟩
        · exact .inl hx
        · exact .inr ⟨u, List.mem_cons_of_mem w hu, hc⟩

/-- Joined words are cut apart again at the separators between them. -/
lemma pieces_intercalate {sep : Char → Bool} {x : Char} (hx : sep x = true)
    {ws : List (List Char)} (hne : ∀ w ∈ ws, w ≠ [])
    (hws : ∀ w ∈ ws, ∀ c ∈ w, sep c = false) : pieces sep ([x].intercalate ws) = ws := by
  induction ws with
  | nil => rfl
  | cons w rest ih =>
    have hkeep : ∀ l, (w :: l).filter (fun piece => !piece.isEmpty) =
        w :: l.filter fun piece => !piece.isEmpty := by
      intro l
      simp [hne w List.mem_cons_self]
    have hclear : ∀ c ∈ w, sep c = false := hws w List.mem_cons_self
    have hrest := ih (fun v hv => hne v (List.mem_cons_of_mem w hv))
      fun v hv => hws v (List.mem_cons_of_mem w hv)
    rw [pieces, splitBy_eq_splitOnP] at hrest ⊢
    cases rest with
    | nil =>
      rw [List.intercalate_singleton, List.splitOnP_eq_singleton hclear, hkeep, List.filter_nil]
    | cons v rest =>
      rw [List.intercalate_cons_cons, List.append_assoc, List.singleton_append,
        List.splitOnP_append_cons_of_forall_mem hclear x hx, hkeep, hrest]

lemma pieces_intercalate_toList {sep : Char → Bool} {x : Char} (hx : sep x = true)
    {words : List String} (hne : ∀ word ∈ words, word ≠ "")
    (hclear : ∀ word ∈ words, ∀ c ∈ word.toList, sep c = false) :
    pieces sep ([x].intercalate (words.map String.toList)) = words.map String.toList := by
  apply pieces_intercalate hx
  · intro w hw
    obtain ⟨word, hword, rfl⟩ := List.mem_map.1 hw
    exact fun he => hne word hword (String.toList_inj.1 he)
  · intro w hw
    obtain ⟨word, hword, rfl⟩ := List.mem_map.1 hw
    exact hclear word hword

lemma length_intercalate (x : Char) {ws : List (List Char)} (hne : ws ≠ []) :
    ([x].intercalate ws).length + 1 = ws.flatten.length + ws.length := by
  induction ws with
  | nil => exact absurd rfl hne
  | cons w rest ih =>
    cases rest with
    | nil => simp
    | cons v rest =>
      have hrest := ih (List.cons_ne_nil v rest)
      rw [List.intercalate_cons_cons]
      simp only [List.flatten_cons, List.length_append, List.length_cons, List.length_nil]
        at hrest ⊢
      omega

/-- Every character is in a stretch or ends one. -/
lemma length_splitBy (sep : Char → Bool) (s : List Char) :
    (splitBy sep s).flatten.length + (splitBy sep s).length = s.length + 1 := by
  induction s with
  | nil => rfl
  | cons c cs ih =>
    rw [splitBy]
    split
    · simp only [List.flatten_cons, List.nil_append, List.length_cons]
      omega
    · cases hs : splitBy sep cs with
      | nil => exact absurd hs (splitBy_ne_nil sep cs)
      | cons first rest =>
        rw [hs] at ih
        simp only [List.modifyHead_cons, List.flatten_cons, List.length_append,
          List.length_cons] at ih ⊢
        omega

/-- Words joined by single separators take no more room than the text that they were cut from. -/
lemma length_intercalate_pieces_le (sep : Char → Bool) (x : Char) (s : List Char) :
    ([x].intercalate (pieces sep s)).length ≤ s.length := by
  by_cases hnone : pieces sep s = []
  · rw [hnone]
    exact Nat.zero_le _
  · have hjoined := length_intercalate x hnone
    have hcut := length_splitBy sep s
    have hflat : (pieces sep s).flatten = (splitBy sep s).flatten :=
      List.flatten_filter_not_isEmpty
    have hfewer : (pieces sep s).length ≤ (splitBy sep s).length := List.length_filter_le _ _
    rw [hflat] at hjoined
    omega

lemma dropTrailing_append {p : Char → Bool} {s tail : List Char} (h : ∀ c ∈ tail, p c = true) :
    dropTrailing p (s ++ tail) = dropTrailing p s := by
  have hdrop : (s ++ tail).reverse.dropWhile p = s.reverse.dropWhile p := by
    rw [List.reverse_append]
    exact List.dropWhile_append_of_pos fun c hc => h c (List.mem_reverse.1 hc)
  rw [dropTrailing, hdrop, dropTrailing]

/-- Nothing but blanks is behind the last character that stays. -/
lemma trim_append {s tail : List Char} (h : ∀ c ∈ tail, isBlank c = true) :
    trim (s ++ tail) = trim s := by
  unfold trim
  rw [List.dropWhile_append]
  split
  · next hs =>
    have hnil : s.dropWhile isBlank = [] := List.isEmpty_iff.1 hs
    have htail : tail.dropWhile isBlank = [] := List.dropWhile_eq_nil_iff.2 h
    rw [hnil, htail]
  · exact dropTrailing_append h

lemma trim_eq_self {s : List Char} (hhead : ∀ c, s.head? = some c → isBlank c = false)
    (hlast : ∀ c, s.getLast? = some c → isBlank c = false) : trim s = s := by
  have hfront : s.dropWhile isBlank = s := by
    cases s with
    | nil => rfl
    | cons c cs => exact List.dropWhile_cons_of_neg (by simpa using hhead c rfl)
  rw [trim, hfront]
  apply List.rdropWhile_eq_self_iff.2
  intro hne
  simpa using hlast _ (List.getLast?_eq_some_getLast hne)

lemma length_trim_le (s : List Char) : (trim s).length ≤ s.length :=
  (List.rdropWhile_prefix isBlank _).length_le.trans (List.dropWhile_sublist _).length_le

end Text

open Text

namespace Line

variable {limits : Limits} {t path inner : List Char} {line : Line} {text : String}

lemma isBlank_of_isTerminator {c : Char} (h : isTerminator c = true) : isBlank c = true := by
  simp only [isTerminator, Bool.or_eq_true, beq_iff_eq] at h
  rcases h with rfl | rfl
  · rfl
  · rfl

lemma trim_dropTrailing_isTerminator (s : List Char) :
    trim (dropTrailing isTerminator s) = trim s := by
  have hcut : dropTrailing isTerminator s ++ (s.reverse.takeWhile isTerminator).reverse = s := by
    rw [dropTrailing, ← List.reverse_append, List.takeWhile_append_dropWhile, List.reverse_reverse]
  have htail : ∀ c ∈ (s.reverse.takeWhile isTerminator).reverse, isBlank c = true := by
    intro c hc
    exact isBlank_of_isTerminator (List.mem_takeWhile_imp (List.mem_reverse.1 hc))
  rw [← trim_append htail, hcut]

/-- A text reads as a line if it is short enough and, without the blanks at its ends, spells it. -/
lemma readInto_fst_eq_some_iff (limits : Limits) (text : String) (scratch : List Char) :
    (readInto limits text scratch).1 = .ok (some line) ↔
      (dropTrailing isTerminator text.toList).length ≤ limits.maxLineChars ∧
        ∃ path inner, Spells limits (trim text.toList) path inner line := by
  rw [readInto_fst, trim_dropTrailing_isTerminator]
  split
  · next hlong => exact iff_of_false nofun fun h => absurd h.1 (Nat.not_le.2 hlong)
  · next hshort =>
    rw [and_iff_right (Nat.not_lt.1 hshort)]
    split
    · next hblank =>
      have hnil : trim text.toList = [] := List.isEmpty_iff.1 hblank
      rw [hnil]
      exact iff_of_false nofun fun ⟨path, inner, h⟩ => not_spells_nil h
    · rw [← ofTrimmed_fst_eq_ok_iff (dropTrailing_trim _) scratch]
      cases (ofTrimmed limits (trim text.toList) scratch).1 with
      | error d => exact iff_of_false nofun nofun
      | ok line' => simp [Except.map]

/-- Words that can be told apart when they stand in one text, and that stay within the limits. -/
structure WellFormed (limits : Limits) (line : Line) : Prop where
  one_le_command : 1 ≤ line.command.length
  ne_empty : ∀ word ∈ line.command ++ line.data, word ≠ ""
  command_chars : ∀ word ∈ line.command, ∀ c ∈ word.toList,
    isBlank c = false ∧ c ≠ ':' ∧ c ≠ '(' ∧ c ≠ ')'
  data_chars : ∀ word ∈ line.data, ∀ c ∈ word.toList, isBlank c = false ∧ c ≠ '(' ∧ c ≠ ')'
  command_le : line.command.length ≤ limits.maxCommandTokens
  data_le : line.data.length ≤ limits.maxDataTokens
  render_le : line.render.length ≤ limits.maxLineChars

/-- The command words of a line as its canonical text has them. -/
def commandText (line : Line) : List Char :=
  [':'].intercalate (line.command.map String.toList)

/-- The data words of a line as they stand between the parentheses. -/
def dataText (line : Line) : List Char :=
  [' '].intercalate (line.data.map String.toList)

lemma toList_render (line : Line) : line.render.toList =
    if line.data = [] then line.commandText
    else line.commandText ++ '(' :: (line.dataText ++ [')']) := by
  unfold render
  by_cases hd : line.data = []
  · rw [hd]
    exact String.toList_intercalate
  · have hne : line.data.isEmpty = false := by simpa using hd
    simp only [hne, Bool.false_eq_true, if_false, if_neg hd, String.toList_append,
      String.toList_intercalate, List.append_assoc]
    rfl

lemma dataText_of_nil (hd : line.data = []) : line.dataText = [] := by
  rw [dataText, hd]
  rfl

/-! ## A text that is read -/

lemma Spells.command_eq (h : Spells limits t path inner line) :
    line.command.map String.toList = pieces (· == ':') (path.filter fun c => !isBlank c) := by
  rw [h.command, ← commandWords_eq, commandWords, List.map_map]
  exact List.map_id'' (fun w => String.toList_ofList) _

lemma Spells.data_eq (h : Spells limits t path inner line) :
    line.data.map String.toList = pieces isBlank inner := by
  rw [h.data, ← dataWords_eq, dataWords, words, List.map_map]
  exact List.map_id'' (fun w => String.toList_ofList) _

/-- The canonical text drops the blanks of the path and all but one between two words. -/
lemma Spells.length_render_le (h : Spells limits t path inner line) :
    line.render.length ≤ t.length := by
  have hpath : line.commandText.length ≤ path.length := by
    rw [Line.commandText, h.command_eq]
    exact (length_intercalate_pieces_le _ _ _).trans (List.length_filter_le _ _)
  have hdata : line.dataText.length ≤ inner.length := by
    rw [dataText, h.data_eq]
    exact length_intercalate_pieces_le _ _ _
  rw [← String.length_toList, toList_render]
  rcases h.shape with ⟨rfl, rfl⟩ | rfl
  · have hd : line.data = [] := by
      rw [h.data]
      rfl
    rwa [if_pos hd]
  · split
    · rw [List.length_append]
      omega
    · simp only [List.length_append, List.length_cons, List.length_nil]
      omega

lemma Spells.wellFormed (h : Spells limits t path inner line)
    (ht : t.length ≤ limits.maxLineChars) : WellFormed limits line := by
  have hcommand : ∀ word ∈ line.command,
      word.toList ∈ pieces (· == ':') (path.filter fun c => !isBlank c) := by
    intro word hword
    rw [← h.command_eq]
    exact List.mem_map_of_mem hword
  have hdata : ∀ word ∈ line.data, word.toList ∈ pieces isBlank inner := by
    intro word hword
    rw [← h.data_eq]
    exact List.mem_map_of_mem hword
  refine ⟨h.one_le_command, ?_, ?_, ?_, h.command_le, h.data_le, h.length_render_le.trans ht⟩
  · rintro word hword rfl
    rcases List.mem_append.1 hword with hw | hw
    · exact ne_nil_of_mem_pieces (hcommand "" hw) rfl
    · exact ne_nil_of_mem_pieces (hdata "" hw) rfl
  · intro word hword c hc
    obtain ⟨hfilter, hcolon⟩ := mem_of_mem_pieces (hcommand word hword) hc
    obtain ⟨hmem, hblank⟩ := List.mem_filter.1 hfilter
    have hparens := h.no_parens c (List.mem_append_left inner hmem)
    exact ⟨by simpa using hblank, by simpa using hcolon, hparens⟩
  · intro word hword c hc
    obtain ⟨hmem, hblank⟩ := mem_of_mem_pieces (hdata word hword) hc
    exact ⟨hblank, h.no_parens c (List.mem_append_right path hmem)⟩

/-! ## A canonical text -/

namespace WellFormed

lemma commandText_chars (h : WellFormed limits line) {c : Char} (hc : c ∈ line.commandText) :
    isBlank c = false ∧ c ≠ '(' ∧ c ≠ ')' := by
  rcases mem_intercalate hc with rfl | ⟨w, hw, hcw⟩
  · decide
  · obtain ⟨word, hword, rfl⟩ := List.mem_map.1 hw
    obtain ⟨hblank, -, hparens⟩ := h.command_chars word hword c hcw
    exact ⟨hblank, hparens⟩

lemma dataText_chars (h : WellFormed limits line) {c : Char} (hc : c ∈ line.dataText) :
    c ≠ '(' ∧ c ≠ ')' := by
  rcases mem_intercalate hc with rfl | ⟨w, hw, hcw⟩
  · decide
  · obtain ⟨word, hword, rfl⟩ := List.mem_map.1 hw
    exact (h.data_chars word hword c hcw).2

lemma commandText_ne_nil (h : WellFormed limits line) : line.commandText ≠ [] := by
  have hone := h.one_le_command
  have hne := h.ne_empty
  unfold Line.commandText
  rcases hcommand : line.command with _ | ⟨word, rest⟩
  · rw [hcommand] at hone
    cases hone
  · rw [hcommand] at hne
    have hword : word.toList ≠ [] := fun he =>
      hne word (by simp) (String.toList_inj.1 he)
    cases rest with
    | nil => simpa using hword
    | cons next rest => simp [hword]

lemma pieces_commandText (h : WellFormed limits line) :
    pieces (· == ':') line.commandText = line.command.map String.toList := by
  apply pieces_intercalate_toList rfl
  · exact fun word hword => h.ne_empty word (List.mem_append_left _ hword)
  · intro word hword c hc
    simpa using (h.command_chars word hword c hc).2.1

lemma pieces_dataText (h : WellFormed limits line) :
    pieces isBlank line.dataText = line.data.map String.toList := by
  apply pieces_intercalate_toList rfl
  · exact fun word hword => h.ne_empty word (List.mem_append_right _ hword)
  · exact fun word hword c hc => (h.data_chars word hword c hc).1

lemma spells (h : WellFormed limits line) :
    Spells limits line.render.toList line.commandText line.dataText line := by
  have hfilter : (line.commandText.filter fun c => !isBlank c) = line.commandText := by
    apply List.filter_eq_self.2
    intro c hc
    simpa using (h.commandText_chars hc).1
  have hwords : ∀ words : List String, (words.map String.toList).map String.ofList = words := by
    intro words
    rw [List.map_map]
    exact List.map_id'' (fun w => String.ofList_toList) words
  refine ⟨?_, ?_, ?_, ?_, h.one_le_command, h.command_le, h.data_le⟩
  · rw [toList_render]
    by_cases hd : line.data = []
    · exact .inl ⟨if_pos hd, dataText_of_nil hd⟩
    · exact .inr (if_neg hd)
  · intro c hc
    rcases List.mem_append.1 hc with hc | hc
    · exact (h.commandText_chars hc).2
    · exact h.dataText_chars hc
  · rw [← commandWords_eq, hfilter, commandWords, h.pieces_commandText, hwords]
  · rw [← dataWords_eq, dataWords, words, h.pieces_dataText, hwords]

/-- The canonical text begins within the path, and ends within it or with a parenthesis. -/
lemma ends_render (h : WellFormed limits line) :
    (∀ c, line.render.toList.head? = some c → isBlank c = false) ∧
      ∀ c, line.render.toList.getLast? = some c → isBlank c = false := by
  have hhead : ∀ c, line.commandText.head? = some c → isBlank c = false := fun c hc =>
    (h.commandText_chars (List.mem_of_mem_head? hc)).1
  rw [toList_render]
  split
  · exact ⟨hhead, fun c hc => (h.commandText_chars (List.mem_of_mem_getLast? hc)).1⟩
  · constructor
    · intro c hc
      rw [List.head?_append_of_ne_nil _ h.commandText_ne_nil] at hc
      exact hhead c hc
    · intro c hc
      rw [← List.cons_append, ← List.append_assoc, List.getLast?_concat] at hc
      cases hc
      rfl

/-- The canonical text of a well-formed line reads as the line. -/
lemma readInto_render (h : WellFormed limits line) (scratch : List Char) :
    (readInto limits line.render scratch).1 = .ok (some line) := by
  obtain ⟨hhead, hlast⟩ := h.ends_render
  have htrim : trim line.render.toList = line.render.toList := trim_eq_self hhead hlast
  have hbody : (dropTrailing isTerminator line.render.toList).length ≤ limits.maxLineChars :=
    (List.rdropWhile_prefix isTerminator line.render.toList).length_le.trans <| by
      rw [String.length_toList]
      exact h.render_le
  rw [readInto_fst_eq_some_iff, htrim]
  exact ⟨hbody, _, _, h.spells⟩

end WellFormed

end Line

namespace Registry

/-- Sends the trace of a line and gives the line to the command that its first word selects. -/
def carryOut (line : Line) : Act (Registry × Rig) Unit := do
  Act.beside (Rig.debug ("fetch: " ++ line.render))
  dispatch line

lemma exec_execute_of_read {r : Registry} {rig : Rig} {text : String} {line : Line}
    (h : Line.read r.limits text = .ok (some line)) :
    (execute text).exec (r, rig) = (carryOut line).exec (r, rig) := by
  simp only [execute, carryOut, Act.exec_bind, Act.exec_get, h]

end Registry

namespace Line

/-- The canonical text is a normal form. A text that reads as a line is, without the blanks at its
ends, no shorter than the canonical one; both read as the same line within the same limits, and a
registry does the same with either. Every well-formed line is read back from its canonical text. -/
theorem render_normalizes (limits : Limits) (line : Line) :
    (∀ (text : String) (scratch : List Char),
      (readInto limits text scratch).1 = .ok (some line) →
        line.render.length ≤ (trim text.toList).length ∧
        (∀ scratch', (readInto limits line.render scratch').1 = .ok (some line)) ∧
        ∀ (r : Registry) (rig : Rig), r.limits = limits →
          (Registry.execute text).exec (r, rig) = (Registry.carryOut line).exec (r, rig) ∧
          (Registry.execute line.render).exec (r, rig) =
            (Registry.carryOut line).exec (r, rig)) ∧
    (WellFormed limits line → ∀ scratch,
      (readInto limits line.render scratch).1 = .ok (some line)) := by
  refine ⟨fun text scratch hread => ?_, fun h => h.readInto_render⟩
  obtain ⟨hshort, path, inner, hs⟩ := (readInto_fst_eq_some_iff limits text scratch).1 hread
  have htrim : (trim text.toList).length ≤ limits.maxLineChars := by
    rw [← trim_dropTrailing_isTerminator]
    exact (length_trim_le _).trans hshort
  have hback := (hs.wellFormed htrim).readInto_render
  have hagain : Line.read limits text = .ok (some line) :=
    (readInto_fst_eq_some_iff limits text []).2 ⟨hshort, path, inner, hs⟩
  refine ⟨hs.length_render_le, hback, ?_⟩
  rintro r rig rfl
  exact ⟨Registry.exec_execute_of_read hagain, Registry.exec_execute_of_read (hback [])⟩

/-- A text that fills the line to its limit with blanks, most of which its canonical text drops. -/
theorem render_normalizes_blanks :
    let limits : Limits := ⟨22, 2, 2⟩
    let line : Line := ⟨["adc", "start"], ["1", "2"]⟩
    (readInto limits " adc : start ( 1  2 ) \r\n" []).1 = .ok (some line) ∧
      line.render = "adc:start(1 2)" ∧ (readInto limits line.render []).1 = .ok (some line) := by
  intro limits line
  have hread : (readInto limits " adc : start ( 1  2 ) \r\n" []).1 = .ok (some line) := by decide
  exact ⟨hread, by decide, ((render_normalizes limits line).1 _ [] hread).2.1 []⟩

end Line

end Instrument
