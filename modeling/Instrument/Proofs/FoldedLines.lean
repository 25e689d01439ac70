import Instrument.Line
import Instrument.Numeral
import Instrument.Text.Fold
import Instrument.Proofs.LineGrammar

/-!
# Reading without regard to case

Lower case is taken letter by letter, and no character at which a text is cut is a letter. So the
words of a folded text are the folded words of the text, and a number has the same value in either
case: its letters count alike.
-/

namespace Instrument

open Text

namespace Text

lemma toNat_toLower (c : Char) :
    c.toLower.toNat = if 65 ≤ c.toNat ∧ c.toNat ≤ 90 then c.toNat + 32 else c.toNat := by
  have hcapital : (c.val ≥ 'A'.val ∧ c.val ≤ 'Z'.val) ↔ 65 ≤ c.toNat ∧ c.toNat ≤ 90 :=
    and_congr UInt32.le_iff_toNat_le UInt32.le_iff_toNat_le
  unfold Char.toLower
  split
  · next hupper =>
    have hrange := hcapital.1 hupper
    have hsum : (c.val + ('a'.val - 'A'.val)).toNat = (c.val.toNat + 32) % 2 ^ 32 :=
      UInt32.toNat_add _ _
    rw [if_pos hrange]
    change (c.val + ('a'.val - 'A'.val)).toNat = c.val.toNat + 32
    rw [hsum, Nat.mod_eq_of_lt]
    have hle : c.val.toNat ≤ 90 := hrange.2
    omega
  · next hupper => rw [if_neg (mt hcapital.2 hupper)]

lemma toLower_eq_iff {c d : Char} (hd : d.toNat < 65 ∨ 90 < d.toNat ∧ d.toNat < 97 ∨
    122 < d.toNat) : c.toLower = d ↔ c = d := by
  rw [← Char.toNat_inj, ← Char.toNat_inj, toNat_toLower]
  split
  · omega
  · rfl

lemma toLower_toLower (c : Char) : c.toLower.toLower = c.toLower := by
  rw [← Char.toNat_inj, toNat_toLower, toNat_toLower]
  split
  · rw [if_neg (by omega)]
  · rfl

lemma fold_fold (s : String) : fold (fold s) = fold s := by
  unfold fold
  rw [String.toList_ofList, List.map_map]
  exact congrArg String.ofList (List.map_congr_left fun c _ => toLower_toLower c)

/-- Characters are told apart alike in either case. -/
def Caseless (p : Char → Bool) : Prop :=
  ∀ c : Char, p c.toLower = p c

lemma caseless_beq {d : Char} (hd : d.toNat < 65 ∨ 90 < d.toNat ∧ d.toNat < 97 ∨
    122 < d.toNat) : Caseless (· == d) := by
  intro c
  rw [Bool.eq_iff_iff, beq_iff_eq, beq_iff_eq, toLower_eq_iff hd]

lemma caseless_not {p : Char → Bool} (hp : Caseless p) : Caseless fun c => !p c :=
  fun c => congrArg not (hp c)

lemma caseless_or {p q : Char → Bool} (hp : Caseless p) (hq : Caseless q) :
    Caseless fun c => p c || q c :=
  fun c => congrArg₂ or (hp c) (hq c)

lemma caseless_isBlank : Caseless isBlank := by
  intro c
  unfold isBlank
  rw [toNat_toLower]
  split
  · next h =>
    rw [Bool.eq_iff_iff]
    simp only [Bool.or_eq_true, Bool.and_eq_true, decide_eq_true_eq, beq_iff_eq]
    omega
  · rfl

/-- The characters in lower case. -/
def lower (s : List Char) : List Char :=
  s.map Char.toLower

variable {p : Char → Bool}

lemma toList_fold (s : String) : (fold s).toList = lower s.toList :=
  String.toList_ofList

lemma fold_ofList (s : List Char) : fold (String.ofList s) = String.ofList (lower s) := by
  rw [fold, String.toList_ofList, lower]

lemma comp_toLower (hp : Caseless p) : p ∘ Char.toLower = p :=
  funext hp

lemma dropWhile_lower (hp : Caseless p) (s : List Char) :
    (lower s).dropWhile p = lower (s.dropWhile p) := by
  rw [lower, List.dropWhile_map, comp_toLower hp, lower]

lemma takeWhile_lower (hp : Caseless p) (s : List Char) :
    (lower s).takeWhile p = lower (s.takeWhile p) := by
  rw [lower, List.takeWhile_map, comp_toLower hp, lower]

lemma filter_lower (hp : Caseless p) (s : List Char) :
    (lower s).filter p = lower (s.filter p) := by
  rw [lower, List.filter_map, comp_toLower hp, lower]

lemma any_lower (hp : Caseless p) (s : List Char) : (lower s).any p = s.any p := by
  rw [lower, List.any_map, comp_toLower hp]

lemma dropTrailing_lower (hp : Caseless p) (s : List Char) :
    dropTrailing p (lower s) = lower (dropTrailing p s) := by
  have hdrop := dropWhile_lower hp s.reverse
  simp only [lower] at hdrop ⊢
  rw [dropTrailing, ← List.map_reverse, hdrop, ← List.map_reverse, dropTrailing]

lemma trim_lower (s : List Char) : trim (lower s) = lower (trim s) := by
  rw [trim, dropWhile_lower caseless_isBlank, dropTrailing_lower caseless_isBlank, trim]

lemma splitBy_lower (hp : Caseless p) (s : List Char) :
    splitBy p (lower s) = (splitBy p s).map lower := by
  induction s with
  | nil => rfl
  | cons c cs ih =>
    have hcons : lower (c :: cs) = c.toLower :: lower cs := rfl
    rw [hcons, splitBy, splitBy, hp c, ih]
    split
    · rfl
    · cases splitBy p cs with
      | nil => rfl
      | cons piece rest => rfl

lemma pieces_lower (hp : Caseless p) (s : List Char) :
    pieces p (lower s) = (pieces p s).map lower := by
  rw [pieces, splitBy_lower hp, List.filter_map, pieces]
  congr 2
  funext piece
  cases piece <;> rfl

end Text

/-! ## Lines -/

namespace Line

/-- The line with all its words in lower case. -/
def folded (line : Line) : Line :=
  ⟨line.command.map fold, line.data.map fold⟩

lemma caseless_isParen : Caseless isParen :=
  caseless_or (caseless_beq (by decide)) (caseless_beq (by decide))

lemma caseless_isTerminator : Caseless isTerminator :=
  caseless_or (caseless_beq (by decide)) (caseless_beq (by decide))

lemma unclose?_lower (s : List Char) : unclose? (lower s) = (unclose? s).map lower := by
  have hlast : (lower s).getLast? = some ')' ↔ s.getLast? = some ')' := by
    rw [lower, List.getLast?_map, Option.map_eq_some_iff]
    constructor
    · rintro ⟨c, hc, hlower⟩
      rwa [(toLower_eq_iff (by decide)).1 hlower] at hc
    · exact fun hc => ⟨')', hc, rfl⟩
  unfold unclose?
  by_cases hs : s.getLast? = some ')'
  · rw [if_pos hs, if_pos (hlast.2 hs), lower, ← List.map_dropLast]
    rfl
  · rw [if_neg hs, if_neg (mt hlast.1 hs)]
    rfl

lemma sections_lower (s : List Char) :
    sections (lower s) = (sections s).map fun (path, inner) => (lower path, lower inner) := by
  have hparen : Caseless fun c => c != '(' := caseless_not (caseless_beq (by decide))
  unfold sections
  dsimp only
  rw [takeWhile_lower hparen, dropWhile_lower hparen, any_lower caseless_isParen]
  cases s.dropWhile (· != '(') with
  | nil =>
    change (if _ then _ else _) = _
    split <;> rfl
  | cons c rest =>
    have hcons : lower (c :: rest) = c.toLower :: lower rest := rfl
    rw [hcons]
    dsimp only
    rw [dropTrailing_lower caseless_isBlank, unclose?_lower]
    cases unclose? (dropTrailing isBlank rest) with
    | none => rfl
    | some inner =>
      simp only [Option.map_some, any_lower caseless_isParen]
      split <;> rfl

lemma map_ofList_lower (words : List (List Char)) :
    (words.map lower).map String.ofList = (words.map String.ofList).map fold := by
  rw [List.map_map, List.map_map]
  exact List.map_congr_left fun word _ => (fold_ofList word).symm

lemma ofWords_fold (limits : Limits) (command data : List String) :
    ofWords limits (command.map fold) (data.map fold) =
      (ofWords limits command data).map folded := by
  unfold ofWords
  rw [List.isEmpty_map, List.length_map, List.length_map]
  split
  · rfl
  · split
    · rfl
    · split <;> rfl

lemma ofTrimmed_lower (limits : Limits) (s scratch : List Char) :
    (ofTrimmed limits (lower s) scratch).1 = ((ofTrimmed limits s scratch).1).map folded := by
  have hhead : (lower s).head?.any isParen = s.head?.any isParen := by
    cases s with
    | nil => rfl
    | cons c cs => exact caseless_isParen c
  unfold ofTrimmed
  rw [hhead, sections_lower]
  split
  · rfl
  · cases sections s with
    | error d => rfl
    | ok parts =>
      obtain ⟨path, inner⟩ := parts
      have hblank := caseless_not caseless_isBlank
      have hcolon : Caseless (· == ':') := caseless_beq (by decide)
      change (ofSections limits (lower path) (lower inner) scratch).1 =
        ((ofSections limits path inner scratch).1).map folded
      rw [ofSections_fst, ofSections_fst, ← ofWords_fold, commandWords, commandWords, dataWords,
        dataWords, words, words, filter_lower hblank, pieces_lower hcolon,
        pieces_lower caseless_isBlank, map_ofList_lower, map_ofList_lower]

/-- A folded text reads as the folded line, or has the same defect. -/
lemma read_fold (limits : Limits) (text : String) :
    read limits (fold text) = (read limits text).map (Option.map folded) := by
  rw [read, read, readInto_fst, readInto_fst, toList_fold,
    dropTrailing_lower caseless_isTerminator, trim_lower]
  rw [ofTrimmed_lower, lower, List.length_map, lower, List.isEmpty_map]
  split
  · rfl
  · split
    · rfl
    · cases (ofTrimmed limits (trim (dropTrailing isTerminator text.toList)) []).1 <;> rfl

end Line

namespace Numeral

lemma digit?_toLower {radix : Nat} (c : Char) : digit? radix c.toLower = digit? radix c := by
  unfold digit?
  rw [toNat_toLower]
  split
  · next h =>
    have h1 : ¬ (48 ≤ c.toNat + 32 ∧ c.toNat + 32 ≤ 57) := by omega
    have h2 : ¬ (48 ≤ c.toNat ∧ c.toNat ≤ 57) := by omega
    have h3 : ¬ (97 ≤ c.toNat ∧ c.toNat ≤ 102) := by omega
    have h4 : ¬ (65 ≤ c.toNat + 32 ∧ c.toNat + 32 ≤ 70) := by omega
    dsimp only
    rw [if_neg h1, if_neg h2, if_neg h3, if_neg h4]
    by_cases hhex : c.toNat ≤ 70
    · rw [if_pos ⟨by omega, by omega⟩, if_pos ⟨h.1, hhex⟩]
      congr 1
    · rw [if_neg (by omega), if_neg (by omega)]
  · rfl

lemma extend?_lower (radix high : Nat) (s : List Char) :
    extend? radix high (lower s) = extend? radix high s := by
  induction s generalizing high with
  | nil => rfl
  | cons c cs ih =>
    have hcons : lower (c :: cs) = c.toLower :: lower cs := rfl
    rw [hcons, extend?, extend?, digit?_toLower]
    cases digit? radix c with
    | none => rfl
    | some v => exact ih _

lemma ofDigits?_lower (radix : Nat) (s : List Char) :
    ofDigits? radix (lower s) = ofDigits? radix s := by
  rw [ofDigits?, ofDigits?, extend?_lower, lower, List.isEmpty_map]

/-- Of the characters that open a number only the `X` has a case. -/
lemma magnitude?_lower (s : List Char) : magnitude? (lower s) = magnitude? s := by
  have hdecimal : ∀ s : List Char, (∀ c rest, s ≠ '0' :: c :: rest) →
      magnitude? s = ofDigits? 10 s := by
    intro s hs
    unfold magnitude?
    split
    · next c rest => exact absurd rfl (hs c rest)
    · rfl
  by_cases hs : ∃ c rest, s = '0' :: c :: rest
  · obtain ⟨c, rest, rfl⟩ := hs
    have hlower : lower ('0' :: c :: rest) = '0' :: c.toLower :: lower rest := rfl
    have hx : c.toLower = 'x' ∨ c.toLower = 'X' ↔ c = 'x' ∨ c = 'X' := by
      rw [← Char.toNat_inj, ← Char.toNat_inj, ← Char.toNat_inj, ← Char.toNat_inj, toNat_toLower]
      have hsmall : 'x'.toNat = 120 := rfl
      have hcapital : 'X'.toNat = 88 := rfl
      split <;> omega
    rw [hlower, magnitude?, magnitude?, ofDigits?_lower, ← ofDigits?_lower 8 (c :: rest)]
    simp only [hx]
    rfl
  · have hlower : ∀ c rest, lower s ≠ '0' :: c :: rest := by
      intro c rest h
      obtain ⟨d, t, rfl, hd, ht⟩ := List.map_eq_cons_iff.1 h
      obtain ⟨e, u, rfl, -, -⟩ := List.map_eq_cons_iff.1 ht
      rw [(toLower_eq_iff (by decide)).1 hd] at hs
      exact hs ⟨e, u, rfl⟩
    rw [hdecimal _ hlower, hdecimal s fun c rest h => hs ⟨c, rest, h⟩, ofDigits?_lower]

lemma dropPlus_lower (s : List Char) : dropPlus (lower s) = lower (dropPlus s) := by
  cases s with
  | nil => rfl
  | cons c cs =>
    by_cases hc : c = '+'
    · subst hc
      rfl
    · have hlower : c.toLower ≠ '+' := mt (toLower_eq_iff (by decide)).1 hc
      have hkeep : ∀ (d : Char) (t : List Char), d ≠ '+' → dropPlus (d :: t) = d :: t := by
        intro d t hd
        unfold dropPlus
        split
        · next heq => exact absurd (List.cons.inj heq).1 hd
        · rfl
      have hcons : lower (c :: cs) = c.toLower :: lower cs := rfl
      rw [hcons, hkeep _ _ hlower, hkeep _ _ hc, hcons]

lemma within_fold (min max : Nat) (token : String) :
    within min max (fold token) = within min max token := by
  rw [within, within, unsigned, unsigned, toList_fold, dropPlus_lower, magnitude?_lower]

end Numeral

end Instrument
