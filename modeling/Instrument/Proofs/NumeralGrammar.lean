import Instrument.Proofs.FoldedLines
import Mathlib.Data.List.Forall2
import Mathlib.Data.Nat.Digits.Defs
import Mathlib.Tactic.Ring

/-!
# The grammar of numbers

`Body` says how a magnitude is written: in hexadecimal digits after `0x`, in octal digits after a
`0`, or in decimal digits of which the first is no `0`. The readers accept exactly the words of
this grammar, with the signs that each allows, and tell a number that is out of range from a word
that is no number.
-/

namespace Instrument.Numeral

open Text

/-- The digits in the order of their values. -/
def alphabet : List Char :=
  "0123456789abcdef".toList

/-- The character stands for the value below the radix; a letter may be a capital. -/
def Digit (radix : Nat) (c : Char) (v : Nat) : Prop :=
  v < radix ∧ alphabet[v]? = some c.toLower

/-- The digits, the highest first, write the number. -/
def Digits (radix : Nat) (s : List Char) (n : Nat) : Prop :=
  ∃ vs, List.Forall₂ (Digit radix) s vs ∧ n = Nat.ofDigits radix vs.reverse

/-- The characters write the magnitude. -/
inductive Body : List Char → Nat → Prop where
  | hexadecimal {x : Char} {s : List Char} {n : Nat} (hx : x = 'x' ∨ x = 'X') (hs : s ≠ [])
      (hn : Digits 16 s n) : Body ('0' :: x :: s) n
  | octal {s : List Char} {n : Nat} (hs : s ≠ []) (hn : Digits 8 s n) : Body ('0' :: s) n
  | zero : Body ['0'] 0
  | decimal {c : Char} {s : List Char} {n : Nat} (hc : c ≠ '0') (hn : Digits 10 (c :: s) n) :
      Body (c :: s) n

/-- The magnitude, with a plus sign or without. -/
inductive Unsigned : List Char → Nat → Prop where
  | bare {s : List Char} {n : Nat} (h : Body s n) : Unsigned s n
  | plus {s : List Char} {n : Nat} (h : Body s n) : Unsigned ('+' :: s) n

/-- The number, with a sign or without. -/
inductive Signed : List Char → Int → Prop where
  | bare {s : List Char} {n : Nat} (h : Body s n) : Signed s n
  | plus {s : List Char} {n : Nat} (h : Body s n) : Signed ('+' :: s) n
  | minus {s : List Char} {n : Nat} (h : Body s n) : Signed ('-' :: s) (-n)

variable {radix n m v : Nat} {c : Char} {s : List Char} {token : String}

lemma getElem?_alphabet : ∀ v < 16, ∀ c, alphabet[v]? = some c ↔
    c.toNat = if v < 10 then 48 + v else 87 + v := by
  have hcode : ∀ v < 16, (alphabet[v]?).map Char.toNat =
      some (if v < 10 then 48 + v else 87 + v) := by decide
  intro v hv c
  obtain ⟨d, hd, hcode⟩ := Option.map_eq_some_iff.1 (hcode v hv)
  rw [hd, Option.some.injEq, ← hcode, Char.toNat_inj, eq_comm]

/-- The code of a letter is taken from the small one or the capital. -/
lemma digit?_eq_some_iff (hradix : radix ≤ 16) : digit? radix c = some v ↔ Digit radix c v := by
  have hvalue : digit? radix c = some v ↔ v < radix ∧ (48 ≤ c.toNat ∧ c.toNat ≤ 57 ∧
      v = c.toNat - 48 ∨ 97 ≤ c.toNat ∧ c.toNat ≤ 102 ∧ v = c.toNat - 87 ∨
      65 ≤ c.toNat ∧ c.toNat ≤ 70 ∧ v = c.toNat - 55) := by
    unfold digit?
    dsimp only
    rw [Option.filter_eq_some_iff, decide_eq_true_eq, and_comm]
    refine and_congr_right fun _ => ?_
    split_ifs <;> simp <;> omega
  rw [hvalue, Digit]
  refine and_congr_right fun hv => ?_
  rw [getElem?_alphabet v (hv.trans_le hradix), toNat_toLower]
  split_ifs <;> omega

/-- The digits that follow count from the lowest, and those before them are moved up by as many
places. -/
lemma extend?_eq_some_iff (hradix : radix ≤ 16) {high : Nat} :
    extend? radix high s = some n ↔
      ∃ low, Digits radix s low ∧ n = low + radix ^ s.length * high := by
  induction s generalizing high with
  | nil =>
    simp only [extend?, Option.some.injEq, Digits, List.forall₂_nil_left_iff]
    constructor
    · rintro rfl
      exact ⟨0, ⟨[], rfl, rfl⟩, by simp⟩
    · rintro ⟨low, ⟨vs, rfl, rfl⟩, rfl⟩
      simp
  | cons c cs ih =>
    have hplaces : ∀ (v : Nat) (vs : List Nat), List.Forall₂ (Digit radix) cs vs →
        Nat.ofDigits radix (v :: vs).reverse =
          Nat.ofDigits radix vs.reverse + radix ^ cs.length * v := fun v vs hvs => by
      rw [List.reverse_cons, Nat.ofDigits_append, Nat.ofDigits_singleton, List.length_reverse,
        hvs.length_eq]
    have hstep : extend? radix high (c :: cs) =
        (digit? radix c).bind fun v => extend? radix (high * radix + v) cs := by
      rw [extend?]
      cases digit? radix c <;> rfl
    rw [hstep, Option.bind_eq_some_iff]
    constructor
    · rintro ⟨v, hv, hrest⟩
      obtain ⟨low, ⟨vs, hvs, rfl⟩, rfl⟩ := ih.1 hrest
      refine ⟨_, ⟨v :: vs, .cons ((digit?_eq_some_iff hradix).1 hv) hvs, rfl⟩, ?_⟩
      rw [hplaces v vs hvs, List.length_cons]
      ring
    · rintro ⟨low, ⟨vs, hvs, rfl⟩, rfl⟩
      cases hvs with
      | @cons _ v _ vs hv hvs =>
        refine ⟨v, (digit?_eq_some_iff hradix).2 hv, ih.2 ⟨_, ⟨vs, hvs, rfl⟩, ?_⟩⟩
        rw [hplaces v vs hvs, List.length_cons]
        ring

lemma ofDigits?_eq_some_iff (hradix : radix ≤ 16) :
    ofDigits? radix s = some n ↔ s ≠ [] ∧ Digits radix s n := by
  rw [ofDigits?, Option.ite_none_left_eq_some, List.isEmpty_iff, extend?_eq_some_iff hradix]
  simp

lemma not_digit {c : Char} (hc : c ∈ ['x', 'X', '+', '-']) (hradix : radix ≤ 16) :
    ¬ Digit radix c v := by
  have hnone : ∀ c ∈ ['x', 'X', '+', '-'], digit? radix c = none := by
    simp only [List.forall_mem_cons]
    exact ⟨rfl, rfl, rfl, rfl, nofun⟩
  rw [← digit?_eq_some_iff hradix, hnone c hc]
  nofun

lemma Digits.exists_cons (h : Digits radix s n) (hs : s ≠ []) :
    ∃ c cs v, s = c :: cs ∧ Digit radix c v := by
  obtain ⟨vs, hvs, -⟩ := h
  cases hvs with
  | nil => exact absurd rfl hs
  | cons hv _ => exact ⟨_, _, _, rfl, hv⟩

lemma magnitude?_eq_some_iff : magnitude? s = some n ↔ Body s n := by
  constructor
  · intro h
    unfold magnitude? at h
    split at h
    · next c rest =>
      split at h
      · next hx =>
        obtain ⟨hrest, hn⟩ := (ofDigits?_eq_some_iff (by decide)).1 h
        exact .hexadecimal hx hrest hn
      · obtain ⟨hrest, hn⟩ := (ofDigits?_eq_some_iff (by decide)).1 h
        exact .octal hrest hn
    · next hother =>
      obtain ⟨hs, hn⟩ := (ofDigits?_eq_some_iff (by decide)).1 h
      obtain ⟨c, cs, rfl⟩ := List.exists_cons_of_ne_nil hs
      by_cases hc : c = '0'
      · subst hc
        cases cs with
        | nil =>
          cases h
          exact .zero
        | cons c rest => exact absurd rfl (hother c rest)
      · exact .decimal hc hn
  · intro h
    cases h with
    | hexadecimal hx hs hn =>
      rw [magnitude?, if_pos hx]
      exact (ofDigits?_eq_some_iff (by decide)).2 ⟨hs, hn⟩
    | octal hs hn =>
      obtain ⟨c, rest, v, rfl, hv⟩ := hn.exists_cons hs
      have hx : ¬ (c = 'x' ∨ c = 'X') := by
        rintro (rfl | rfl)
        · exact not_digit (by decide) (by decide) hv
        · exact not_digit (by decide) (by decide) hv
      rw [magnitude?, if_neg hx]
      exact (ofDigits?_eq_some_iff (by decide)).2 ⟨hs, hn⟩
    | zero => rfl
    | @decimal c s _ hc hn =>
      have hkeep : magnitude? (c :: s) = ofDigits? 10 (c :: s) := by
        unfold magnitude?
        split
        · next heq => exact absurd (List.cons.inj heq).1 hc
        · rfl
      rw [hkeep]
      exact (ofDigits?_eq_some_iff (by decide)).2 ⟨List.cons_ne_nil _ _, hn⟩

/-- A magnitude begins with a digit, so a sign before it cannot be taken for a part of it. -/
lemma Body.exists_cons (h : Body s n) : ∃ c cs, s = c :: cs ∧ c ≠ '+' ∧ c ≠ '-' := by
  cases h with
  | hexadecimal => exact ⟨_, _, rfl, by decide, by decide⟩
  | octal => exact ⟨_, _, rfl, by decide, by decide⟩
  | zero => exact ⟨_, _, rfl, by decide, by decide⟩
  | decimal hc hn =>
    obtain ⟨c, cs, v, heq, hv⟩ := hn.exists_cons (List.cons_ne_nil _ _)
    refine ⟨c, cs, heq, ?_, ?_⟩
    · rintro rfl
      exact not_digit (by decide) (by decide) hv
    · rintro rfl
      exact not_digit (by decide) (by decide) hv

lemma dropPlus_of_ne {cs : List Char} (hc : c ≠ '+') : dropPlus (c :: cs) = c :: cs := by
  unfold dropPlus
  split
  · next heq => exact absurd (List.cons.inj heq).1 hc
  · rfl

lemma sign_of_ne {cs : List Char} (hc : c ≠ '-') :
    sign (c :: cs) = (false, dropPlus (c :: cs)) := by
  unfold sign
  split
  · next heq => exact absurd (List.cons.inj heq).1 hc
  · rfl

lemma magnitude?_dropPlus_eq_some_iff : magnitude? (dropPlus s) = some n ↔ Unsigned s n := by
  rw [magnitude?_eq_some_iff]
  constructor
  · intro h
    cases s with
    | nil => exact .bare h
    | cons c cs =>
      by_cases hc : c = '+'
      · subst hc
        exact .plus h
      · rw [dropPlus_of_ne hc] at h
        exact .bare h
  · intro h
    cases h with
    | plus h => exact h
    | bare h =>
      obtain ⟨c, cs, rfl, hplus, -⟩ := h.exists_cons
      rwa [dropPlus_of_ne hplus]

/-- The number that a word with a sign stands for. -/
def number? (s : List Char) : Option Int :=
  (magnitude? (sign s).2).map fun n : Nat => if (sign s).1 then -(n : Int) else n

lemma number?_eq_some_iff {i : Int} : number? s = some i ↔ Signed s i := by
  constructor
  · intro h
    obtain ⟨n, hn, hi⟩ := Option.map_eq_some_iff.1 h
    by_cases hs : ∃ cs, s = '-' :: cs
    · obtain ⟨cs, rfl⟩ := hs
      subst hi
      exact .minus (magnitude?_eq_some_iff.1 hn)
    · have hsign : sign s = (false, dropPlus s) := by
        cases s with
        | nil => rfl
        | cons c cs => exact sign_of_ne fun hc => hs ⟨cs, by rw [hc]⟩
      rw [hsign] at hn hi
      subst hi
      cases magnitude?_dropPlus_eq_some_iff.1 hn with
      | bare h => exact .bare h
      | plus h => exact .plus h
  · intro h
    cases h with
    | bare h =>
      obtain ⟨c, cs, rfl, hplus, hminus⟩ := h.exists_cons
      rw [number?, sign_of_ne hminus, dropPlus_of_ne hplus, magnitude?_eq_some_iff.2 h]
      rfl
    | plus h =>
      have hn := magnitude?_eq_some_iff.2 h
      exact Option.map_eq_some_iff.2 ⟨_, hn, rfl⟩
    | minus h =>
      have hn := magnitude?_eq_some_iff.2 h
      exact Option.map_eq_some_iff.2 ⟨_, hn, rfl⟩

/-! ## Readers -/

/-- The answer is the number that is written if it fits; a number that does not fit is told from
what is no number at all. -/
structure Exact {α : Type} (written fits : α → Prop) (answer : Except Defect α) : Prop where
  ok : ∀ a, answer = .ok a ↔ written a ∧ fits a
  tooLarge : answer = .error .tooLarge ↔ ∃ a, written a ∧ ¬ fits a
  malformed : answer = .error .malformed ↔ ¬∃ a, written a

lemma exact_of_number {α : Type} {written fits : α → Prop} [DecidablePred fits]
    {number : Option α} {answer : Except Defect α} (hwritten : ∀ a, number = some a ↔ written a)
    (hnone : number = none → answer = .error .malformed)
    (hsome : ∀ a, number = some a → answer = if fits a then .ok a else .error .tooLarge) :
    Exact written fits answer := by
  cases hn : number with
  | none =>
    have hno : ∀ a, ¬ written a := fun a ha => by
      rw [← hwritten, hn] at ha
      cases ha
    rw [hnone hn]
    exact ⟨fun a => iff_of_false nofun fun h => hno a h.1,
      iff_of_false nofun fun ⟨a, h, _⟩ => hno a h, iff_of_true rfl fun ⟨a, h⟩ => hno a h⟩
  | some a =>
    have hone : ∀ b, written b ↔ a = b := fun b => by rw [← hwritten, hn, Option.some.injEq]
    have ha : written a := (hone a).2 rfl
    rw [hsome a hn]
    split
    · next hfits =>
      refine ⟨fun b => ?_, iff_of_false nofun ?_, iff_of_false nofun fun hno => hno ⟨a, ha⟩⟩
      · rw [hone, Except.ok.injEq]
        exact ⟨fun hb => ⟨hb, hb ▸ hfits⟩, And.left⟩
      · rintro ⟨b, hb, hout⟩
        exact hout ((hone b).1 hb ▸ hfits)
    · next hout =>
      refine ⟨fun b => iff_of_false nofun ?_, iff_of_true rfl ⟨a, ha, hout⟩,
        iff_of_false nofun fun hno => hno ⟨a, ha⟩⟩
      rintro ⟨hb, hfits⟩
      exact hout ((hone b).1 hb ▸ hfits)

lemma exact_unsigned (token : String) :
    Exact (Unsigned token.toList) (· < 2 ^ 32) (unsigned token) := by
  refine exact_of_number (fun n => magnitude?_dropPlus_eq_some_iff) (fun hn => ?_) fun n hn => ?_
  · rw [unsigned, hn]
  · rw [unsigned, hn]
    rfl

/-- The bounds that a command sets are narrower than those of the words. -/
lemma within_eq_ok_iff {low high : Nat} (hhigh : high < 2 ^ 32) :
    within low high token = .ok n ↔ Unsigned token.toList n ∧ low ≤ n ∧ n ≤ high := by
  constructor
  · intro h
    have hbounds := le_of_within h
    unfold within at h
    cases hu : unsigned token with
    | error d =>
      rw [hu] at h
      cases h
    | ok m =>
      rw [hu] at h
      dsimp only at h
      split at h
      · cases h
      · cases h
        exact ⟨(((exact_unsigned token).ok n).1 hu).1, hbounds⟩
  · rintro ⟨hn, hlow, hle⟩
    have hu : unsigned token = .ok n := ((exact_unsigned token).ok n).2 ⟨hn, hle.trans_lt hhigh⟩
    unfold within
    rw [hu]
    dsimp only
    rw [if_neg (by omega)]

lemma exact_signed (token : String) :
    Exact (Signed token.toList) (fun i => -2 ^ 31 ≤ i ∧ i ≤ 2 ^ 31 - 1) (signed token) := by
  rcases hs : sign token.toList with ⟨negative, body⟩
  refine exact_of_number (fun i => number?_eq_some_iff) (fun hn => ?_) fun i hi => ?_
  · rw [number?, hs, Option.map_eq_none_iff] at hn
    simp only [signed, hs, hn]
  · rw [number?, hs] at hi
    obtain ⟨n, hn, rfl⟩ := Option.map_eq_some_iff.1 hi
    simp only [signed, hs, hn]
    rfl

lemma signed_natCast_iff (h : '-' ∉ s) : Signed s n ↔ Unsigned s n := by
  constructor
  · intro hs
    generalize hi : (n : Int) = i at hs
    cases hs with
    | bare hb =>
      cases Int.ofNat_inj.1 hi
      exact .bare hb
    | plus hb =>
      cases Int.ofNat_inj.1 hi
      exact .plus hb
    | minus => exact absurd List.mem_cons_self h
  · intro hs
    cases hs with
    | bare h => exact .bare h
    | plus h => exact .plus h

/-- A word is read as the number that the grammar gives it, if that fits into 32 bits; a number
that does not fit and a word that is no number have messages of their own. A word without a minus
sign is read alike by both readers as long as the number fits both. -/
theorem read_exactly (token : String) :
    Exact (Unsigned token.toList) (· < 2 ^ 32) (unsigned token) ∧
    Exact (Signed token.toList) (fun i => -2 ^ 31 ≤ i ∧ i ≤ 2 ^ 31 - 1) (signed token) ∧
    ('-' ∉ token.toList → ∀ n : Nat,
      signed token = .ok (n : Int) ↔ unsigned token = .ok n ∧ n < 2 ^ 31) ∧
    Defect.fault token .tooLarge = .argument ("number out of range: " ++ token) ∧
    Defect.fault token .malformed = .argument ("not a number: " ++ token) := by
  refine ⟨exact_unsigned token, exact_signed token, fun hminus n => ?_, rfl, rfl⟩
  rw [(exact_unsigned token).ok, (exact_signed token).ok, signed_natCast_iff hminus]
  constructor
  · rintro ⟨hn, -, hle⟩
    exact ⟨⟨hn, by omega⟩, by omega⟩
  · rintro ⟨⟨hn, -⟩, hlt⟩
    exact ⟨hn, by omega, by omega⟩

/-- An octal number with a plus sign, read alike. -/
theorem read_exactly_octal : '-' ∉ "+017".toList ∧ signed "+017" = .ok 15 ∧
    unsigned "+017" = .ok 15 := by
  have hminus : '-' ∉ "+017".toList := by decide
  have hsigned : signed "+017" = .ok (15 : Nat) := by decide
  exact ⟨hminus, hsigned, (((read_exactly "+017").2.2.1 hminus 15).1 hsigned).1⟩

/-- The two ends of the ranges, and a digit that is not octal. -/
example : signed "-0x80000000" = .ok (-2147483648) ∧ unsigned "+037777777777" = .ok 4294967295 ∧
    unsigned "4294967296" = .error .tooLarge ∧ signed "018" = .error .malformed := by
  decide

end Instrument.Numeral
