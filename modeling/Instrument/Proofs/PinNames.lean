import Instrument.Proofs.NumeralGrammar
import Instrument.Rig

/-!
# The names of pins

A name is a `P`, the letter of a port and the number of a pad in one or two decimal digits; letters
may be small, and the number may have a zero before it. The reader accepts exactly the names of the
pads that there are. A pin is shown by a name of its own, so it is read back from it.
-/

namespace Instrument

namespace Text

lemma toNat_toUpper (c : Char) :
    c.toUpper.toNat = if 97 ≤ c.toNat ∧ c.toNat ≤ 122 then c.toNat - 32 else c.toNat := by
  have hsmall : ('a'.val ≤ c.val ∧ c.val ≤ 'z'.val) ↔ 97 ≤ c.toNat ∧ c.toNat ≤ 122 :=
    and_congr UInt32.le_iff_toNat_le UInt32.le_iff_toNat_le
  unfold Char.toUpper
  by_cases hlower : 'a'.val ≤ c.val ∧ c.val ≤ 'z'.val
  · have hrange := hsmall.1 hlower
    rw [dif_pos hlower, if_pos hrange]
    have hsum : (c.val + ('A'.val - 'a'.val)).toNat = (c.val.toNat + 4294967264) % 4294967296 :=
      UInt32.toNat_add _ _
    change (c.val + ('A'.val - 'a'.val)).toNat = c.val.toNat - 32
    change 97 ≤ c.val.toNat ∧ c.val.toNat ≤ 122 at hrange
    omega
  · rw [dif_neg hlower, if_neg (mt hsmall.2 hlower)]

end Text

namespace Port

variable {c : Char} {port : Port}

lemma toNat_letter (port : Port) : port.letter.toNat = 65 + port.index.val := by
  cases port <;> rfl

lemma toUpper_eq_letter_iff : c.toUpper = port.letter ↔
    c = port.letter ∨ c = port.letter.toLower := by
  have hindex := port.index.isLt
  rw [← Char.toNat_inj, ← Char.toNat_inj, ← Char.toNat_inj, Text.toNat_toUpper, Text.toNat_toLower,
    toNat_letter]
  split_ifs <;> omega

lemma letter_injective {p q : Port} (h : p.letter = q.letter) : p = q := by
  apply index_injective
  have hcode := congrArg Char.toNat h
  rw [toNat_letter, toNat_letter] at hcode
  exact Fin.ext (by omega)

lemma ofLetter?_eq_some_iff : ofLetter? c = some port ↔
    c = port.letter ∨ c = port.letter.toLower := by
  rw [← toUpper_eq_letter_iff, ofLetter?]
  constructor
  · intro h
    have hfound := List.find?_some h
    exact (beq_iff_eq.1 hfound).symm
  · intro h
    have hsome : (all.find? fun p => p.letter == c.toUpper).isSome = true := by
      rw [List.find?_isSome]
      exact ⟨port, mem_all port, beq_iff_eq.2 h.symm⟩
    obtain ⟨found, hfound⟩ := Option.isSome_iff_exists.1 hsome
    have hletter := List.find?_some hfound
    rw [hfound, letter_injective ((beq_iff_eq.1 hletter).trans h)]

end Port

namespace Pin

variable {c : Char} {s : List Char} {n : Nat} {name : String} {pin : Pin}

/-- The characters name the pad of the port that has the number. -/
inductive Names : List Char → Port → Nat → Prop
  | intro {p letter : Char} {digits : List Char} {port : Port} {n : Nat}
      (hp : p = 'P' ∨ p = 'p') (hletter : letter = port.letter ∨ letter = port.letter.toLower)
      (hlength : digits.length = 1 ∨ digits.length = 2) (hn : Numeral.Digits 10 digits n) :
      Names (p :: letter :: digits) port n

/-- A digit beyond nine is not decimal, so the readers of numbers and of names agree. -/
lemma decimal?_eq_digit? (c : Char) : decimal? c = Numeral.digit? 10 c := by
  unfold decimal? Numeral.digit?
  dsimp only
  by_cases hdecimal : 48 ≤ c.toNat ∧ c.toNat ≤ 57
  · rw [if_pos hdecimal, if_pos hdecimal, Option.filter_some, if_pos]
    exact decide_eq_true (by omega)
  · rw [if_neg hdecimal, if_neg hdecimal]
    split_ifs
    · rw [Option.filter_some, if_neg]
      rw [decide_eq_true_eq]
      omega
    · rw [Option.filter_some, if_neg]
      rw [decide_eq_true_eq]
      omega
    · rfl

lemma padNumber?_eq_ofDigits? (hlength : s.length = 1 ∨ s.length = 2) :
    padNumber? s = Numeral.ofDigits? 10 s := by
  match s, hlength with
  | [c], _ =>
    rw [padNumber?, decimal?_eq_digit?]
    simp only [Numeral.ofDigits?, Numeral.extend?, List.isEmpty_cons]
    cases Numeral.digit? 10 c with
    | none => rfl
    | some v => simp
  | [c, d], _ =>
    rw [padNumber?, decimal?_eq_digit?, decimal?_eq_digit?]
    simp only [Numeral.ofDigits?, Numeral.extend?, List.isEmpty_cons]
    cases Numeral.digit? 10 c with
    | none => rfl
    | some v =>
      cases Numeral.digit? 10 d with
      | none => rfl
      | some w => simp

lemma padNumber?_eq_some_iff : padNumber? s = some n ↔
    (s.length = 1 ∨ s.length = 2) ∧ Numeral.Digits 10 s n := by
  by_cases hlength : s.length = 1 ∨ s.length = 2
  · rw [padNumber?_eq_ofDigits? hlength, Numeral.ofDigits?_eq_some_iff (by decide)]
    have hne : s ≠ [] := by
      rintro rfl
      simp at hlength
    simp only [hlength, hne, ne_eq, not_false_eq_true, true_and]
  · have hnone : padNumber? s = none := by
      unfold padNumber?
      split <;> simp_all
    rw [hnone]
    exact ⟨nofun, fun h => absurd h.1 hlength⟩

def isDigitByte (b : UInt8) : Bool :=
  48 ≤ b.toNat ∧ b.toNat ≤ 57

/-- The number of a pad from bytes: one or two of them, all of them decimal digits. -/
def padBytes? (bytes : List UInt8) : Option Nat :=
  if bytes.isEmpty || decide (2 < bytes.length) || !bytes.all isDigitByte then none
  else some (bytes.foldl (fun n b => n * 10 + (b.toNat - 48)) 0)

lemma bytes_of_decimal (hc : 48 ≤ c.toNat ∧ c.toNat ≤ 57) :
    String.utf8EncodeChar c = [UInt8.ofNat c.toNat] :=
  if_pos (by change c.toNat ≤ 127; omega)

lemma toNat_ofNat_of_decimal (hc : 48 ≤ c.toNat ∧ c.toNat ≤ 57) :
    (UInt8.ofNat c.toNat).toNat = c.toNat := by
  rw [UInt8.toNat_ofNat']
  omega

/-- The last byte of a character that is not ASCII is above all digits. -/
lemma exists_byte_of_not_decimal (hc : ¬ (48 ≤ c.toNat ∧ c.toNat ≤ 57)) :
    ∃ b ∈ String.utf8EncodeChar c, isDigitByte b = false := by
  have hlast : isDigitByte (UInt8.ofNat (c.toNat % 64 + 128)) = false := by
    rw [isDigitByte, decide_eq_false_iff_not, UInt8.toNat_ofNat']
    omega
  unfold String.utf8EncodeChar
  change ∃ b ∈ (if c.toNat ≤ 127 then _ else _), isDigitByte b = false
  split_ifs
  · refine ⟨UInt8.ofNat c.toNat, List.mem_singleton_self _, ?_⟩
    rw [isDigitByte, decide_eq_false_iff_not, UInt8.toNat_ofNat']
    omega
  all_goals exact ⟨_, List.mem_of_getLast? rfl, hlast⟩

lemma padNumber?_of_not_decimal (hmem : c ∈ s) (hc : ¬ (48 ≤ c.toNat ∧ c.toNat ≤ 57)) :
    padNumber? s = none := by
  have hnone : decimal? c = none := if_neg hc
  unfold padNumber?
  split
  · rw [← List.mem_singleton.1 hmem, hnone]
  · split
    · next hhigh hlow =>
      rcases List.mem_pair.1 hmem with rfl | rfl
      · rw [hnone] at hhigh
        cases hhigh
      · rw [hnone] at hlow
        cases hlow
    · rfl
  · rfl

lemma padBytes?_of_not_decimal (hmem : c ∈ s) (hc : ¬ (48 ≤ c.toNat ∧ c.toNat ≤ 57)) :
    padBytes? (s.flatMap String.utf8EncodeChar) = none := by
  obtain ⟨b, hb, hdigit⟩ := exists_byte_of_not_decimal hc
  have hall : (s.flatMap String.utf8EncodeChar).all isDigitByte = false := by
    rw [List.all_eq_false]
    exact ⟨b, List.mem_flatMap.2 ⟨c, hmem, hb⟩, by rw [hdigit]; decide⟩
  rw [padBytes?, hall, Bool.not_false, Bool.or_true, if_pos rfl]

lemma length_le_bytes (s : List Char) : s.length ≤ (s.flatMap String.utf8EncodeChar).length := by
  induction s with
  | nil => exact Nat.le_refl 0
  | cons c s ih =>
    have hpos := List.length_pos_iff.2 (String.utf8EncodeChar_ne_nil (c := c))
    rw [List.flatMap_cons, List.length_append, List.length_cons]
    omega

/-- It makes no difference whether characters or bytes are counted and looked at. -/
lemma padNumber?_eq_padBytes? (s : List Char) :
    padNumber? s = padBytes? (s.flatMap String.utf8EncodeChar) := by
  by_cases hall : ∀ c ∈ s, 48 ≤ c.toNat ∧ c.toNat ≤ 57
  · match s, hall with
    | [], _ => rfl
    | [c], hall =>
      have hc := hall c (by simp)
      simp [padNumber?, padBytes?, decimal?, bytes_of_decimal hc, isDigitByte,
        toNat_ofNat_of_decimal hc, hc]
    | [c, d], hall =>
      have hc := hall c (by simp)
      have hd := hall d (by simp)
      simp [padNumber?, padBytes?, decimal?, bytes_of_decimal hc, bytes_of_decimal hd, isDigitByte,
        toNat_ofNat_of_decimal hc, toNat_ofNat_of_decimal hd, hc, hd]
    | c :: d :: e :: s, _ =>
      have hle := length_le_bytes (c :: d :: e :: s)
      rw [List.length_cons, List.length_cons, List.length_cons] at hle
      have hlong : 2 < ((c :: d :: e :: s).flatMap String.utf8EncodeChar).length := by omega
      rw [padBytes?, decide_eq_true hlong, Bool.or_true, Bool.true_or, if_pos rfl]
      rfl
  · rw [not_forall₂] at hall
    obtain ⟨c, hmem, hc⟩ := hall
    rw [padNumber?_of_not_decimal hmem hc, padBytes?_of_not_decimal hmem hc]

/-! ## Names -/

lemma ofPad?_eq_some_iff {port : Port} : ofPad? port n = some pin ↔
    pin.port = port ∧ pin.pad.val = n := by
  unfold ofPad?
  by_cases hn : n < 16
  · rw [dif_pos hn, Option.some.injEq]
    constructor
    · rintro rfl
      exact ⟨rfl, rfl⟩
    · rintro ⟨rfl, rfl⟩
      rfl
  · rw [dif_neg hn]
    refine ⟨nofun, fun h => ?_⟩
    have hlt := pin.pad.isLt
    omega

lemma ofName?_eq_some_iff : ofName? name = some pin ↔
    Names name.toList pin.port pin.pad.val := by
  unfold ofName?
  constructor
  · intro h
    split at h
    · next p letter digits hname =>
      by_cases hp : p = 'P' ∨ p = 'p'
      · rw [if_pos hp] at h
        cases hport : Port.ofLetter? letter with
        | none => simp [hport] at h
        | some port =>
          cases hpad : padNumber? digits with
          | none => simp [hport, hpad] at h
          | some n =>
            simp only [hport, hpad] at h
            obtain ⟨rfl, rfl⟩ := ofPad?_eq_some_iff.1 h
            obtain ⟨hlength, hn⟩ := padNumber?_eq_some_iff.1 hpad
            rw [hname]
            exact .intro hp (Port.ofLetter?_eq_some_iff.1 hport) hlength hn
      · rw [if_neg hp] at h
        cases h
    · cases h
  · intro h
    generalize name.toList = s, hport : pin.port = port, hpad : pin.pad.val = n at h
    cases h with
    | intro hp hletter hlength hn =>
      have hletter' := Port.ofLetter?_eq_some_iff.2 hletter
      have hn' := padNumber?_eq_some_iff.2 ⟨hlength, hn⟩
      simp only [if_pos hp, hletter', hn']
      exact ofPad?_eq_some_iff.2 ⟨hport, hpad⟩

/-- A pin's own name has the capital letters, and no zero before its number. -/
lemma names_name (pin : Pin) : Names pin.name.toList pin.port pin.pad.val := by
  have hdigits : ∀ pad : Fin 16, padNumber? (toString pad.val).toList = some pad.val := by
    decide +kernel
  obtain ⟨hlength, hn⟩ := padNumber?_eq_some_iff.1 (hdigits pin.pad)
  have hname : pin.name.toList = 'P' :: pin.port.letter :: (toString pin.pad.val).toList := by
    simp [name]
  rw [hname]
  exact .intro (.inl rfl) (.inl rfl) hlength hn

lemma read_eq_ok_iff : read name = .ok pin ↔ Names name.toList pin.port pin.pad.val := by
  rw [← ofName?_eq_some_iff, read]
  cases ofName? name <;> simp

lemma exists_read_iff :
    (∃ pin, read name = .ok pin) ↔ ∃ port n, Names name.toList port n ∧ n ≤ 15 := by
  constructor
  · rintro ⟨pin, hpin⟩
    have hlt := pin.pad.isLt
    exact ⟨pin.port, pin.pad.val, read_eq_ok_iff.1 hpin, by omega⟩
  · rintro ⟨port, n, hname, hn⟩
    exact ⟨⟨port, ⟨n, by omega⟩⟩, read_eq_ok_iff.2 hname⟩

lemma read_of_not_exists (h : ¬ ∃ pin, read name = .ok pin) :
    read name = .error (.argument ("invalid pin name: " ++ name)) := by
  unfold read at h ⊢
  cases hname : ofName? name with
  | none => rfl
  | some pin => exact absurd ⟨pin, by rw [hname]⟩ h

/-- A text is read as the pad that it names, and a text that names none of the pads that there are
is refused with its own text in the message; it is all one whether the digits are looked at as
characters or as bytes. Every pin is read back from its name. The inputs of a configuration are
read in the same way. -/
theorem named_exactly (name : String) :
    (∀ pin, read name = .ok pin ↔ Names name.toList pin.port pin.pad.val) ∧
    ((∃ pin, read name = .ok pin) ↔ ∃ port n, Names name.toList port n ∧ n ≤ 15) ∧
    ((∀ port n, Names name.toList port n → 15 < n) ↔
      read name = .error (.argument ("invalid pin name: " ++ name))) ∧
    (∀ digits, padNumber? digits = padBytes? (digits.flatMap String.utf8EncodeChar)) ∧
    (∀ pin : Pin, read pin.name = .ok pin) ∧
    Rig.inputPin name =
      (read name).mapError fun fault => .config ("adc.inputs: " ++ fault.message) := by
  refine ⟨fun pin => read_eq_ok_iff, exists_read_iff, ?_, padNumber?_eq_padBytes?,
    fun pin => read_eq_ok_iff.2 (names_name pin), rfl⟩
  constructor
  · intro h
    apply read_of_not_exists
    rw [exists_read_iff]
    rintro ⟨port, n, hname, hn⟩
    have hlt := h port n hname
    omega
  · intro h port n hname
    by_contra hle
    obtain ⟨pin, hpin⟩ := exists_read_iff.2 ⟨port, n, hname, Nat.not_lt.1 hle⟩
    rw [h] at hpin
    cases hpin

end Pin

end Instrument
