import Instrument.Console
import Mathlib.Data.List.Forall2
import Mathlib.Data.List.TakeWhile
import Mathlib.Data.Nat.Digits.Defs
import Mathlib.Tactic.Lemma

/-!
# Data lines are read back

`Writes` says how a word is written: in four capital digits, the highest first. A data line is a
tag, a colon and such groups of four, with nothing between them. As no digit is a colon, the last
colon of a line is the one behind the tag, whatever the tag itself holds; so a line that was written
is read back, and what is read is the only set that is written so.
-/

namespace Instrument.DataLine

/-- The capital digits in the order of their values. -/
def capitals : List Char :=
  "0123456789ABCDEF".toList

/-- The characters are four capital digits, the highest first, that write the word. -/
def Writes (s : List Char) (w : UInt16) : Prop :=
  ∃ vs, vs.length = 4 ∧ List.Forall₂ (fun c v => capitals[v]? = some c) s vs ∧
    w.toNat = Nat.ofDigits 16 vs.reverse

variable {c : Char} {v : Nat} {w : UInt16} {s before after : List Char} {ws : List UInt16}

lemma getElem?_capitals : ∀ v < 16, capitals[v]? = some (digit v) := by
  decide

lemma getElem?_capitals_mod (n : Nat) : capitals[n % 16]? = some (digit (n % 16)) :=
  getElem?_capitals _ (Nat.mod_lt n (by decide))

lemma value?_digit : ∀ v < 16, value? (digit v) = some v := by
  decide

lemma digit_of_capital (h : capitals[v]? = some c) : v < 16 ∧ c = digit v := by
  obtain ⟨hlt, -⟩ := List.getElem?_eq_some_iff.1 h
  have hv : v < 16 := hlt
  rw [getElem?_capitals v hv] at h
  exact ⟨hv, (Option.some.inj h).symm⟩

lemma digit_of_value? (h : value? c = some v) : v < 16 ∧ c = digit v := by
  unfold value? at h
  dsimp only at h
  rw [← Char.ofNat_toNat c, digit]
  split_ifs at h with hdecimal hletter
  · obtain rfl : c.toNat - 48 = v := Option.some.inj h
    rw [if_pos (by omega)]
    exact ⟨by omega, congrArg Char.ofNat (by omega)⟩
  · obtain rfl : c.toNat - 55 = v := Option.some.inj h
    rw [if_neg (by omega)]
    exact ⟨by omega, congrArg Char.ofNat (by omega)⟩

lemma word_of_digits {a b c d : Nat} (ha : a < 16) (hb : b < 16) (hc : c < 16) (hd : d < 16)
    (hw : w.toNat = ((a * 16 + b) * 16 + c) * 16 + d) :
    word w = [digit a, digit b, digit c, digit d] := by
  have h3 : w.toNat / 4096 % 16 = a := by omega
  have h2 : w.toNat / 256 % 16 = b := by omega
  have h1 : w.toNat / 16 % 16 = c := by omega
  have h0 : w.toNat % 16 = d := by omega
  rw [word, h3, h2, h1, h0]

lemma ofDigits_four (a b c d : Nat) :
    Nat.ofDigits 16 [a, b, c, d].reverse = ((a * 16 + b) * 16 + c) * 16 + d := by
  simp [Nat.ofDigits_cons]
  omega

/-- A word is written in one way. -/
lemma writes_iff : Writes s w ↔ s = word w := by
  constructor
  · rintro ⟨vs, hlength, hs, hw⟩
    match vs, hlength, hs with
    | [a, b, c, d], _, .cons ha (.cons hb (.cons hc (.cons hd .nil))) =>
      rw [ofDigits_four] at hw
      obtain ⟨ha', rfl⟩ := digit_of_capital ha
      obtain ⟨hb', rfl⟩ := digit_of_capital hb
      obtain ⟨hc', rfl⟩ := digit_of_capital hc
      obtain ⟨hd', rfl⟩ := digit_of_capital hd
      exact (word_of_digits ha' hb' hc' hd' hw).symm
  · rintro rfl
    have hmod := getElem?_capitals_mod
    refine ⟨[w.toNat / 4096 % 16, w.toNat / 256 % 16, w.toNat / 16 % 16, w.toNat % 16], rfl,
      .cons (hmod _) (.cons (hmod _) (.cons (hmod _) (.cons (hmod _) .nil))), ?_⟩
    rw [ofDigits_four]
    have hlt := w.toNat_lt
    omega

lemma words?_word_append (w : UInt16) (rest : List Char) :
    words? (word w ++ rest) = (words? rest).map (w :: ·) := by
  have hmod : ∀ n : Nat, value? (digit (n % 16)) = some (n % 16) := fun n =>
    value?_digit _ (Nat.mod_lt n (by decide))
  have hw : UInt16.ofNat (((w.toNat / 4096 % 16 * 16 + w.toNat / 256 % 16) * 16 +
      w.toNat / 16 % 16) * 16 + w.toNat % 16) = w := by
    have hlt := w.toNat_lt
    rw [← UInt16.toNat_inj, UInt16.toNat_ofNat']
    omega
  simp only [word, List.cons_append, List.nil_append, words?, hmod]
  cases words? rest with
  | none => rfl
  | some ws => exact congrArg (fun first => some (first :: ws)) hw

/-- The groups of four that are read are those that are written. -/
lemma words?_eq_some_iff : words? s = some ws ↔ s = ws.flatMap word := by
  constructor
  · intro h
    fun_induction words? s generalizing ws with
    | case1 =>
      cases h
      rfl
    | case2 a b c d rest a' b' c' d' ws' hrest hd hc hb ha ih =>
      cases h
      obtain ⟨ha', rfl⟩ := digit_of_value? ha
      obtain ⟨hb', rfl⟩ := digit_of_value? hb
      obtain ⟨hc', rfl⟩ := digit_of_value? hc
      obtain ⟨hd', rfl⟩ := digit_of_value? hd
      have hw : (UInt16.ofNat (((a' * 16 + b') * 16 + c') * 16 + d')).toNat =
          ((a' * 16 + b') * 16 + c') * 16 + d' := by
        rw [UInt16.toNat_ofNat']
        omega
      rw [List.flatMap_cons, word_of_digits ha' hb' hc' hd' hw, ← ih hrest]
      rfl
    | case3 => cases h
    | case4 => cases h
  · rintro rfl
    induction ws with
    | nil => rfl
    | cons w ws ih => rw [List.flatMap_cons, words?_word_append, ih, Option.map_some]

/-! ## Lines -/

lemma mem_capitals_of_mem_payload {sequence : UInt16} {samples : List UInt16}
    (h : c ∈ payload sequence samples) : c ∈ capitals := by
  obtain ⟨w, -, hc⟩ := List.mem_flatMap.1 h
  have hdigit : ∀ n : Nat, digit (n % 16) ∈ capitals := fun n =>
    List.mem_of_getElem? (getElem?_capitals_mod n)
  simp only [word, List.mem_cons, List.not_mem_nil, or_false] at hc
  rcases hc with rfl | rfl | rfl | rfl <;> exact hdigit _

lemma colon_not_mem_payload (sequence : UInt16) (samples : List UInt16) :
    ':' ∉ payload sequence samples := by
  intro h
  exact absurd (mem_capitals_of_mem_payload h) (by decide)

lemma length_payload (sequence : UInt16) (samples : List UInt16) :
    (payload sequence samples).length = 4 * (1 + samples.length) := by
  simp [payload, List.length_flatMap, word]
  omega

lemma toList_text (set : DataLine) :
    set.text.toList = set.tag.toList ++ ':' :: payload set.sequence set.samples := by
  simp [text]

lemma bne_colon_of_mem_reverse (h : ':' ∉ s) (hc : c ∈ s.reverse) : (c != ':') = true := by
  rw [bne_iff_ne]
  rintro rfl
  exact h (List.mem_reverse.1 hc)

/-- Read from its end, a line is what follows the last colon, and then the colon. -/
lemma reverse_cut (before : List Char) (h : ':' ∉ after) :
    (before ++ ':' :: after).reverse.takeWhile (· != ':') = after.reverse ∧
      (before ++ ':' :: after).reverse.dropWhile (· != ':') = ':' :: before.reverse := by
  have hall : ∀ c ∈ after.reverse, (c != ':') = true := fun _ => bne_colon_of_mem_reverse h
  rw [List.reverse_append, List.reverse_cons, List.append_assoc,
    List.takeWhile_append_of_pos hall, List.dropWhile_append_of_pos hall]
  simp

/-- A line has one last colon. -/
lemma cut_unique {before' after' : List Char} (h : ':' ∉ after) (h' : ':' ∉ after')
    (heq : before ++ ':' :: after = before' ++ ':' :: after') :
    before = before' ∧ after = after' := by
  obtain ⟨htake, hdrop⟩ := reverse_cut before h
  obtain ⟨htake', hdrop'⟩ := reverse_cut before' h'
  rw [heq] at htake hdrop
  have hafter := htake.symm.trans htake'
  have hbefore := hdrop.symm.trans hdrop'
  simpa using And.intro hbefore hafter

lemma exists_cut (h : ':' ∈ s) : ∃ before after, s = before ++ ':' :: after ∧ ':' ∉ after := by
  obtain ⟨front, back, hs, hfront⟩ := List.eq_append_cons_of_mem (List.mem_reverse.2 h)
  refine ⟨back.reverse, front.reverse, ?_, by simpa using hfront⟩
  rw [← List.reverse_reverse s, hs]
  simp

lemma read?_of_cut {line : String} {set : DataLine} (hline : line.toList = before ++ ':' :: after)
    (h : ':' ∉ after) : read? line = some set ↔
      before = set.tag.toList ∧ words? after = some (set.sequence :: set.samples) := by
  obtain ⟨htake, hdrop⟩ := reverse_cut before h
  simp only [read?, hline, htake, hdrop, List.reverse_reverse]
  split
  · next sequence samples hwords =>
    rw [hwords]
    constructor
    · intro hset
      cases hset
      simp
    · rintro ⟨rfl, heq⟩
      cases heq
      simp
  · next hwords => exact ⟨nofun, fun hset => absurd hset.2 (hwords _ _)⟩

lemma read?_of_not_mem {line : String} (h : ':' ∉ line.toList) : read? line = none := by
  have hnil : line.toList.reverse.dropWhile (· != ':') = [] :=
    List.dropWhile_eq_nil_iff.2 fun _ => bne_colon_of_mem_reverse h
  simp only [read?, hnil]

/-- What is read is what was written. -/
lemma read?_eq_some_iff {line : String} {set : DataLine} :
    read? line = some set ↔ line = set.text := by
  rw [← String.toList_inj, toList_text]
  constructor
  · intro h
    by_cases hcolon : ':' ∈ line.toList
    · obtain ⟨before, after, hline, hafter⟩ := exists_cut hcolon
      obtain ⟨rfl, hwords⟩ := (read?_of_cut hline hafter).1 h
      rw [hline, words?_eq_some_iff.1 hwords, payload]
    · rw [read?_of_not_mem hcolon] at h
      cases h
  · intro hline
    exact (read?_of_cut hline (colon_not_mem_payload _ _)).2 ⟨rfl, words?_eq_some_iff.2 rfl⟩

lemma text_inj {set other : DataLine} : other.text = set.text ↔ other = set := by
  constructor
  · intro h
    have hother := read?_eq_some_iff.2 (rfl : other.text = other.text)
    rw [h, read?_eq_some_iff.2 rfl] at hother
    exact (Option.some.inj hother).symm
  · intro h
    rw [h]

/-- A data line carries its set and nothing else. What goes to the host is the tag, a colon, four
capital digits for the number of the set and for each sample, and the end of the line; nothing
goes there when the line is lost. The last colon is the one behind the tag, and the groups of four
behind it read back as the words that they write, so different sets never give the same line. -/
theorem decoded_uniquely (set : DataLine) :
    let digits := payload set.sequence set.samples
    (digits.length = 4 * (1 + set.samples.length) ∧ ∀ c ∈ digits, c ∈ capitals) ∧
    (∃ groups, List.Forall₂ Writes groups (set.sequence :: set.samples) ∧
      digits = groups.flatten) ∧
    (∀ before after, set.text.toList = before ++ ':' :: after ∧ ':' ∉ after ↔
      before = set.tag.toList ∧ after = digits) ∧
    words? digits = some (set.sequence :: set.samples) ∧
    (∀ line, read? line = some set ↔ line = set.text) ∧
    (∀ other : DataLine, other.text = set.text ↔ other = set) ∧
    ∀ (sink : String) (c : Console),
      let sent := (Console.data sink set).exec c
      if c.down || c.loses c.attempts then
        sent.1 = .error Console.gone ∧ sent.2.log = c.log
      else
        sent.1 = .ok () ∧ sent.2.log.toList.map Event.text =
          c.log.toList.map Event.text ++ [set.tag ++ ":" ++ String.ofList digits ++ "\r\n"] := by
  intro digits
  refine ⟨⟨length_payload _ _, fun c hc => mem_capitals_of_mem_payload hc⟩, ?_, ?_,
    words?_eq_some_iff.2 rfl, fun line => read?_eq_some_iff, fun other => text_inj, ?_⟩
  · refine ⟨(set.sequence :: set.samples).map word, ?_, rfl⟩
    rw [List.forall₂_map_left_iff, List.forall₂_same]
    exact fun w _ => writes_iff.2 rfl
  · intro before after
    rw [toList_text]
    constructor
    · rintro ⟨heq, hafter⟩
      exact cut_unique hafter (colon_not_mem_payload _ _) heq.symm
    · rintro ⟨rfl, rfl⟩
      exact ⟨rfl, colon_not_mem_payload _ _⟩
  · intro sink c sent
    by_cases hlost : (c.down || c.loses c.attempts) = true
    · have hsent : sent = (.error Console.gone, { c with attempts := c.attempts + 1 }) :=
        if_pos hlost
      rw [if_pos hlost, hsent]
      exact ⟨rfl, rfl⟩
    · have hsent : sent = (.ok (), { c with
          attempts := c.attempts + 1, log := c.log.push (.data sink set.text) }) := if_neg hlost
      rw [if_neg hlost, hsent]
      refine ⟨rfl, ?_⟩
      rw [Queue.toList_push, List.map_append]
      rfl

end Instrument.DataLine
