import Instrument.Proofs.PinCustody
import Mathlib.Logic.Relation

/-!
# Pins claimed and released together

A subsystem takes several pins or none: when one of them is refused, those taken before it are
released. What a group of claims or releases does can be read off row by row.
-/

namespace Instrument

/-- A row that could be claimed by somebody else than its owner is at its defaults. -/
lemma Row.Sound.restore_eq {row : Row} {s : Subsystem} (h : row.Sound) (ha : row.admits s = true)
    (hs : row.owner ≠ some s) : row.restore = row := by
  have hfree : row.owner = none := (admits_iff.1 ha).2.resolve_right hs
  have hmode : row.mode = row.defaultMode := h.at_rest hfree
  have howner : row.defaultOwner = none := by
    cases hd : row.defaultOwner with
    | none => rfl
    | some d =>
      rw [h.keeps_default d hd] at hfree
      cases hfree
  cases row
  simp_all [restore]

namespace PinTable

/-- A sequence of changes. -/
abbrev Steps : PinTable → PinTable → Prop :=
  Relation.ReflTransGen Step

lemma Sound.steps {t t' : PinTable} (h : t.Sound) (hs : t.Steps t') : t'.Sound := by
  induction hs with
  | refl => exact h
  | tail _ hs ih => exact ih.step hs

lemma profile?_steps {t t' : PinTable} (hs : t.Steps t') (pin : Pin) :
    t'.profile? pin = t.profile? pin := by
  induction hs with
  | refl => rfl
  | tail _ hs ih => exact (profile?_step hs pin).trans ih

/-! ## Release -/

lemma row?_put (t : PinTable) (pin q : Pin) (row : Row) :
    (t.put pin row).row? q = if pin = q then some row else t.row? q := by
  by_cases hq : pin = q
  · subst hq
    rw [row?_put_self, if_pos rfl]
  · rw [row?_put_of_ne _ _ hq, if_neg hq]

/-- The table after a release that passes over an unknown pin. -/
lemma release_getD (t : PinTable) (pin : Pin) :
    (t.release pin).toOption.getD t =
      match t.row? pin with
      | some row => t.put pin row.restore
      | none => t := by
  unfold release row
  cases t.row? pin <;> rfl

lemma row?_release_getD (t : PinTable) (pin q : Pin) :
    ((t.release pin).toOption.getD t).row? q =
      if pin = q then (t.row? q).map Row.restore else t.row? q := by
  rw [release_getD]
  by_cases hq : pin = q
  · subst hq
    rw [if_pos rfl]
    cases hrow : t.row? pin with
    | none => simp [hrow]
    | some row => simp
  · rw [if_neg hq]
    cases t.row? pin with
    | none => rfl
    | some row => exact row?_put_of_ne _ _ hq

lemma releaseAll_cons (t : PinTable) (pin : Pin) (pins : List Pin) :
    t.releaseAll (pin :: pins) = ((t.release pin).toOption.getD t).releaseAll pins :=
  rfl

lemma steps_releaseAll (t : PinTable) (pins : List Pin) : t.Steps (t.releaseAll pins) := by
  induction pins generalizing t with
  | nil => exact .refl
  | cons pin pins ih =>
    rw [releaseAll_cons, release_getD]
    refine Relation.ReflTransGen.head ?_ (ih _)
    cases hrow : t.row? pin with
    | none => exact .idle
    | some row => exact .restore hrow

/-- Released pins are at their defaults, and the others as they were. -/
lemma row?_releaseAll (t : PinTable) (pins : List Pin) (q : Pin) :
    (t.releaseAll pins).row? q = if q ∈ pins then (t.row? q).map Row.restore else t.row? q := by
  induction pins generalizing t with
  | nil => simp [releaseAll]
  | cons pin pins ih =>
    rw [releaseAll_cons, ih, row?_release_getD]
    by_cases hq : pin = q
    · subst hq
      have htwice : Row.restore ∘ Row.restore = Row.restore := rfl
      simp [htwice]
    · have hq' : ¬q = pin := fun h => hq h.symm
      simp [hq, hq']

/-! ## Claim -/

/-- The row of a claimed pin. -/
def claimedRow (mode : PadMode) (s : Subsystem) (row : Row) : Row :=
  { row with mode, owner := some s }

/-- The claims of some pins, one after the other, were all granted. -/
inductive Granted (mode : PadMode) (s : Subsystem) : List Pin → PinTable → PinTable → Prop
  | nil {t : PinTable} : Granted mode s [] t t
  | cons {pin : Pin} {pins : List Pin} {t t₁ t₂ : PinTable} (head : t.claim pin mode s = .ok t₁)
      (tail : Granted mode s pins t₁ t₂) : Granted mode s (pin :: pins) t t₂

variable {mode : PadMode} {s : Subsystem} {pins : List Pin} {t t' : PinTable}

lemma Granted.steps (h : Granted mode s pins t t') : t.Steps t' := by
  induction h with
  | nil => exact .refl
  | cons head _ ih => exact Relation.ReflTransGen.head (step_claim head) ih

lemma row?_claim {pin : Pin} (h : t.claim pin mode s = .ok t') (q : Pin) :
    t'.row? q = if pin = q then (t.row? q).map (claimedRow mode s) else t.row? q := by
  obtain ⟨row, hrow, -, rfl⟩ := claim_eq_ok_iff.1 h
  rw [row?_put]
  by_cases hq : pin = q
  · subst hq
    rw [if_pos rfl, if_pos rfl, hrow, Option.map_some]
    rfl
  · rw [if_neg hq, if_neg hq]

/-- Claimed pins belong to the subsystem in the mode asked for, and the others are as they were. -/
lemma Granted.row? (h : Granted mode s pins t t') (q : Pin) :
    t'.row? q = if q ∈ pins then (t.row? q).map (claimedRow mode s) else t.row? q := by
  induction h with
  | nil => rw [if_neg List.not_mem_nil]
  | @cons pin pins t t₁ t₂ head tail ih =>
    rw [ih, row?_claim head]
    by_cases hq : pin = q
    · subst hq
      have htwice : claimedRow mode s ∘ claimedRow mode s = claimedRow mode s := rfl
      simp [htwice]
    · have hq' : ¬q = pin := fun h => hq h.symm
      simp [hq, hq']

/-- Every pin of the group was free or the subsystem's own before the first claim. -/
lemma Granted.admits (h : Granted mode s pins t t') {q : Pin} (hq : q ∈ pins) :
    ∃ row, t.row? q = some row ∧ row.admits s = true := by
  induction h with
  | nil => cases hq
  | @cons pin pins t t₁ t₂ head tail ih =>
    by_cases hp : pin = q
    · subst hp
      obtain ⟨row, hrow, ha, -⟩ := claim_eq_ok_iff.1 head
      exact ⟨row, hrow, ha⟩
    · obtain ⟨row, hrow, ha⟩ := ih ((List.mem_cons.1 hq).resolve_left fun h => hp h.symm)
      rw [row?_claim head, if_neg hp] at hrow
      exact ⟨row, hrow, ha⟩

/-- Pins are claimed together, or the ones that were claimed first are released. -/
lemma exec_claimFrom (mode : PadMode) (s : Subsystem) (taken pins : List Pin) (t : PinTable) :
    (∃ t', Granted mode s pins t t' ∧ (claimFrom mode s taken pins).exec t = (.ok (), t')) ∨
    ∃ fault more t', Granted mode s more t t' ∧
      (claimFrom mode s taken pins).exec t = (.error fault, t'.releaseAll (taken ++ more)) := by
  induction pins generalizing taken t with
  | nil => exact .inl ⟨t, .nil, rfl⟩
  | cons pin pins ih =>
    cases hc : t.claim pin mode s with
    | error fault =>
      refine .inr ⟨fault, [], t, .nil, ?_⟩
      simp [claimFrom, Act.exec, hc]
    | ok t₁ =>
      have hnext : (claimFrom mode s taken (pin :: pins)).exec t =
          (claimFrom mode s (taken ++ [pin]) pins).exec t₁ := by
        simp [claimFrom, Act.exec, hc]
      rw [hnext]
      rcases ih (taken ++ [pin]) t₁ with ⟨t', hg, he⟩ | ⟨fault, more, t', hg, he⟩
      · exact .inl ⟨t', .cons hc hg, he⟩
      · refine .inr ⟨fault, pin :: more, t', .cons hc hg, ?_⟩
        rw [he, List.append_assoc, List.singleton_append]

end PinTable

end Instrument
