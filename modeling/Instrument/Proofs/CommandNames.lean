import Instrument.Proofs.RegistryLines

/-!
# Commands by their names

A word of the index selects a command that answers to it, whatever was registered. That a command is
selected by its own name, and replaced by one of the same name only, holds as long as no command
answers to the name of another one: the index does not tell names from aliases.
-/

namespace Instrument

open Text

namespace Command

/-- The words, in lower case, that a command is to be selected by. -/
def selectors (c : Command) : List String :=
  (c.name :: c.aliases).map fold

/-- Neither command answers to the name of the other, unless the two have the same name. -/
def Apart (c d : Command) : Prop :=
  fold c.name ≠ fold d.name →
    fold c.name ∉ d.aliases.map fold ∧ fold d.name ∉ c.aliases.map fold

instance (c d : Command) : Decidable (c.Apart d) :=
  inferInstanceAs (Decidable (_ → _))

variable {c d : Command} {word : String}

lemma mem_selectors : word ∈ c.selectors ↔ word = fold c.name ∨ word ∈ c.aliases.map fold := by
  rw [selectors, List.map_cons, List.mem_cons]

lemma Apart.not_mem_selectors (h : c.Apart d) (hne : fold c.name ≠ fold d.name) :
    fold c.name ∉ d.selectors ∧ fold d.name ∉ c.selectors := by
  obtain ⟨hc, hd⟩ := h hne
  rw [mem_selectors, mem_selectors, not_or, not_or]
  exact ⟨⟨hne, hc⟩, ⟨hne.symm, hd⟩⟩

end Command

namespace Registry

variable {r : Registry} {c d : Command} {index : List (String × Nat)} {words : List String}
  {word : String} {place : Nat} {entry : String × Nat}

lemma mem_point : entry ∈ point place index word ↔
    entry = (word, place) ∨ entry ∈ index ∧ entry.1 ≠ word := by
  simp [point]

lemma mem_foldl_point : entry ∈ words.foldl (point place) index ↔
    entry.1 ∈ words ∧ entry.2 = place ∨ entry ∈ index ∧ entry.1 ∉ words := by
  induction words generalizing index with
  | nil => simp
  | cons word rest ih =>
    rw [List.foldl_cons, ih, mem_point, List.mem_cons, Prod.ext_iff]
    tauto

lemma nodup_foldl_point (words : List String) (h : (index.map Prod.fst).Nodup) :
    ((words.foldl (point place) index).map Prod.fst).Nodup := by
  induction words generalizing index with
  | nil => exact h
  | cons word rest ih =>
    apply ih
    rw [point, List.map_cons, List.nodup_cons]
    constructor
    · intro hm
      obtain ⟨entry, hentry, he⟩ := List.mem_map.1 hm
      simp [he] at hentry
    · exact h.sublist (List.filter_sublist.map Prod.fst)

lemma place?_eq_some_iff (h : (index.map Prod.fst).Nodup) :
    place? index word = some place ↔ (word, place) ∈ index := by
  induction index with
  | nil => simp [place?]
  | cons entry rest ih =>
    rw [List.map_cons, List.nodup_cons] at h
    unfold place? at ih ⊢
    by_cases he : entry.1 = word
    · have hout : (word, place) ∉ rest := fun hm => h.1 (he ▸ List.mem_map_of_mem hm)
      rw [List.find?_cons_of_pos (by simpa using he), Option.map_some, Option.some.injEq,
        List.mem_cons, or_iff_left hout, Prod.ext_iff]
      exact ⟨fun hp => ⟨he.symm, hp.symm⟩, fun hp => hp.2.symm⟩
    · have hne : (word, place) ≠ entry := fun hp => he (congrArg Prod.fst hp).symm
      rw [List.find?_cons_of_neg (by simpa using he), ih h.2, List.mem_cons, or_iff_right hne]

/-- Every word selects one command, which answers to it. -/
structure Indexed (r : Registry) : Prop where
  keys : (r.index.map Prod.fst).Nodup
  answers : ∀ word place, (word, place) ∈ r.index →
    ∃ c, r.commands[place]? = some c ∧ word ∈ c.selectors

/-- Moreover every command is selected by its own name. -/
structure Keyed (r : Registry) : Prop extends r.Indexed where
  own : ∀ place c, r.commands[place]? = some c → (fold c.name, place) ∈ r.index

/-- The place that a registration gives to a command. -/
def placeOf (r : Registry) (c : Command) : Nat :=
  (r.find? c.name).getD r.commands.length

/-- A registration gives a command its place, at the end or that of the command which its name
selects. The words of the command select this place afterwards, and no others do. -/
structure Places (c : Command) (place : Nat) (r r' : Registry) : Prop where
  placed : r'.commands[place]? = some c
  others : ∀ i, i ≠ place → r'.commands[i]? = r.commands[i]?
  selected : ∀ i, r.find? c.name = some i → i = place
  answered : ∀ d, r.commands[place]? = some d → fold c.name ∈ d.selectors
  keys : (r'.index.map Prod.fst).Nodup
  mem_index : ∀ entry, entry ∈ r'.index ↔ entry.1 ∈ c.selectors ∧ entry.2 = place ∨
    (entry ∈ r.index ∧ entry.2 ≠ place) ∧ entry.1 ∉ c.selectors

lemma register_of_find?_none (hf : r.find? c.name = none) : r.register c = { r with
    commands := r.commands ++ [c]
    index := c.selectors.foldl (point r.commands.length) r.index } := by
  rw [register, hf]
  rfl

lemma register_of_find?_some (hf : r.find? c.name = some place) : r.register c = { r with
    commands := r.commands.set place c
    index := c.selectors.foldl (point place) (r.index.filter fun e => e.2 != place) } := by
  rw [register, hf]
  rfl

namespace Indexed

lemma lt_of_mem (hr : r.Indexed) (hm : (word, place) ∈ r.index) : place < r.commands.length := by
  obtain ⟨c, hc, -⟩ := hr.answers word place hm
  exact (List.getElem?_eq_some_iff.1 hc).1

lemma places_new (hr : r.Indexed) (hf : r.find? c.name = none) :
    Places c r.commands.length r (r.register c) := by
  rw [register_of_find?_none hf]
  refine ⟨List.getElem?_concat_length, fun i hi => ?_, ?_, fun d hd => ?_,
    nodup_foldl_point _ hr.keys, fun entry => ?_⟩
  · change (r.commands ++ [c])[i]? = r.commands[i]?
    rcases Nat.lt_or_gt_of_ne hi with hlt | hgt
    · exact List.getElem?_append_left hlt
    · rw [List.getElem?_eq_none (Nat.le_of_lt hgt), List.getElem?_eq_none]
      rw [List.length_append]
      exact hgt
  · rw [hf]
    nofun
  · rw [List.getElem?_eq_none (Nat.le_refl _)] at hd
    cases hd
  · have hold : entry ∈ r.index → entry.2 ≠ r.commands.length := fun hm =>
      Nat.ne_of_lt (hr.lt_of_mem hm)
    change entry ∈ c.selectors.foldl (point r.commands.length) r.index ↔ _
    rw [mem_foldl_point, and_iff_left_of_imp hold]

lemma places_again (hr : r.Indexed) (hf : r.find? c.name = some place) :
    Places c place r (r.register c) := by
  have hmem : (fold c.name, place) ∈ r.index := (place?_eq_some_iff hr.keys).1 hf
  obtain ⟨d, hd, hanswers⟩ := hr.answers _ _ hmem
  rw [register_of_find?_some hf]
  refine ⟨List.getElem?_set_self (hr.lt_of_mem hmem), fun i hi => List.getElem?_set_ne hi.symm,
    fun i hi => ?_, fun d' hd' => ?_, ?_, fun entry => ?_⟩
  · exact (Option.some.inj (hf.symm.trans hi)).symm
  · rw [hd] at hd'
    cases hd'
    exact hanswers
  · exact nodup_foldl_point _ (hr.keys.sublist (List.filter_sublist.map Prod.fst))
  · change entry ∈ c.selectors.foldl (point place) (r.index.filter fun e => e.2 != place) ↔ _
    rw [mem_foldl_point, List.mem_filter, bne_iff_ne]

lemma places (hr : r.Indexed) (c : Command) : Places c (r.placeOf c) r (r.register c) := by
  unfold placeOf
  cases hf : r.find? c.name with
  | none => exact hr.places_new hf
  | some place => exact hr.places_again hf

lemma exists_places (hr : r.Indexed) (c : Command) : ∃ place, Places c place r (r.register c) :=
  ⟨_, hr.places c⟩

end Indexed

lemma indexed_empty (limits : Limits) : (empty limits).Indexed :=
  ⟨List.nodup_nil, nofun⟩

lemma keyed_empty (limits : Limits) : (empty limits).Keyed :=
  ⟨indexed_empty limits, nofun⟩

lemma Indexed.register (hr : r.Indexed) (c : Command) : (r.register c).Indexed := by
  obtain ⟨place, hc⟩ := hr.exists_places c
  refine ⟨hc.keys, fun word i hm => ?_⟩
  rcases (hc.mem_index (word, i)).1 hm with ⟨hword, hi⟩ | ⟨⟨hold, hne⟩, -⟩
  · change i = place at hi
    exact ⟨c, hi ▸ hc.placed, hword⟩
  · obtain ⟨d, hd, hword⟩ := hr.answers word i hold
    exact ⟨d, (hc.others i hne).trans hd, hword⟩

/-- Whatever was registered, a command leaves the list only for one whose name it answers to. -/
lemma Indexed.replaced (hr : r.Indexed) {i : Nat} (hd : r.commands[i]? = some d) (c : Command) :
    (r.register c).commands[i]? = some d ∨ fold c.name ∈ d.selectors := by
  obtain ⟨place, hc⟩ := hr.exists_places c
  by_cases hi : i = place
  · subst hi
    exact .inr (hc.answered d hd)
  · exact .inl ((hc.others i hi).trans hd)

lemma Keyed.register (hr : r.Keyed) (hapart : ∀ d ∈ r.commands, c.Apart d) :
    (r.register c).Keyed := by
  obtain ⟨place, hc⟩ := hr.toIndexed.exists_places c
  refine ⟨hr.toIndexed.register c, fun i d hd => ?_⟩
  rw [hc.mem_index]
  by_cases hi : i = place
  · subst hi
    rw [hc.placed] at hd
    cases hd
    exact .inl ⟨Command.mem_selectors.2 (.inl rfl), rfl⟩
  · rw [hc.others i hi] at hd
    have hown := hr.own i d hd
    refine .inr ⟨⟨hown, hi⟩, fun hselected => ?_⟩
    -- The word of a name is lost to a command of the same name only, and that took the place.
    by_cases hname : fold c.name = fold d.name
    · rw [← hname, ← place?_eq_some_iff hr.keys] at hown
      exact hi (hc.selected i hown)
    · exact ((hapart d (List.mem_of_getElem? hd)).not_mem_selectors hname).2 hselected

lemma Keyed.find? (hr : r.Keyed) {i : Nat} (hc : r.commands[i]? = some c)
    (hword : fold word = fold c.name) : r.find? word = some i := by
  rw [Registry.find?, hword]
  exact (place?_eq_some_iff hr.keys).2 (hr.own i c hc)

lemma Keyed.names_pairwise (hr : r.Keyed) :
    r.commands.Pairwise fun c d => fold c.name ≠ fold d.name := by
  rw [List.pairwise_iff_getElem]
  intro i j hi hj hlt he
  have hfirst : r.find? r.commands[i].name = some i := hr.find? (List.getElem?_eq_getElem hi) rfl
  have hsecond : r.find? r.commands[i].name = some j := hr.find? (List.getElem?_eq_getElem hj) he
  exact Nat.ne_of_lt hlt (Option.some.inj (hfirst.symm.trans hsecond))

/-! ## Histories -/

/-- No command of some is registered beside one that answers to its name, or to whose name it
answers. -/
def AllApart : Registry → List Command → Prop
  | _, [] => True
  | r, c :: rest => (∀ d ∈ r.commands, c.Apart d) ∧ (r.register c).AllApart rest

instance decidableAllApart : (r : Registry) → (cs : List Command) → Decidable (r.AllApart cs)
  | _, [] => inferInstanceAs (Decidable True)
  | r, c :: rest =>
    have := decidableAllApart (r.register c) rest
    inferInstanceAs (Decidable ((∀ d ∈ r.commands, c.Apart d) ∧ (r.register c).AllApart rest))

lemma Indexed.registerAll (hr : r.Indexed) (cs : List Command) :
    (cs.foldl Registry.register r).Indexed := by
  induction cs generalizing r with
  | nil => exact hr
  | cons c rest ih => exact ih (hr.register c)

lemma Keyed.registerAll {cs : List Command} (hr : r.Keyed) (hcs : r.AllApart cs) :
    (cs.foldl Registry.register r).Keyed := by
  induction cs generalizing r with
  | nil => exact hr
  | cons c rest ih => exact ih (hr.register hcs.1) hcs.2

lemma reserved?_eq_none (hword : fold word ∉ ["help", "?", "resetpins"]) :
    reserved? word = none := by
  unfold reserved?
  split
  · next he => exact absurd (by simp [he]) hword
  · next he => exact absurd (by simp [he]) hword
  · next he => exact absurd (by simp [he]) hword
  · rfl

/-- The commands of a registry are told apart by their names, in any case: no two have the same
one, a line that begins with the name of a command is carried out by this command, and a command
leaves only for one of the same name, as long as no alias comes between them. -/
structure ByName (r : Registry) : Prop where
  names : r.commands.Pairwise fun c d : Command => fold c.name ≠ fold d.name
  dispatched : ∀ (i : Nat) (c : Command), r.commands[i]? = some c →
    fold c.name ∉ ["help", "?", "resetpins"] →
    ∀ (line : Line) (rig : Rig), fold (line.command.headD "") = fold c.name →
      (dispatch line).exec (r, rig) =
        (((Command.dispatch line).exec (c, rig)).1,
          { r with commands := r.commands.set i ((Command.dispatch line).exec (c, rig)).2.1 },
          ((Command.dispatch line).exec (c, rig)).2.2)
  replaced : ∀ c : Command, (∀ d ∈ r.commands, c.Apart d) →
    ∀ (i : Nat) (d : Command), r.commands[i]? = some d → fold c.name ≠ fold d.name →
      (r.register c).commands[i]? = some d

lemma Keyed.byName (hr : r.Keyed) : r.ByName where
  names := hr.names_pairwise
  dispatched i c hc hreserved line rig hword := by
    have hnone : reserved? (line.command.headD "") = none := reserved?_eq_none (hword ▸ hreserved)
    rw [exec_dispatch_of_find? hnone (hr.find? hc hword), exec_dispatchAt hc]
  replaced c hc i d hd hne := by
    have hout : fold c.name ∉ d.selectors :=
      ((hc d (List.mem_of_getElem? hd)).not_mem_selectors hne).1
    exact (hr.toIndexed.replaced hd c).resolve_right hout

/-- Whatever is registered in whatever order, a word selects a command that answers to it, and a
command leaves only for one whose name it answers to. The commands are kept by their names if none
of them is registered beside another one that answers to its name. -/
theorem byName_of_registrations (limits : Limits) (commands : List Command) :
    let r := commands.foldl register (empty limits)
    (∀ (word : String) (i : Nat), r.find? word = some i →
      ∃ c, r.commands[i]? = some c ∧ fold word ∈ c.selectors) ∧
    (∀ (c : Command) (i : Nat) (d : Command), r.commands[i]? = some d →
      (r.register c).commands[i]? = some d ∨ fold c.name ∈ d.selectors) ∧
    ((empty limits).AllApart commands → r.ByName) := by
  intro r
  have hr : r.Indexed := (indexed_empty limits).registerAll commands
  refine ⟨fun word i hword => ?_, fun c i d hd => hr.replaced hd c, fun hcommands => ?_⟩
  · exact hr.answers _ _ ((place?_eq_some_iff hr.keys).1 hword)
  · exact ((keyed_empty limits).registerAll hcommands).byName

/-- A command that is registered again in another case and with another alias, and one that takes
over an alias. -/
theorem byName_of_echoes :
    let commands : List Command := [.probe ⟨"echo", ["say"], "one", "u", none, fun _ => none, 0⟩,
      .probe ⟨"ping", ["p"], "two", "v", none, fun _ => none, 0⟩,
      .probe ⟨"ECHO", ["tell"], "three", "w", none, fun _ => none, 0⟩, .gpio,
      .probe ⟨"Trace", ["SAY", "P"], "four", "x", none, fun _ => none, 0⟩]
    let r := commands.foldl register (empty ⟨80, 8, 8⟩)
    r.commands.map Command.name = ["ECHO", "ping", "gpio", "Trace"] ∧ r.ByName :=
  ⟨by decide, (byName_of_registrations _ _).2.2 (by decide)⟩

/-- An alias and a name that are the same word. The name takes the place of the command with the
alias; the alias takes the word from the command with the name, which may then be registered
again beside itself. -/
theorem name_meets_alias :
    let echo : Command := .probe ⟨"echo", ["say"], "one", "u", none, fun _ => none, 0⟩
    let say : Command := .probe ⟨"say", [], "two", "v", none, fun _ => none, 0⟩
    let registered (commands : List Command) := commands.foldl register (empty ⟨80, 8, 8⟩)
    (registered [echo, say]).commands = [say] ∧
      (registered [say, echo]).commands = [say, echo] ∧
      (registered [say, echo]).find? "say" = some 1 ∧
      (registered [say, echo, say]).commands.map Command.name = ["say", "say"] := by
  exact ⟨rfl, rfl, rfl, rfl⟩

end Registry

end Instrument
