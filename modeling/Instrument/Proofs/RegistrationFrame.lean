import Instrument.Proofs.CommandNames

/-!
# What a registration leaves alone

A registration takes the words of its command, in any case, and lets go of the words of the command
that it replaces; every other word selects what it has selected before. Lines move no words. So at
any time a word selects a command that is there, and a line is carried out by the command that its
first word selects, unless this word is reserved.
-/

namespace Instrument

open Act Text

namespace Command

lemma selectors_dispatch (line : Line) (c : Command) (rig : Rig) :
    ((dispatch line).exec (c, rig)).2.1.selectors = c.selectors := by
  cases c <;> rfl

lemma selectors_reset (c : Command) (rig : Rig) :
    (reset.exec (c, rig)).2.1.selectors = c.selectors := by
  cases c <;> rfl

end Command

namespace Registry

variable {r r₀ r' : Registry} {c : Command} {line : Line} {rig : Rig} {s : Registry × Rig}
  {word : String} {place : Nat}

/-- A registration moves the words of its command and those of the command in its place, and no
other. -/
structure Framed (c : Command) (r r' : Registry) : Prop where
  length_le : r.commands.length ≤ r'.commands.length
  taken : ∀ word, fold word ∈ c.selectors →
    ∃ place, r'.find? word = some place ∧ r'.commands[place]? = some c
  dropped : ∀ word, fold word ∉ c.selectors →
    ∀ place, r.find? c.name = some place → r.find? word = some place → r'.find? word = none
  kept : ∀ word, fold word ∉ c.selectors →
    (∀ place, r.find? c.name = some place → r.find? word ≠ some place) →
    r'.find? word = r.find? word ∧
      ∀ place, r.find? word = some place → r'.commands[place]? = r.commands[place]?

lemma length_le_register (r : Registry) (c : Command) :
    r.commands.length ≤ (r.register c).commands.length := by
  cases hf : r.find? c.name with
  | none =>
    rw [register_of_find?_none hf, List.length_append]
    exact Nat.le_add_right _ _
  | some place =>
    rw [register_of_find?_some hf]
    exact Nat.le_of_eq List.length_set.symm

namespace Indexed

lemma find?_eq_some_iff (hr : r.Indexed) :
    r.find? word = some place ↔ (fold word, place) ∈ r.index :=
  place?_eq_some_iff hr.keys

lemma exists_of_find? (hr : r.Indexed) (hf : r.find? word = some place) :
    ∃ c, r.commands[place]? = some c := by
  obtain ⟨c, hc, -⟩ := hr.answers _ _ (hr.find?_eq_some_iff.1 hf)
  exact ⟨c, hc⟩

/-- The words of the command select its place, and no other word does so any more. -/
lemma find?_register (hr : r.Indexed) (c : Command) (word : String) :
    (r.register c).find? word =
      if fold word ∈ c.selectors then some (r.placeOf c)
      else (r.find? word).filter (· != r.placeOf c) := by
  ext place
  rw [(hr.register c).find?_eq_some_iff, (hr.places c).mem_index]
  split
  · next htaken => simp [htaken, eq_comm]
  · next hfree =>
    rw [Option.filter_eq_some_iff, hr.find?_eq_some_iff]
    simp [hfree]

/-- The place is a new one unless the name has selected it. -/
lemma ne_placeOf (hr : r.Indexed) (hf : r.find? word = some place)
    (hc : ∀ i, r.find? c.name = some i → r.find? word ≠ some i) : place ≠ r.placeOf c := by
  rintro rfl
  cases hname : r.find? c.name with
  | none =>
    have hlt := hr.lt_of_mem (hr.find?_eq_some_iff.1 hf)
    rw [placeOf, hname] at hlt
    exact Nat.lt_irrefl _ hlt
  | some i =>
    rw [placeOf, hname] at hf
    exact hc i hname hf

lemma framed (hr : r.Indexed) (c : Command) : Framed c r (r.register c) where
  length_le := length_le_register r c
  taken word hword := by
    refine ⟨r.placeOf c, ?_, (hr.places c).placed⟩
    rw [hr.find?_register, if_pos hword]
  dropped word hword place hname hf := by
    have hplace : r.placeOf c = place := by rw [placeOf, hname, Option.getD_some]
    rw [hr.find?_register, if_neg hword, hf, hplace]
    simp
  kept word hword hc := by
    constructor
    · rw [hr.find?_register, if_neg hword]
      cases hf : r.find? word with
      | none => rfl
      | some place => exact Option.filter_some_pos (bne_iff_ne.2 (hr.ne_placeOf hf hc))
    · exact fun place hf => (hr.places c).others place (hr.ne_placeOf hf hc)

end Indexed

/-- The commands may be in other states, but have the same words in the same places. -/
structure SameWords (r r' : Registry) : Prop where
  index : r'.index = r.index
  selectors : r'.commands.map Command.selectors = r.commands.map Command.selectors

lemma SameWords.refl (r : Registry) : SameWords r r :=
  ⟨rfl, rfl⟩

lemma SameWords.indexed (h : SameWords r r') (hr : r.Indexed) : r'.Indexed := by
  refine ⟨h.index ▸ hr.keys, fun word place hm => ?_⟩
  rw [h.index] at hm
  obtain ⟨c, hc, hword⟩ := hr.answers word place hm
  have hget : (r'.commands.map Command.selectors)[place]? = some c.selectors := by
    rw [h.selectors, List.getElem?_map, hc, Option.map_some]
  rw [List.getElem?_map, Option.map_eq_some_iff] at hget
  obtain ⟨c', hc', hsame⟩ := hget
  exact ⟨c', hc', hsame ▸ hword⟩

lemma SameWords.length_eq (h : SameWords r r') : r'.commands.length = r.commands.length := by
  have hlength := congrArg List.length h.selectors
  rwa [List.length_map, List.length_map] at hlength

lemma selectors_resetAll (commands : List Command) (rig : Rig) :
    (resetAll commands rig).2.1.map Command.selectors = commands.map Command.selectors := by
  induction commands generalizing rig with
  | nil => rfl
  | cons c rest ih =>
    have hcons : (resetAll (c :: rest) rig).2.1 = (Command.reset.exec (c, rig)).2.1 ::
        (resetAll rest (Command.reset.exec (c, rig)).2.2).2.1 := rfl
    rw [hcons, List.map_cons, List.map_cons, ih, Command.selectors_reset]

lemma keeps_words_dispatchAt (place : Nat) (line : Line) :
    Keeps (fun s : Registry × Rig => SameWords r₀ s.1) (dispatchAt place line) := by
  rintro ⟨r, rig⟩ hs
  cases hp : r.commands[place]? with
  | none =>
    have hexec : (dispatchAt place line).exec (r, rig) = (.ok (), r, rig) := by
      simp only [dispatchAt, exec, hp]
    rw [hexec]
    exact hs
  | some c =>
    rw [exec_dispatchAt hp]
    refine ⟨hs.index, Eq.trans ?_ hs.selectors⟩
    have hget : (r.commands.map Command.selectors)[place]? = some c.selectors := by
      rw [List.getElem?_map, hp, Option.map_some]
    obtain ⟨hlt, hget⟩ := List.getElem?_eq_some_iff.1 hget
    change (r.commands.set place _).map Command.selectors = _
    rw [List.map_set, Command.selectors_dispatch, ← hget, List.set_getElem_self]

lemma steady_words : Steady (fun s => SameWords r₀ s.1) :=
  ⟨fun _ _ _ hs => hs, keeps_words_dispatchAt,
    fun s hs => ⟨hs.index, (selectors_resetAll s.1.commands s.2).trans hs.selectors⟩⟩

/-- What a registry may be asked to do. -/
inductive Call where
  | register (c : Command)
  | init
  | reset
  | execute (text : String)
  | parse (text : String)
  | handle (text : String)

/-- What is left of the registry and the rig afterwards. -/
def Call.apply : Call → Registry × Rig → Registry × Rig
  | register c, s => (s.1.register c, s.2)
  | init, s => (Registry.init.exec s).2
  | reset, s => (Registry.reset.exec s).2
  | execute text, s => ((Registry.execute text).exec s).2
  | parse text, s => (Registry.parse text s).2
  | handle text, s => (Registry.handle text s).2

/-- Only a registration moves words. -/
lemma Call.apply_cases (call : Call) (s : Registry × Rig) :
    (∃ c, (call.apply s).1 = s.1.register c) ∨ SameWords s.1 (call.apply s).1 := by
  cases call with
  | register c => exact .inl ⟨c, rfl⟩
  | init => exact .inr (.refl s.1)
  | reset => exact .inr (steady_words.reset s (.refl s.1))
  | execute text => exact .inr (steady_words.execute text s (.refl s.1))
  | parse text => exact .inr (steady_words.parse text (.refl s.1))
  | handle text => exact .inr (steady_words.handle text (.refl s.1))

lemma Indexed.apply (hs : s.1.Indexed) (call : Call) : (call.apply s).1.Indexed := by
  rcases call.apply_cases s with ⟨c, he⟩ | hsame
  · rw [he]
    exact hs.register c
  · exact hsame.indexed hs

lemma Indexed.run (hs : s.1.Indexed) (calls : List Call) :
    (calls.foldl (fun s call => call.apply s) s).1.Indexed := by
  induction calls generalizing s with
  | nil => exact hs
  | cons call rest ih => exact ih (hs.apply call)

lemma length_le_apply (call : Call) (s : Registry × Rig) :
    s.1.commands.length ≤ (call.apply s).1.commands.length := by
  rcases call.apply_cases s with ⟨c, he⟩ | hsame
  · rw [he]
    exact length_le_register s.1 c
  · exact Nat.le_of_eq hsame.length_eq.symm

/-! ## Dispatch -/

/-- The request, for a line of one word. -/
def alone (line : Line) (request : Act (Registry × Rig) Unit) : Act (Registry × Rig) Unit := do
  check (line.expectNoMore 1)
  let _ ← check (line.expectData 0)
  request

/-- A line goes where its first word leads: to the registry itself, to a command, or nowhere. -/
structure Led (r : Registry) : Prop where
  help : ∀ (line : Line) (rig : Rig), fold (line.command.headD "") ∈ ["help", "?"] →
    (dispatch line).exec (r, rig) = (alone line (Act.beside r.help)).exec (r, rig)
  resetPins : ∀ (line : Line) (rig : Rig), fold (line.command.headD "") = "resetpins" →
    (dispatch line).exec (r, rig) = (alone line (do
      reset
      Act.beside (Rig.onConsole (Console.info "all pins reset")))).exec (r, rig)
  selected : ∀ (line : Line) (rig : Rig),
    fold (line.command.headD "") ∉ ["help", "?", "resetpins"] →
    ∀ place, r.find? (line.command.headD "") = some place →
      ∃ c, r.commands[place]? = some c ∧
        (dispatch line).exec (r, rig) =
          (((Command.dispatch line).exec (c, rig)).1,
            { r with commands := r.commands.set place ((Command.dispatch line).exec (c, rig)).2.1 },
            ((Command.dispatch line).exec (c, rig)).2.2)
  unrecognized : ∀ (line : Line) (rig : Rig),
    fold (line.command.headD "") ∉ ["help", "?", "resetpins"] →
    r.find? (line.command.headD "") = none →
      (dispatch line).exec (r, rig) =
        (.error (.parse ("unrecognized command: " ++ line.command.headD "")), r, rig)

lemma reserved?_help (hword : fold word ∈ ["help", "?"]) : reserved? word = some .help := by
  have hcases : fold word = "help" ∨ fold word = "?" := by simpa using hword
  rcases hcases with h | h
  · simp only [reserved?, h]
  · simp only [reserved?, h]

lemma Indexed.led (hr : r.Indexed) : r.Led where
  help line rig hword := by
    simp only [dispatch, reserved?_help hword, alone, exec_bind, exec_check]
    rcases line.expectNoMore 1 with fault | _
    · rfl
    · rcases line.expectData 0 with fault | _
      · rfl
      · rfl
  resetPins line rig hword := by
    have hreserved : reserved? (line.command.headD "") = some .resetPins := by
      simp only [reserved?, hword]
    simp only [dispatch, hreserved, alone]
  selected line rig hword place hf := by
    obtain ⟨c, hc⟩ := hr.exists_of_find? hf
    refine ⟨c, hc, ?_⟩
    rw [exec_dispatch_of_find? (reserved?_eq_none hword) hf, exec_dispatchAt hc]
  unrecognized line rig hword hf := by
    simp only [dispatch, reserved?_eq_none hword, exec_bind, exec_get, hf, exec_throw]

/-- Whatever is registered in whatever order, and whatever lines are carried out in between: every
word of the index selects a command that is there, a line goes to the command that its first word
selects or is refused, and to no command if the word is reserved. Commands never get fewer, and a
registration moves the words of its command and those of the command that it replaces, and no
other. -/
theorem framed_of_calls (limits : Limits) (rig : Rig) (calls : List Call) :
    let s := calls.foldl (fun s call => call.apply s) (empty limits, rig)
    (∀ entry ∈ s.1.index, entry.2 < s.1.commands.length) ∧ s.1.Led ∧
    (∀ call : Call, s.1.commands.length ≤ (call.apply s).1.commands.length) ∧
    ∀ c : Command, Framed c s.1 (s.1.register c) := by
  intro s
  have hs : s.1.Indexed := (indexed_empty limits).run calls
  exact ⟨fun entry hentry => hs.lt_of_mem hentry, hs.led,
    fun call => length_le_apply call s, hs.framed⟩

/-- A command that is registered again with its name in another case and without its alias. -/
example :
    let probe (name : String) (aliases : List String) : Call :=
      .register (.probe ⟨name, aliases, "d", "u", none, fun _ => none, 0⟩)
    let found (calls : List Call) (rig : Rig) :=
      ["echo", "SAY", "tell", "gpio"].map
        (calls.foldl (fun s call => call.apply s) (empty ⟨80, 8, 8⟩, rig)).1.find?
    ∀ rig, found [probe "echo" ["say"], .register .gpio] rig = [some 0, some 0, none, some 1] ∧
      found [probe "echo" ["say"], .register .gpio, probe "Echo" ["tell"]] rig =
        [some 0, none, some 0, some 1] :=
  fun _ => ⟨rfl, rfl⟩

end Registry

end Instrument
