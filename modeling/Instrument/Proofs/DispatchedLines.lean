import Instrument.Proofs.FailedLines

/-!
# Lines that reach a command

A line does something only if it is dispatched: it has been read, and its trace, if one is wanted,
has got through. Its first word then tells which of the built-in commands it reaches, as these keep
their places and their words for good.
-/

namespace Instrument

open Act Text

/-- The line consists of these command words, in any case, and no data. -/
def Line.asks (line : Line) (words : List String) : Bool :=
  line.command.map fold == words && line.data.isEmpty

lemma Line.asks_iff {line : Line} {words : List String} :
    line.asks words = true ↔ line.command.map fold = words ∧ line.data = [] := by
  simp [asks]

lemma Line.expectNoMore_eq_ok_iff {line : Line} {n : Nat} :
    line.expectNoMore n = .ok () ↔ line.command.length ≤ n := by
  rw [← List.getElem?_eq_none_iff, expectNoMore]
  cases line.command[n]? <;> simp

lemma Line.expectData_zero_iff {line : Line} {data : List String} :
    line.expectData 0 = .ok data ↔ line.data = [] ∧ data = [] := by
  unfold expectData
  by_cases hd : line.data = []
  · simp [hd, eq_comm]
  · simp [hd]

/-- The checks after a word pass exactly if the word is the whole line. -/
lemma Line.asks_singleton_iff {line : Line} {word : String} (hne : word ≠ fold "") :
    line.asks [word] = true ↔ fold (line.command.headD "") = word ∧
      line.expectNoMore 1 = .ok () ∧ line.expectData 0 = .ok [] := by
  rw [asks_iff, expectNoMore_eq_ok_iff, expectData_zero_iff]
  rcases line.command with _ | ⟨first, _ | ⟨second, rest⟩⟩
  · simp [hne.symm]
  · simp
  · simp

lemma Line.asks_pair_iff {line : Line} {word action : String} :
    line.asks [word, action] = true ↔ fold (line.command.headD "") = word ∧
      (∃ token, line.command[1]? = some token ∧ fold token = action) ∧
      line.expectNoMore 2 = .ok () ∧ line.expectData 0 = .ok [] := by
  rw [asks_iff, expectNoMore_eq_ok_iff, expectData_zero_iff]
  rcases line.command with _ | ⟨first, _ | ⟨second, _ | ⟨third, rest⟩⟩⟩
  · simp
  · simp
  · simp [and_assoc]
  · simp

lemma Vocabulary.resolve_eq_ok_iff {α : Type} {v : Vocabulary α} {token : String} {a : α} :
    v.resolve (some token) = .ok a ↔
      (v.entries.find? fun entry => fold entry.1 == fold token).map (·.2) = some a := by
  have hfind : v.find? token =
      (v.entries.find? fun entry => fold entry.1 == fold token).map (·.2) := rfl
  rw [resolve, hfind]
  cases (v.entries.find? fun entry => fold entry.1 == fold token).map (·.2) <;> simp

lemma Vocabulary.exists_of_resolve {α : Type} {v : Vocabulary α} {token? : Option String} {a : α}
    (h : v.resolve token? = .ok a) :
    ∃ token, token? = some token ∧
      ∃ entry ∈ v.entries, entry.2 = a ∧ fold token = fold entry.1 := by
  cases token? with
  | none => cases h
  | some token =>
    obtain ⟨entry, hentry, hmeaning⟩ := Option.map_eq_some_iff.1 (resolve_eq_ok_iff.1 h)
    have hfold : fold entry.1 = fold token := by simpa using List.find?_some hentry
    exact ⟨token, rfl, entry, List.mem_of_find?_eq_some hentry, hmeaning, hfold.symm⟩

/-- The word in a place of the line, in lower case. -/
def Line.word? (line : Line) (i : Nat) : Option String :=
  (line.command[i]?).map fold

lemma Line.word?_of_resolve {α : Type} {line : Line} {v : Vocabulary α} {i : Nat} {a : α}
    {p : String → α → Prop} (h : v.resolve line.command[i]? = .ok a)
    (hv : ∀ entry ∈ v.entries, p (fold entry.1) entry.2) :
    ∃ word, line.word? i = some word ∧ p word a := by
  obtain ⟨token, htoken, entry, hentry, rfl, hfold⟩ := Vocabulary.exists_of_resolve h
  refine ⟨fold entry.1, ?_, hv entry hentry⟩
  rw [word?, htoken, Option.map_some, hfold]

lemma Line.resolve_of_word? {α : Type} {line : Line} {v : Vocabulary α} {i : Nat} {a : α}
    {word : String} (h : line.word? i = some word)
    (hv : (v.entries.find? fun entry => fold entry.1 == word).map (·.2) = some a) :
    v.resolve line.command[i]? = .ok a := by
  obtain ⟨token, htoken, hfold⟩ := Option.map_eq_some_iff.1 h
  rw [htoken, Vocabulary.resolve_eq_ok_iff, hfold, hv]

/-- Where a meaning has one word only, the word tells the meaning and the meaning the word. -/
lemma Line.resolve_iff_word? {α : Type} (name : α → String) {line : Line} {v : Vocabulary α}
    {i : Nat} {a : α} (hname : ∀ entry ∈ v.entries, fold entry.1 = name entry.2)
    (hv : (v.entries.find? fun entry => fold entry.1 == name a).map (·.2) = some a) :
    v.resolve line.command[i]? = .ok a ↔ line.word? i = some (name a) := by
  constructor
  · intro h
    obtain ⟨_, hword, rfl⟩ := word?_of_resolve (p := fun word a => word = name a) h hname
    exact hword
  · intro h
    exact resolve_of_word? h hv

lemma Line.words_eq_iff {line : Line} {first second third : String} :
    line.command.map fold = [first, second, third] ↔
      fold (line.command.headD "") = first ∧ line.word? 1 = some second ∧
        line.word? 2 = some third ∧ line.expectNoMore 3 = .ok () := by
  rw [expectNoMore_eq_ok_iff, word?, word?]
  rcases line.command with _ | ⟨x, _ | ⟨y, _ | ⟨z, _ | ⟨extra, rest⟩⟩⟩⟩ <;> simp

/-- A line that passes the checks of an action with one word consists of that word and the name
of the command. -/
lemma Line.asks_of_resolve {α : Type} {line : Line} {v : Vocabulary α} {a : α}
    {word action : String} {data : List String} (hw : fold (line.command.headD "") = word)
    (ha : v.resolve line.command[1]? = .ok a)
    (haction : ∀ entry ∈ v.entries, entry.2 = a → fold entry.1 = action)
    (hmore : line.expectNoMore 2 = .ok ()) (hdata : line.expectData 0 = .ok data) :
    line.asks [word, action] = true := by
  obtain ⟨-, rfl⟩ := expectData_zero_iff.1 hdata
  obtain ⟨token, htoken, entry, hentry, hmeaning, hfold⟩ := Vocabulary.exists_of_resolve ha
  rw [haction entry hentry hmeaning] at hfold
  exact asks_pair_iff.2 ⟨hw, ⟨token, htoken, hfold⟩, hmore, hdata⟩

namespace Registry

variable {r : Registry} {rig : Rig} {line : Line} {adc : Adc} {dac : Dac}

/-! ## Dispatch -/

/-- The line that a text has dispatched, if its trace is not lost. -/
def traced? (text : String) (s : Registry × Rig) : Option Line :=
  match Line.read s.1.limits text with
  | .ok (some line) =>
    match (Rig.debug ("fetch: " ++ line.render)).exec s.2 with
    | (.ok _, _) => some line
    | (.error _, _) => none
  | _ => none

/-- A text is carried out by way of the line that it has dispatched, or does nothing but reply. -/
lemma exec_execute (text : String) (r : Registry) (rig : Rig) :
    (traced? text (r, rig) = none ∧ ∃ answer console,
      (execute text).exec (r, rig) = (answer, r, { rig with console })) ∨
    ∃ line console, traced? text (r, rig) = some line ∧
      ({ rig with console } : Rig).setting = rig.setting ∧
      (execute text).exec (r, rig) = (dispatch line).exec (r, { rig with console }) := by
  simp only [execute, traced?, exec_bind, exec_get]
  cases Line.read r.limits text with
  | error d => exact .inl ⟨rfl, _, _, rfl⟩
  | ok line? =>
    cases line? with
    | none => exact .inl ⟨rfl, _, _, rfl⟩
    | some line =>
      obtain ⟨console, hc⟩ := Rig.onlyReplies_debug ("fetch: " ++ line.render) rig
      have hs := rig.setting_debug ("fetch: " ++ line.render)
      -- A trace that is lost ends the request before anything is dispatched.
      rcases hd : (Rig.debug ("fetch: " ++ line.render)).exec rig with ⟨fault | _, rig'⟩
      · rw [hd] at hc
        change rig' = _ at hc
        refine .inl ⟨by simp only [hd], .error fault, console, ?_⟩
        simp only [exec_bind, exec_beside, hd, hc]
      · rw [hd] at hc hs
        change rig' = _ at hc
        refine .inr ⟨line, console, by simp only [hd], hc ▸ hs, ?_⟩
        simp only [exec_bind, exec_beside, hd, hc]

lemma exists_parse (text : String) (s : Registry × Rig) :
    ∃ ok console, parse text s = (ok, ((execute text).exec s).2.1,
      { ((execute text).exec s).2.2 with console }) := by
  unfold parse
  rcases (execute text).exec s with ⟨fault | _, r, rig⟩
  · exact ⟨false, _, rfl⟩
  · exact ⟨true, rig.console, rfl⟩

lemma exists_handle {text : String} (htext : ¬ (trim text.toList).isEmpty = true)
    (s : Registry × Rig) :
    let s₁ := (s.1, ((Rig.onConsole Console.openFrame).exec s.2).2)
    ∃ ok console, handle text s = (ok, ((execute text).exec s₁).2.1,
      { ((execute text).exec s₁).2.2 with console }) := by
  intro s₁
  obtain ⟨ok, console, hp⟩ := exists_parse text s₁
  have hopen : (beside (Rig.onConsole Console.openFrame)).exec s =
      (((Rig.onConsole Console.openFrame).exec s.2).1, s₁) := rfl
  rw [handle, if_neg htext]
  simp only [hopen, hp]
  cases ((Rig.onConsole Console.openFrame).exec s.2).1 with
  | error fault => exact ⟨ok, console, rfl⟩
  | ok _ => exact ⟨ok, _, rfl⟩

end Registry

namespace Station

variable {s : Station} {stimulus : Stimulus} {line : Line}

def dispatched? (s : Station) (stimulus : Stimulus) : Option Line :=
  (s.hands stimulus).bind fun (text, registry, rig) => Registry.traced? text (registry, rig)

/-- What a text does that a stimulus hands on, is what the stimulus does, apart from replies. -/
lemma exists_undergo_of_hands {text : String} {registry : Registry} {rig : Rig}
    (h : s.hands stimulus = some (text, registry, rig)) :
    registry = s.registry ∧
      s.answer stimulus = ((Registry.execute text).exec (registry, rig)).1 ∧
      ∃ before after, rig = { s.rig with console := before } ∧ rig.setting = s.rig.setting ∧
        s.undergo stimulus = { s with
          registry := ((Registry.execute text).exec (registry, rig)).2.1
          rig := { ((Registry.execute text).exec (registry, rig)).2.2 with
            console := after } } := by
  cases stimulus with
  | execute text =>
    cases h
    rw [undergo_execute]
    refine ⟨rfl, rfl, s.rig.console,
      ((Registry.execute text).exec (s.registry, s.rig)).2.2.console, rfl, rfl, ?_⟩
    rfl
  | parse text =>
    cases h
    obtain ⟨ok, console, hp⟩ := Registry.exists_parse text (s.registry, s.rig)
    refine ⟨rfl, rfl, s.rig.console, console, rfl, rfl, ?_⟩
    simp only [undergo, hp]
  | handle text =>
    by_cases htext : (trim text.toList).isEmpty = true
    · simp only [hands, if_pos htext] at h
      cases h
    · have ha : s.answer (.handle text) = ((Registry.execute text).exec
          (s.registry, ((Rig.onConsole Console.openFrame).exec s.rig).2)).1 := by
        simp only [answer, hands, if_neg htext]
      simp only [hands, if_neg htext] at h
      cases h
      obtain ⟨ok, console, hp⟩ := Registry.exists_handle htext (s.registry, s.rig)
      refine ⟨rfl, ha, (Console.openFrame.exec s.rig.console).2, console, rfl,
        s.rig.setting_line "BEGIN:", ?_⟩
      simp only [undergo, hp]
  | shell text => cases h
  | reset => cases h
  | elapse us => cases h
  | setLevel pin high => cases h
  | setAnalog pin code => cases h

lemma undergo_of_hands {text : String} {registry : Registry} {rig : Rig}
    (h : s.hands stimulus = some (text, registry, rig)) :
    registry = s.registry ∧ rig.pins = s.rig.pins ∧
      s.answer stimulus = ((Registry.execute text).exec (registry, rig)).1 ∧
      (s.undergo stimulus).registry = ((Registry.execute text).exec (registry, rig)).2.1 ∧
      (s.undergo stimulus).rig.pins = ((Registry.execute text).exec (registry, rig)).2.2.pins := by
  obtain ⟨rfl, ha, before, after, rfl, -, hu⟩ := exists_undergo_of_hands h
  rw [hu]
  exact ⟨rfl, rfl, ha, rfl, rfl⟩

/-- What the dispatched line does is what the stimulus does, apart from replies. -/
lemma exists_undergo_of_dispatched (h : s.dispatched? stimulus = some line) :
    ∃ before after, ({ s.rig with console := before } : Rig).setting = s.rig.setting ∧
      s.answer stimulus =
        ((Registry.dispatch line).exec (s.registry, { s.rig with console := before })).1 ∧
      s.undergo stimulus = { s with
        registry :=
          ((Registry.dispatch line).exec (s.registry, { s.rig with console := before })).2.1
        rig := { ((Registry.dispatch line).exec
          (s.registry, { s.rig with console := before })).2.2 with console := after } } := by
  cases hh : s.hands stimulus with
  | none =>
    rw [dispatched?, hh] at h
    cases h
  | some handed =>
    obtain ⟨text, registry, rig⟩ := handed
    rw [dispatched?, hh] at h
    change Registry.traced? text (registry, rig) = some line at h
    obtain ⟨rfl, ha, before, after, rfl, hset, hu⟩ := exists_undergo_of_hands hh
    rcases Registry.exec_execute text s.registry { s.rig with console := before } with
      ⟨hnone, -⟩ | ⟨line', console, hsome, hset', he⟩
    · rw [hnone] at h
      cases h
    · rw [hsome] at h
      cases h
      rw [he] at ha hu
      dsimp only at ha hu hset'
      refine ⟨console, after, hset'.trans hset, ?_, ?_⟩
      · exact ha
      · rw [hu]

lemma undergo_of_dispatched (h : s.dispatched? stimulus = some line) :
    ∃ rig : Rig, rig.pins = s.rig.pins ∧
      s.answer stimulus = ((Registry.dispatch line).exec (s.registry, rig)).1 ∧
      (s.undergo stimulus).registry = ((Registry.dispatch line).exec (s.registry, rig)).2.1 ∧
      (s.undergo stimulus).rig.pins =
        ((Registry.dispatch line).exec (s.registry, rig)).2.2.pins := by
  obtain ⟨before, after, -, ha, hu⟩ := exists_undergo_of_dispatched h
  refine ⟨{ s.rig with console := before }, rfl, ha, ?_, ?_⟩
  · rw [hu]
  · rw [hu]

end Station

end Instrument
