import Instrument.Proofs.StationReplies
import Instrument.Session

/-!
# The frames of a session

A session answers each piece of its input that is not blank with one frame, and the lines within a
frame are none that could end it: whatever the input holds, the host can tell from the first and
the last line of each frame where an answer begins and how it came out.
-/

namespace Instrument

open Act Text

namespace Text

lemma pieces_append_cons {sep : Char → Bool} {c : Char} (hc : sep c = true) (s t : List Char) :
    pieces sep (s ++ c :: t) = pieces sep s ++ pieces sep t := by
  simp only [pieces, splitBy_eq_splitOnP]
  rw [List.splitOnP_append_cons s t hc, List.filter_append]

lemma pieces_ne_nil {sep : Char → Bool} {s : List Char} {c : Char} (hc : c ∈ s)
    (hsep : sep c = false) : pieces sep s ≠ [] := by
  induction s with
  | nil => cases hc
  | cons d ds ih =>
    rw [pieces, splitBy]
    by_cases hd : sep d = true
    · have hne : c ≠ d := by
        rintro rfl
        rw [hd] at hsep
        cases hsep
      rw [if_pos hd]
      exact ih ((List.mem_cons.1 hc).resolve_left hne)
    · rw [if_neg hd]
      cases hs : splitBy sep ds with
      | nil => exact absurd hs (splitBy_ne_nil sep ds)
      | cons first rest => simp

lemma trim_eq_nil_iff {s : List Char} : trim s = [] ↔ ∀ c ∈ s, isBlank c = true := by
  have htail : trim s = [] ↔ ∀ c ∈ s.dropWhile isBlank, isBlank c = true :=
    List.rdropWhile_eq_nil_iff
  rw [htail]
  constructor
  · intro h
    rw [← List.dropWhile_eq_nil_iff] at h ⊢
    rwa [List.dropWhile_idempotent] at h
  · intro h c hc
    exact h c ((List.dropWhile_sublist _).subset hc)

lemma trim_trim (s : List Char) : trim (trim s) = trim s := by
  have hhead : (trim s).dropWhile isBlank = trim s := by
    rw [List.dropWhile_eq_self_iff]
    intro hl
    have hinit : trim s <+: s.dropWhile isBlank := List.rdropWhile_prefix isBlank _
    have hd := List.dropWhile_eq_self_iff.1 (List.dropWhile_idempotent (p := isBlank) (l := s))
      (hl.trans_le hinit.length_le)
    rw [hinit.getElem hl]
    exact hd
  rw [trim, hhead]
  exact Line.dropTrailing_trim s

lemma dropWhile_of_trim {t : List Char} (ht : trim t = t) : t.dropWhile isBlank = t := by
  have hshort : (trim t).length ≤ (t.dropWhile isBlank).length :=
    (List.rdropWhile_prefix isBlank (t.dropWhile isBlank)).length_le
  rw [ht] at hshort
  exact (List.dropWhile_sublist isBlank).eq_of_length_le hshort

/-- A trimmed text of one word or none holds no blank: there would be words on both sides of it. -/
lemma not_blank_of_words {t : List Char} (ht : trim t = t) (hw : (words t).length ≤ 1) :
    ∀ c ∈ t, isBlank c = false := by
  intro c hc
  by_contra hblank
  have hb : isBlank c = true := by simpa using hblank
  obtain ⟨s, u, rfl⟩ := List.append_of_mem hc
  have hleft : words s ≠ [] := by
    cases s with
    | nil =>
      have hdrop := dropWhile_of_trim ht
      rw [List.nil_append, List.dropWhile_cons_of_pos hb] at hdrop
      have hlength := (List.dropWhile_sublist (p := isBlank) (l := u)).length_le
      rw [hdrop, List.length_cons] at hlength
      omega
    | cons d s =>
      have hd := List.dropWhile_eq_self_iff.1 (dropWhile_of_trim ht) (by simp)
      exact pieces_ne_nil List.mem_cons_self (by simpa using hd)
  have hright : words u ≠ [] := by
    have hlast := Line.dropTrailing_trim (s ++ c :: u)
    rw [ht] at hlast
    have hne : s ++ c :: u ≠ [] := by simp
    have hend := List.rdropWhile_eq_self_iff.1 hlast hne
    cases u using List.reverseRecOn with
    | nil => simp [hb] at hend
    | append_singleton u e =>
      refine pieces_ne_nil (c := e) (by simp) ?_
      simpa using hend
  rw [words, pieces_append_cons hb, List.length_append] at hw
  have hl := List.length_pos_iff.2 hleft
  have hr := List.length_pos_iff.2 hright
  rw [words] at hl hr
  omega

end Text

/-- What a trimmed shell command fails with quotes no more than one word of it. -/
lemma Shell.checks_actionOf {t : List Char} (ht : trim t = t) :
    Checks (actionOf (String.ofList t)) := by
  have hunknown : (words t).length ≤ 1 →
      (Fault.parse ("invalid shell command '" ++ String.ofList t ++ "'")).OneLine := by
    intro hlength
    have hone : OneLine (String.ofList t) := by
      apply oneLine_of_not_blank
      rw [String.toList_ofList]
      exact not_blank_of_words ht hlength
    rw [Fault.oneLine_parse, oneLine_append, oneLine_append]
    exact ⟨⟨oneLine_ofList rfl, hone⟩, oneLine_ofList rfl⟩
  unfold actionOf
  rw [String.toList_ofList]
  rcases hw : words t with _ | ⟨name, _ | ⟨next, rest⟩⟩
  · dsimp only [List.map, List.headD]
    cases actions.find? "" with
    | some action => exact checks_ok action
    | none => exact checks_error (hunknown (by simp [hw]))
  · dsimp only [List.map, List.headD]
    cases actions.find? (String.ofList name) with
    | some action => exact checks_ok action
    | none => exact checks_error (hunknown (by simp [hw]))
  · have hname : name ∈ words t := by
      rw [hw]
      exact List.mem_cons_self
    apply checks_error
    rw [Fault.oneLine_argument, oneLine_append, oneLine_append]
    exact ⟨⟨oneLine_ofList rfl, oneLine_fold (oneLine_of_mem_words hname)⟩, oneLine_ofList rfl⟩

/-- What the host receives for one piece: whether it succeeded, and the lines between the first
and the last. -/
structure Frame where
  ok : Bool
  body : List String

namespace Frame

def lines (frame : Frame) : List String :=
  "BEGIN:" :: frame.body ++ [if frame.ok then "END:OK" else "END:ERROR"]

/-- No line within the frame can be taken for its first or its last one, and it tells of a failure
exactly when it has failed. -/
structure Sound (frame : Frame) : Prop where
  oneLine : ∀ line ∈ frame.body, OneLine line
  within : ∀ line ∈ frame.body, ¬Opens "BEGIN:" line ∧ ¬Opens "END:" line
  success : frame.ok = true → ∀ line ∈ frame.body, ¬Opens "E:" line
  failure : frame.ok = false →
    ∃ notes fault, frame.body = notes ++ ["E:" ++ fault] ∧ ∀ line ∈ notes, Opens "?:" line

lemma sound_of_tagged {body : List String} (h : ∀ line ∈ body, Tagged line ∧ OneLine line) :
    Sound ⟨true, body⟩ where
  oneLine line hline := (h line hline).2
  within line hline :=
    ⟨(h line hline).1.not_opens (by decide), (h line hline).1.not_opens (by decide)⟩
  success _ line hline := (h line hline).1.not_opens (by decide)
  failure := nofun

lemma sound_of_notes {notes : List String} {fault : String} (h : ∀ line ∈ notes, IsNote line)
    (hf : OneLine fault) : Sound ⟨false, notes ++ ["E:" ++ fault]⟩ where
  oneLine line hline := by
    rcases List.mem_append.1 hline with hnote | hlast
    · exact (h line hnote).oneLine
    · rw [List.mem_singleton.1 hlast, oneLine_append]
      exact ⟨oneLine_ofList rfl, hf⟩
  within line hline := by
    rcases List.mem_append.1 hline with hnote | hlast
    · have htagged := (h line hnote).tagged
      exact ⟨htagged.not_opens (by decide), htagged.not_opens (by decide)⟩
    · rw [List.mem_singleton.1 hlast]
      have hopens := opens_append "E:" fault
      exact ⟨not_opens_of_opens hopens (by decide), not_opens_of_opens hopens (by decide)⟩
  success := nofun
  failure _ := ⟨notes, fault, rfl, fun line hline => (h line hline).opens⟩

end Frame

namespace Session

variable {inputs : List Pin} {setting : Rig.Setting} {s t u : Station}

def sent (s : Station) (text : String) : Station :=
  { s with rig := s.rig.sent text }

/-- The instrument has answered with a frame, and works on in its setting. -/
structure Framed (inputs : List Pin) (setting : Rig.Setting) (s : Station) (frame : Frame)
    (t : Station) : Prop where
  inSetting : t.InSetting inputs setting
  sound : frame.Sound
  replies : t.rig.console.replies = s.rig.console.replies ++ frame.lines

lemma exec_line (hw : s.rig.console.Working) (text : String) :
    (Station.onConsole (Console.line text)).exec s = (.ok (), sent s text) := by
  rw [Station.onConsole, Station.onRig, exec_zoom, Rig.exec_line hw, sent]

lemma inSetting_sent (h : s.InSetting inputs setting) (text : String) :
    (sent s text).InSetting inputs setting :=
  ⟨Registry.holds_of_pins h.holds rfl rfl, h.setting_eq, h.working.up, h.working.lossless⟩

lemma inSetting_of_quiet {rig : Rig} (h : s.InSetting inputs setting) (hq : s.rig.Quiet rig) :
    Station.InSetting inputs setting { s with rig } :=
  ⟨Registry.holds_of_pins h.holds rfl hq.pins, hq.setting.trans h.setting_eq,
    Rig.working_of_setting hq.setting h.working⟩

lemma replies_sent (s : Station) (text : String) :
    (sent s text).rig.console.replies = s.rig.console.replies ++ [text] :=
  Console.replies_sent s.rig.console text

lemma framed_of_loud (ho : setting.OneLine) (h : s.InSetting inputs setting)
    (ht : t.InSetting inputs setting) (hl : (sent s "BEGIN:").rig.Loud t.rig) :
    ∃ body, Framed inputs setting s ⟨true, body⟩ (sent t "END:OK") := by
  obtain ⟨body, hbody, hlines⟩ := hl.lines
  refine ⟨body, inSetting_sent ht _, Frame.sound_of_tagged fun line hline => ?_, ?_⟩
  · have hs : (sent s "BEGIN:").rig.setting = setting := h.setting_eq
    obtain ⟨htagged, hone⟩ := hlines line hline
    rw [hs] at hone
    exact ⟨htagged, hone ho⟩
  · rw [replies_sent, hbody, replies_sent]
    simp [Frame.lines]

lemma framed_of_quiet {fault : Fault} (ht : t.InSetting inputs setting)
    (hq : (sent s "BEGIN:").rig.Quiet t.rig) (hf : fault.OneLine) :
    ∃ body, Framed inputs setting s ⟨false, body⟩
      (sent (sent t ("E:" ++ fault.message)) "END:ERROR") := by
  obtain ⟨notes, hnotes, hlines⟩ := hq.notes
  refine ⟨notes ++ ["E:" ++ fault.message], inSetting_sent (inSetting_sent ht _) _,
    Frame.sound_of_notes hlines hf, ?_⟩
  rw [replies_sent, replies_sent, hnotes, replies_sent]
  simp [Frame.lines]

/-- The lines at the end of a shell command's frame. -/
def closing : Except Fault Unit → Act Station Bool
  | .ok _ => do
    Station.onConsole (Console.closeFrame true)
    return true
  | .error fault => do
    Station.onConsole (Console.error fault.message)
    Station.onConsole (Console.closeFrame false)
    return false

lemma exec_shellFrame_eq (hw : s.rig.console.Working) (text : String) {answer : Except Fault Unit}
    (he : (Station.shellCommand text).exec (sent s "BEGIN:") = (answer, t)) :
    (shellFrame text).exec s = (closing answer).exec t := by
  have hopen : (Station.onConsole Console.openFrame).exec s = (.ok (), sent s "BEGIN:") :=
    exec_line hw _
  rw [shellFrame, exec_bind_of_ok hopen, exec_bind_of_ok (exec_get _)]
  simp only [he]
  cases answer <;> rfl

lemma exec_shellFrame (ho : setting.OneLine) (h : s.InSetting inputs setting) {text : List Char}
    (htext : trim text = text) :
    ∃ frame t, (shellFrame (String.ofList text)).exec s = (.ok frame.ok, t) ∧
      Framed inputs setting s frame t := by
  have hopen := inSetting_sent h "BEGIN:"
  have hafter := Station.inSetting_undergo _ (.shell (String.ofList text)) hopen
  rcases Station.exec_shellCommand hopen.working hopen.holds (String.ofList text) with
    ⟨fault, ha, he⟩ | ⟨t, he, hl⟩
  · have hf := Shell.checks_actionOf htext fault ha
    obtain ⟨body, hframed⟩ := framed_of_quiet hopen (.refl _) hf
    refine ⟨⟨false, body⟩, _, ?_, hframed⟩
    have herror : (Station.onConsole (Console.error fault.message)).exec (sent s "BEGIN:") =
        (.ok (), _) := exec_line hopen.working _
    have hclose := exec_line (inSetting_sent hopen ("E:" ++ fault.message)).working "END:ERROR"
    rw [exec_shellFrame_eq h.working _ he]
    exact (exec_bind_of_ok herror).trans (exec_bind_of_ok hclose)
  · have ht : t.InSetting inputs setting := by
      simpa only [Station.undergo, he] using hafter
    obtain ⟨body, hframed⟩ := framed_of_loud ho h ht hl
    refine ⟨⟨true, body⟩, _, ?_, hframed⟩
    rw [exec_shellFrame_eq h.working _ he]
    exact exec_bind_of_ok (exec_line ht.working "END:OK")

lemma exec_fetch (ho : setting.OneLine) (h : s.InSetting inputs setting) {text : String}
    (htext : trim text.toList ≠ []) :
    ∃ frame registry rig,
      Registry.handle text (s.registry, s.rig) = (frame.ok, registry, rig) ∧
      Framed inputs setting s frame { s with registry, rig } := by
  have hopen := inSetting_sent h "BEGIN:"
  have hafter := Station.inSetting_undergo _ (.parse text) hopen
  simp only [Station.undergo] at hafter
  rcases Registry.parse_cases hopen.working hopen.holds text with
    ⟨registry, rig, -, hp, hl⟩ | ⟨fault, rig, -, hp, hq, hf⟩
  · have ht : Station.InSetting inputs setting ⟨s.shell, registry, rig⟩ := by
      rw [show Registry.parse text _ = _ from hp] at hafter
      exact hafter
    obtain ⟨body, hframed⟩ := framed_of_loud ho h ht hl
    exact ⟨⟨true, body⟩, _, _, Registry.handle_of_ne_blank h.working htext hp
      (Rig.working_of_setting hl.setting ⟨h.working.up, h.working.lossless⟩), hframed⟩
  · have ht : Station.InSetting inputs setting ⟨s.shell, s.registry, rig⟩ :=
      inSetting_of_quiet (s := sent s "BEGIN:") hopen hq
    obtain ⟨body, hframed⟩ := framed_of_quiet (s := s) ht hq hf
    exact ⟨⟨false, body⟩, _, _, Registry.handle_of_ne_blank h.working htext hp
      (Rig.working_of_setting hq.setting ⟨h.working.up, h.working.lossless⟩), hframed⟩

lemma exec_dispatch (ho : setting.OneLine) (h : s.InSetting inputs setting) (line : String) :
    (∀ c ∈ line.toList, isBlank c = true) ∧ (dispatch line).exec s = (.ok none, s) ∨
    (¬∀ c ∈ line.toList, isBlank c = true) ∧ ∃ frame t,
      (dispatch line).exec s = (.ok (some frame.ok), t) ∧ Framed inputs setting s frame t := by
  rw [← trim_eq_nil_iff]
  cases hr : trim line.toList with
  | nil =>
    have hroute : Route.of line = .empty := by rw [Route.of, hr]
    refine .inl ⟨rfl, ?_⟩
    rw [dispatch, hroute]
    rfl
  | cons c rest =>
    refine .inr ⟨by simp, ?_⟩
    by_cases hc : c = '+' ∨ c = '.'
    · have hroute : Route.of line = .shell (String.ofList (trim rest)) := by
        simp only [Route.of, hr, if_pos hc]
      obtain ⟨frame, t, he, hf⟩ := exec_shellFrame ho h (trim_trim rest)
      refine ⟨frame, t, ?_, hf⟩
      rw [dispatch, hroute]
      exact (exec_map some _ s).trans (by rw [he]; rfl)
    · have hroute : Route.of line = .fetch (String.ofList (c :: rest)) := by
        simp only [Route.of, hr, if_neg hc]
      have htext : trim (String.ofList (c :: rest)).toList ≠ [] := by
        rw [String.toList_ofList, ← hr, trim_trim, hr]
        exact List.cons_ne_nil c rest
      obtain ⟨frame, registry, rig, he, hf⟩ := exec_fetch ho h htext
      refine ⟨frame, _, ?_, hf⟩
      rw [dispatch, hroute]
      simp only [exec, he]

/-! ## Pieces -/

lemma exec_terminal (h : s.InSetting inputs setting) (ht : setting.terminalDown = false)
    (text : String) : ∃ t, (Station.onConsole (Console.terminal text)).exec s = (.ok (), t) ∧
      t.InSetting inputs setting ∧ t.rig.console.replies = s.rig.console.replies := by
  have hup : s.rig.console.terminalDown = false := by
    have hs := congrArg Rig.Setting.terminalDown h.setting_eq
    exact hs.trans ht
  have hshown : (Console.terminal text).exec s.rig.console =
      (.ok (), { s.rig.console with log := s.rig.console.log.push (.terminal text) }) := by
    simp [Console.terminal, exec, hup]
  refine ⟨_, by rw [Station.onConsole, Station.onRig, exec_zoom, Rig.onConsole, exec_zoom, hshown],
    ?_, ?_⟩
  · exact ⟨Registry.holds_of_pins h.holds rfl rfl, h.setting_eq, h.working.up, h.working.lossless⟩
  · simp [Console.replies, Event.reply?]

lemma exec_showPrompt (h : s.InSetting inputs setting) (ht : setting.terminalDown = false) :
    ∃ t, showPrompt.exec s = (.ok (), t) ∧ t.InSetting inputs setting ∧
      t.rig.console.replies = s.rig.console.replies := by
  rw [showPrompt, exec_bind_of_ok (exec_get s)]
  cases s.shell.prompt? with
  | some prompt => exact exec_terminal h ht prompt
  | none => exact ⟨s, rfl, h, rfl⟩

def Blank (piece : List UInt8) : Prop :=
  ∃ text, Utf8.decode? piece = some text ∧ ∀ c ∈ text.toList, isBlank c = true

/-- A blank piece has no answer, and every other one a frame that is sound. -/
structure IsAnswer (piece : List UInt8) (answer : Option Frame) : Prop where
  eq_none_iff : answer = none ↔ Blank piece
  sound : ∀ frame ∈ answer, frame.Sound

def linesOf (answer : Option Frame) : List String :=
  answer.elim [] Frame.lines

lemma exec_refuse (h : s.InSetting inputs setting) : ∃ frame t,
    refuse.exec s = (.ok (some frame.ok), t) ∧ Framed inputs setting s frame t := by
  have hopen := inSetting_sent h "BEGIN:"
  have hf : (Fault.parse "invalid UTF-8").OneLine := Fault.oneLine_parse.2 (oneLine_ofList rfl)
  obtain ⟨body, hframed⟩ := framed_of_quiet hopen (.refl _) hf
  refine ⟨⟨false, body⟩, _, ?_, hframed⟩
  have herror := inSetting_sent hopen ("E:" ++ (Fault.parse "invalid UTF-8").message)
  exact (exec_bind_of_ok (exec_line h.working _)).trans
    ((exec_bind_of_ok (exec_line hopen.working _)).trans
      (exec_bind_of_ok (exec_line herror.working _)))

/-- What the piece is answered with before the next prompt. -/
def respond (piece : List UInt8) : Act Station (Option Bool) :=
  match Utf8.decode? piece with
  | some line => dispatch line
  | none => refuse

lemma exec_respond (ho : setting.OneLine) (h : s.InSetting inputs setting) (piece : List UInt8) :
    ∃ answer t, (respond piece).exec s = (.ok (answer.map Frame.ok), t) ∧
      t.InSetting inputs setting ∧ IsAnswer piece answer ∧
      t.rig.console.replies = s.rig.console.replies ++ linesOf answer := by
  have hframe : ∀ {act : Act Station (Option Bool)}, ¬Blank piece →
      (∃ frame t, act.exec s = (.ok (some frame.ok), t) ∧ Framed inputs setting s frame t) →
      ∃ answer t, act.exec s = (.ok (answer.map Frame.ok), t) ∧ t.InSetting inputs setting ∧
        IsAnswer piece answer ∧
        t.rig.console.replies = s.rig.console.replies ++ linesOf answer := by
    rintro act hblank ⟨frame, t, he, hf⟩
    refine ⟨some frame, t, he, hf.inSetting, ⟨iff_of_false nofun hblank, ?_⟩, hf.replies⟩
    rintro _ ⟨⟩
    exact hf.sound
  unfold respond
  cases hd : Utf8.decode? piece with
  | none =>
    refine hframe ?_ (exec_refuse h)
    rintro ⟨text, htext, -⟩
    rw [hd] at htext
    cases htext
  | some line =>
    rcases exec_dispatch ho h line with ⟨hblank, he⟩ | ⟨hblank, hf⟩
    · refine ⟨none, s, he, h, ⟨iff_of_true rfl ⟨line, hd, hblank⟩, nofun⟩, ?_⟩
      exact (List.append_nil _).symm
    · refine hframe ?_ hf
      rintro ⟨text, htext, hall⟩
      rw [hd] at htext
      cases htext
      exact hblank hall

lemma exec_echo (h : s.InSetting inputs setting) (ht : setting.terminalDown = false)
    (piece : List UInt8) :
    ∃ t, (if s.shell.echo then echo piece else pure () : Act Station Unit).exec s = (.ok (), t) ∧
      t.InSetting inputs setting ∧ t.rig.console.replies = s.rig.console.replies := by
  split
  · exact exec_terminal h ht _
  · exact ⟨s, rfl, h, rfl⟩

lemma step_eq (piece : List UInt8) : step piece =
    (get >>= fun s => (if s.shell.echo then echo piece else pure ()) >>= fun _ =>
      respond piece >>= fun answer => showPrompt >>= fun _ => pure answer) := by
  unfold step respond
  apply congrArg
  funext s
  cases s.shell.echo <;> cases Utf8.decode? piece <;> rfl

/-- One piece, with its echo before the answer and the prompt after it. -/
lemma exec_step (ho : setting.OneLine) (ht : setting.terminalDown = false)
    (h : s.InSetting inputs setting) (piece : List UInt8) :
    ∃ answer t, (step piece).exec s = (.ok (answer.map Frame.ok), t) ∧
      t.InSetting inputs setting ∧ IsAnswer piece answer ∧
      t.rig.console.replies = s.rig.console.replies ++ linesOf answer := by
  obtain ⟨s₁, he₁, h₁, hr₁⟩ := exec_echo h ht piece
  obtain ⟨answer, s₂, he₂, h₂, ha, hr₂⟩ := exec_respond ho h₁ piece
  obtain ⟨s₃, he₃, h₃, hr₃⟩ := exec_showPrompt h₂ ht
  refine ⟨answer, s₃, ?_, h₃, ha, by rw [hr₃, hr₂, hr₁]⟩
  rw [step_eq, exec_bind_of_ok (exec_get s), exec_bind_of_ok he₁, exec_bind_of_ok he₂,
    exec_bind_of_ok he₃, exec_pure]

/-! ## Sessions -/

lemma inSetting_advance (h : s.InSetting inputs setting) (us : Nat) :
    (s.advance us).InSetting inputs setting ∧
      (s.advance us).rig.console.replies = s.rig.console.replies :=
  ⟨Station.inSetting_undergo s (.elapse us) h,
    (Station.silent_advance h.holds us).resumes.replies⟩

/-- However long the host is silent, time adds nothing to the replies. -/
lemma exec_steps (ho : setting.OneLine) (ht : setting.terminalDown = false)
    (h : s.InSetting inputs setting) (silence : Nat → Nat) (tally : Tally)
    (pieces : List (List UInt8)) :
    ∃ answers t, (steps silence tally pieces).exec s =
        (.ok ((answers.map (Option.map Frame.ok)).foldl Tally.count tally), t) ∧
      t.InSetting inputs setting ∧ List.Forall₂ IsAnswer pieces answers ∧
      t.rig.console.replies = s.rig.console.replies ++ answers.flatMap linesOf := by
  induction pieces generalizing s silence tally with
  | nil =>
    obtain ⟨h₀, hr₀⟩ := inSetting_advance h (silence 0)
    exact ⟨[], _, rfl, h₀, .nil, hr₀.trans (List.append_nil _).symm⟩
  | cons piece rest ih =>
    obtain ⟨h₀, hr₀⟩ := inSetting_advance h (silence 0)
    obtain ⟨answer, s₁, he, h₁, ha, hr⟩ := exec_step ho ht h₀ piece
    obtain ⟨answers, t, hes, h', has, hrs⟩ :=
      ih h₁ (fun k => silence (k + 1)) (tally.count (answer.map Frame.ok))
    refine ⟨answer :: answers, t, ?_, h', .cons ha has, ?_⟩
    · rw [steps, exec_bind_of_ok (exec_modify _ s), exec_bind_of_ok he, hes]
      rfl
    · rw [hrs, hr, hr₀, List.flatMap_cons, List.append_assoc]

/-- The pieces are the input cut after each line feed. -/
structure CutsAtFeeds (input : List UInt8) (pieces : List (List UInt8)) : Prop where
  flatten : pieces.flatten = input
  ne_nil : ∀ piece ∈ pieces, piece ≠ []
  within : ∀ piece ∈ pieces, 10 ∉ piece.dropLast
  ended : ∀ piece ∈ pieces.dropLast, piece.getLast? = some 10

lemma mem_dropLast_cons {α : Type} {a b : α} {l : List α} (h : a ∈ (b :: l).dropLast) :
    a = b ∨ a ∈ l.dropLast := by
  cases l with
  | nil => cases h
  | cons c l => exact List.mem_cons.1 h

/-- A line feed ends its piece, and every other byte opens one or is put before the next piece. -/
lemma cutsAtFeeds_cut (input : List UInt8) : CutsAtFeeds input (cut input) := by
  induction input with
  | nil => exact ⟨rfl, nofun, nofun, nofun⟩
  | cons b rest ih =>
    obtain ⟨hflatten, hne, hwithin, hended⟩ := ih
    rw [cut]
    by_cases hb : b = 10
    · rw [if_pos hb]
      refine ⟨by rw [List.flatten_cons, hflatten]; rfl, ?_, ?_, fun piece hpiece => ?_⟩
      · exact List.forall_mem_cons.2 ⟨List.cons_ne_nil b [], hne⟩
      · exact List.forall_mem_cons.2 ⟨List.not_mem_nil, hwithin⟩
      · rcases mem_dropLast_cons hpiece with rfl | hrest
        · rw [hb]
          rfl
        · exact hended piece hrest
    · rw [if_neg hb]
      cases hc : cut rest with
      | nil =>
        rw [hc] at hflatten
        refine ⟨by rw [← hflatten]; rfl, ?_, ?_, nofun⟩
        · exact List.forall_mem_singleton.2 (List.cons_ne_nil b [])
        · exact List.forall_mem_singleton.2 List.not_mem_nil
      | cons piece pieces =>
        rw [hc] at hflatten hne hwithin hended
        obtain ⟨hpiece, hpieces⟩ := List.forall_mem_cons.1 hne
        obtain ⟨hfirst, hothers⟩ := List.forall_mem_cons.1 hwithin
        refine ⟨by rw [← hflatten]; rfl, ?_, ?_, fun other hother => ?_⟩
        · exact List.forall_mem_cons.2 ⟨List.cons_ne_nil b piece, hpieces⟩
        · refine List.forall_mem_cons.2 ⟨?_, hothers⟩
          rw [List.dropLast_cons_of_ne_nil hpiece, List.mem_cons]
          exact fun hmem => hmem.elim (fun h => hb h.symm) hfirst
        · cases pieces with
          | nil => cases hother
          | cons next pieces =>
            rcases List.mem_cons.1 hother with rfl | hrest
            · rw [List.getLast?_cons, hended piece List.mem_cons_self]
              rfl
            · exact hended other (List.mem_cons_of_mem _ hrest)

lemma foldl_count (tally : Tally) (oks : List (Option Bool)) :
    oks.foldl Tally.count tally =
      ⟨tally.ok + oks.count (some true), tally.failed + oks.count (some false)⟩ := by
  induction oks generalizing tally with
  | nil => rfl
  | cons ok rest ih =>
    rw [List.foldl_cons, ih]
    rcases ok with _ | _ | _ <;> simp [Tally.count] <;> omega

lemma exists_heard_append (pieces : List (List UInt8)) :
    ∃ rest, pieces = heard pieces ++ rest ∧ (∀ piece ∈ heard pieces, 4 ∉ piece) ∧
      ∀ piece ∈ rest.head?, 4 ∈ piece := by
  induction pieces with
  | nil => exact ⟨[], rfl, nofun, nofun⟩
  | cons piece pieces ih =>
    by_cases hend : 4 ∈ piece
    · refine ⟨piece :: pieces, ?_⟩
      have hnone : heard (piece :: pieces) = [] := by simp [heard, endOfTransmission, hend]
      simp [hnone, hend]
    · obtain ⟨rest, happend, hsilent, hhead⟩ := ih
      have hcons : heard (piece :: pieces) = piece :: heard pieces := by
        simp [heard, endOfTransmission, hend]
      refine ⟨rest, ?_, ?_, hhead⟩
      · rw [hcons, List.cons_append, ← happend]
      · rw [hcons]
        exact List.forall_mem_cons.2 ⟨hend, hsilent⟩

/-- The session that leads from `s` to `t` has answered its input: each piece up to the first one
that holds an end of transmission, in order and with nothing in between, where the pieces that are
not blank have one frame each; the tally counts the frames. -/
def Answered (input : List UInt8) (tally : Tally) (s t : Station) : Prop :=
  ∃ before after answers, CutsAtFeeds input (before ++ after) ∧
    (∀ piece ∈ before, 4 ∉ piece) ∧ (∀ piece ∈ after.head?, 4 ∈ piece) ∧
    List.Forall₂ IsAnswer before answers ∧
    t.rig.console.replies = s.rig.console.replies ++ answers.flatMap linesOf ∧
    tally.ok = (answers.map (Option.map Frame.ok)).count (some true) ∧
    tally.failed = (answers.map (Option.map Frame.ok)).count (some false)

/-- A session over a working connection comes to its end and has answered its input, however long
the host is silent in between, unless the program has crashed; and that is the fault of a sink whose
name holds a null character. -/
theorem frames_of_run {config : Config} {console : Console} {s : Station}
    (hnew : Station.new config console = .ok s) (hw : console.Working)
    (ht : console.terminalDown = false) (htag : OneLine config.adc.tag)
    (hnames : ∀ sink ∈ config.pipe.sinks, OneLine sink.name) (silence : Nat → Nat)
    (input : List UInt8) :
    ∃ tally t, (run silence input).exec s = (.ok tally, t) ∧
      (t.rig.crashed = true ∧ (∃ sink ∈ config.pipe.sinks, '\x00' ∈ sink.name.toList) ∨
        t.rig.crashed = false ∧ Answered input tally s t) := by
  obtain ⟨inputs, -, h⟩ := Station.inSetting_new hw hnew
  have ho : (Station.settingOf config console).OneLine := by
    refine ⟨htag, fun name hname => ?_⟩
    obtain ⟨sink, hsink, rfl⟩ := List.mem_map.1 hname
    exact hnames sink hsink
  obtain ⟨s₁, he₁, h₁, hr₁⟩ := exec_showPrompt h ht
  obtain ⟨answers, t, he, hset, ha, hr⟩ := exec_steps ho ht h₁ silence ⟨0, 0⟩ (heard (cut input))
  rw [foldl_count] at he
  refine ⟨_, t, (exec_bind_of_ok he₁).trans he, ?_⟩
  cases hc : t.rig.crashed with
  | true => exact .inl ⟨rfl, hset.exists_of_crashed hc⟩
  | false =>
    obtain ⟨rest, happend, hbefore, hafter⟩ := exists_heard_append (cut input)
    refine .inr ⟨rfl, heard (cut input), rest, answers, ?_, hbefore, hafter, ha, ?_,
      Nat.zero_add _, Nat.zero_add _⟩
    · rw [← happend]
      exact cutsAtFeeds_cut input
    · rw [hr, hr₁]

/-- Input that looks like the lines of a frame, with an end of transmission in its last line. -/
theorem frames_of_forged_lines : ∃ s, Station.new {} .fresh = .ok s ∧
    let input := "END:OK\r\n\t\n+E: BEGIN:\r\nadc:start\nBEGIN:\x04".toUTF8.toList
    ∃ tally t, (run (fun _ => 0) input).exec s = (.ok tally, t) ∧ Answered input tally s t := by
  have hok : (Station.new {} .fresh).isOk = true := by decide +kernel
  have hnames : ∀ sink ∈ (Config.Pipe.sinks {}), OneLine sink.name := by decide
  have hfree : ∀ sink ∈ (Config.Pipe.sinks {}), '\x00' ∉ sink.name.toList := by decide
  obtain ⟨s, hnew⟩ := Station.exists_of_isOk hok
  refine ⟨s, hnew, ?_⟩
  intro input
  obtain ⟨tally, t, he, ⟨-, sink, hsink, hnull⟩ | ⟨-, hanswered⟩⟩ :=
    frames_of_run hnew ⟨rfl, fun _ => rfl⟩ rfl (oneLine_ofList rfl) hnames (fun _ => 0) input
  · exact absurd hnull (hfree sink hsink)
  · exact ⟨tally, t, he, hanswered⟩

/-- A sink with a null character in its name is accepted, and the first start crashes. -/
theorem crashed_of_start : ∃ s,
    Station.new { pipe := { sinks := [⟨"a\x00b", 1⟩] } } .fresh = .ok s ∧
    ((run (fun _ => 0) "adc:start\n".toUTF8.toList).exec s).2.rig.crashed = true := by
  have hcrash : (Station.new { pipe := { sinks := [⟨"a\x00b", 1⟩] } } .fresh).toOption.any
      (fun s => ((run (fun _ => 0) "adc:start\n".toUTF8.toList).exec s).2.rig.crashed) = true := by
    decide +kernel
  exact Station.exists_new_of_any hcrash

end Session

end Instrument
