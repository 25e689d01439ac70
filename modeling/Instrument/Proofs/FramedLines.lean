import Instrument.Proofs.LongLines
import Instrument.Proofs.Memoryless
import Instrument.Proofs.PowerOn

/-!
# A line with and without its frame

A line is carried out in a frame or without one. On a working connection the frame comes to two
lines around what the line sends otherwise, for nothing looks at what was sent before. A blank line
has no frame. Without one it is passed over, unless it is longer than the limit: the length is
looked at before the blanks are dropped, so such a line is refused.
-/

namespace Instrument

open Act Connected Text

namespace Registry

lemma memoryless_reply (text : String) : Memoryless
    (Act.beside (Rig.onConsole (Console.line text)) : Act (Registry × Rig) Unit) :=
  memoryless_beside (Rig.memoryless_reply text)

lemma memoryless_infoLines (texts : List String) : Memoryless (infoLines texts) := by
  induction texts with
  | nil => exact memoryless_pure ()
  | cons text rest ih => exact memoryless_bind (Rig.memoryless_reply _) fun _ => ih

lemma memoryless_finished (commands : List Command) :
    Memoryless (modify fun rig => commands.foldl Command.finished rig : Act Rig Unit) := by
  induction commands with
  | nil => exact memoryless_modify fun _ _ => rfl
  | cons c rest ih =>
    have hone : Memoryless (modify fun rig => Command.finished rig c : Act Rig Unit) := by
      cases c with
      | adc a => exact Rig.memoryless_convert a.converter a.converter.pending
      | _ => exact memoryless_modify fun _ _ => rfl
    exact memoryless_comp (g := fun rig => rest.foldl Command.finished rig) hone ih

lemma memoryless_reset : Memoryless reset := by
  rintro ⟨r, rig⟩ debugging
  obtain ⟨_, finished, events, hexec⟩ := memoryless_finished r.commands rig debugging
  refine ⟨firstFault (r.commands.map Command.resetAnswer),
    ({ r with commands := r.commands.map Command.rested },
      { finished with pins := rig.pins.resetAll }), events, fun c hc => ?_⟩
  have hfinished : r.commands.foldl Command.finished { rig with console := c } =
      { finished with console := c.after events } := congrArg Prod.snd (hexec c hc)
  simp only [connect, exec_reset, hfinished]

lemma memoryless_dispatchAt (place : Nat) (line : Line) : Memoryless (dispatchAt place line) := by
  rintro ⟨r, rig⟩ debugging
  cases hplace : r.commands[place]? with
  | none =>
    refine ⟨.ok (), (r, rig), [], fun c _ => ?_⟩
    simp only [dispatchAt, exec, connect, hplace]
    rfl
  | some command =>
    obtain ⟨answer, t, events, h⟩ := Command.memoryless_dispatch line (command, rig) debugging
    refine ⟨answer, ({ r with commands := r.commands.set place t.1 }, t.2), events,
      fun c hc => ?_⟩
    refine (exec_dispatchAt hplace line _).trans ?_
    exact congrArg (fun out => (out.1, { r with commands := r.commands.set place out.2.1 },
      out.2.2)) (h c hc)

lemma memoryless_dispatch (line : Line) : Memoryless (dispatch line) := by
  unfold dispatch
  dsimp only
  cases reserved? (line.command.headD "") with
  | none =>
    refine memoryless_get_bind (fun _ _ => rfl) fun s => ?_
    cases s.1.find? (line.command.headD "") with
    | none => exact memoryless_throw _
    | some place => exact memoryless_dispatchAt place line
  | some reserved =>
    cases reserved with
    | help =>
      refine line.memoryless_closed 1 (memoryless_get_bind (fun _ _ => rfl) fun s => ?_)
      exact memoryless_beside (memoryless_bind (memoryless_infoLines _) fun _ =>
        memoryless_infoLines _)
    | resetPins =>
      exact line.memoryless_closed 1 (memoryless_bind memoryless_reset fun _ => memoryless_reply _)

lemma memoryless_execute (text : String) : Memoryless (execute text) := by
  refine memoryless_get_bind (fun _ _ => rfl) fun s => ?_
  dsimp only
  rcases Line.read s.1.limits text with d | _ | line
  · exact memoryless_throw _
  · exact memoryless_pure ()
  · exact memoryless_bind (memoryless_beside (Rig.memoryless_debug _)) fun _ =>
      memoryless_dispatch line

/-- The diagnostic of a line that fails is one of the events that it sends. -/
lemma exists_parse_after (text : String) (r : Registry) (rig : Rig) (debugging : Bool) :
    ∃ (ok : Bool) (r' : Registry) (rig' : Rig) (events : List Event),
      ∀ c : Console, c.Ready debugging →
      parse text (r, { rig with console := c }) =
        (ok, r', { rig' with console := c.after events }) := by
  obtain ⟨answer, t, events, hexec⟩ := memoryless_execute text (r, rig) debugging
  simp only [connect] at hexec
  cases answer with
  | ok _ =>
    refine ⟨true, t.1, t.2, events, fun c hc => ?_⟩
    simp only [parse, hexec c hc]
  | error fault =>
    refine ⟨false, t.1, t.2, events ++ [.reply ("E:" ++ fault.message)], fun c hc => ?_⟩
    have hline : (Rig.onConsole (Console.error fault.message)).exec
        { t.2 with console := c.after events } =
          (.ok (), ({ t.2 with console := c.after events } : Rig).sent ("E:" ++ fault.message)) :=
      Rig.exec_line (hc.after events).toWorking _
    simp only [parse, hexec c hc, exec_beside, hline, Console.after_append]
    rfl

/-! ## Frames -/

variable {r : Registry} {rig : Rig} {text : String}

lemma parse_of_blank (hblank : trim text.toList = [])
    (hshort : (dropTrailing Line.isTerminator text.toList).length ≤ r.limits.maxLineChars) :
    parse text (r, rig) = (true, r, rig) := by
  have hread : Line.read r.limits text = .ok none := by
    rw [Line.read, Line.readInto_fst, if_neg (Nat.not_lt.2 hshort),
      Line.trim_dropTrailing_isTerminator, if_pos (List.isEmpty_iff.2 hblank)]
  simp only [parse, execute, exec_bind, exec_get, hread, exec_pure]

lemma handle_of_blank (hblank : trim text.toList = []) :
    handle text (r, rig) = (true, r, rig) := by
  rw [handle, if_pos (List.isEmpty_iff.2 hblank)]

/-- What the host sees of a line in a frame, if it sees `events` without one. -/
def framed (ok : Bool) (events : List Event) : List Event :=
  .reply "BEGIN:" :: (events ++ [.reply (if ok then "END:OK" else "END:ERROR")])

/-- What a line does without a frame it does in one. -/
lemma exists_framed (r : Registry) (hw : rig.console.Working) (htext : trim text.toList ≠ []) :
    ∃ (ok : Bool) (r' : Registry) (rig' : Rig) (events : List Event),
      parse text (r, rig) = (ok, r', { rig' with console := rig.console.after events }) ∧
      handle text (r, rig) =
        (ok, r', { rig' with console := rig.console.after (framed ok events) }) := by
  obtain ⟨ok, r', rig', events, hparse⟩ := exists_parse_after text r rig rig.console.debugging
  have hready : rig.console.Ready rig.console.debugging := ⟨hw, rfl⟩
  have hopened := hready.after [.reply "BEGIN:"]
  refine ⟨ok, r', rig', events, hparse _ hready, ?_⟩
  rw [handle_of_ne_blank hw htext (hparse _ hopened) (hopened.after events).toWorking, framed,
    ← List.singleton_append, Console.after_append, Console.after_append]
  rfl

/-- How a line fares with and without its frame. -/
structure Agreement (r : Registry) (rig : Rig) (text : String) : Prop where
  same : trim text.toList ≠ [] ∨
      (dropTrailing Line.isTerminator text.toList).length ≤ r.limits.maxLineChars →
    (handle text (r, rig)).1 = (parse text (r, rig)).1 ∧
      (handle text (r, rig)).2.1 = (parse text (r, rig)).2.1 ∧
      ∃ console, (handle text (r, rig)).2.2 = { (parse text (r, rig)).2.2 with console }
  silent_iff : (handle text (r, rig)).2.2.console.log.toList = rig.console.log.toList ↔
    trim text.toList = []
  blank : trim text.toList = [] → handle text (r, rig) = (true, r, rig) ∧
    ((dropTrailing Line.isTerminator text.toList).length ≤ r.limits.maxLineChars →
      parse text (r, rig) = (true, r, rig))
  between : trim text.toList ≠ [] → ∃ events,
    (parse text (r, rig)).2.2.console = rig.console.after events ∧
      (handle text (r, rig)).2.2.console =
        rig.console.after (framed (parse text (r, rig)).1 events)
  refused : trim text.toList = [] →
    r.limits.maxLineChars < (dropTrailing Line.isTerminator text.toList).length →
      parse text (r, rig) = (false, r, rig.sent
        ("E:parse error: line exceeds " ++ toString r.limits.maxLineChars ++ " characters"))

/-- With and without a frame a line has one answer and one effect, and in the frame stands what it
sends without. A blank line has no frame and sends nothing. Only one that is longer than the limit
as well is told of, and refused, where it comes without a frame. -/
theorem agreement_of_working (r : Registry) (hw : rig.console.Working) (text : String) :
    Agreement r rig text := by
  by_cases htext : trim text.toList = []
  · have hhandle : handle text (r, rig) = (true, r, rig) := handle_of_blank htext
    refine ⟨fun hor => ?_, ?_, fun _ => ⟨hhandle, parse_of_blank htext⟩,
      fun hne => absurd htext hne, fun _ hlong => ?_⟩
    · rw [hhandle, parse_of_blank htext (hor.resolve_left fun hne => hne htext)]
      exact ⟨rfl, rfl, rig.console, rfl⟩
    · rw [hhandle]
      exact iff_of_true rfl htext
    · rw [parse_of_long hw hlong, Line.error_tooLong]
  · obtain ⟨ok, r', rig', events, hparse, hhandle⟩ := exists_framed r hw htext
    refine ⟨fun _ => ?_, ?_, fun hblank => absurd hblank htext, fun _ => ?_,
      fun hblank => absurd hblank htext⟩
    · rw [hparse, hhandle]
      exact ⟨rfl, rfl, _, rfl⟩
    · rw [hhandle]
      refine iff_of_false (fun hlog => ?_) htext
      dsimp only at hlog
      rw [Console.toList_log_after, framed] at hlog
      cases List.append_right_eq_self.1 hlog
    · rw [hparse, hhandle]
      exact ⟨events, rfl, rfl⟩

/-- The built-in commands over a fresh connection, and a line that starts the converter. -/
theorem agreement_of_start : ∃ s, Station.new {} .fresh = .ok s ∧ s.rig.console.Working ∧
    Agreement s.registry s.rig "adc:start" := by
  have hok : (Station.new {} .fresh).isOk = true := by decide +kernel
  obtain ⟨s, hnew⟩ := Station.exists_of_isOk hok
  obtain ⟨inputs, -, hs⟩ := Station.inSetting_new ⟨rfl, fun _ => rfl⟩ hnew
  exact ⟨s, hnew, hs.working, agreement_of_working s.registry hs.working "adc:start"⟩

/-- Three blanks where two characters are allowed: without a frame the line is refused and told of,
and with one it is passed over. -/
theorem blank_line_too_long : ∃ s,
    Station.new { fetch := { maxLineChars := 2 } } .fresh = .ok s ∧ s.rig.console.Working ∧
      trim "   ".toList = [] ∧ handle "   " (s.registry, s.rig) = (true, s.registry, s.rig) ∧
      parse "   " (s.registry, s.rig) = (false, s.registry,
        s.rig.sent "E:parse error: line exceeds 2 characters") := by
  have hok : (Station.new { fetch := { maxLineChars := 2 } } .fresh).isOk = true := by
    decide +kernel
  obtain ⟨s, hnew⟩ := Station.exists_of_isOk hok
  obtain ⟨inputs, -, hs⟩ := Station.inSetting_new ⟨rfl, fun _ => rfl⟩ hnew
  have hmax : s.registry.limits.maxLineChars = 2 :=
    congrArg Limits.maxLineChars (Station.limits_new hnew)
  have hlong : s.registry.limits.maxLineChars <
      (dropTrailing Line.isTerminator "   ".toList).length := by
    rw [hmax]
    decide
  have hparse := parse_of_long (r := s.registry) hs.working hlong
  rw [hmax] at hparse
  exact ⟨s, hnew, hs.working, by decide, handle_of_blank (by decide), hparse⟩

end Registry

end Instrument
