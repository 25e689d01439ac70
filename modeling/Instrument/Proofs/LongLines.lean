import Instrument.Proofs.FailedLines
import Instrument.Proofs.LineRoundTrip
import Instrument.Proofs.SessionFrames

/-!
# Lines longer than the limit

The limit on a line is checked where a line is read, after the session has cut the blanks at its
ends. So a long command line is refused and moves nothing, blanks around a line never count, and
the limit does not reach a shell command, which is never read as a line.
-/

namespace Instrument

open Act Text

namespace Registry

variable {limits : Limits}

lemma limits_register (r : Registry) (command : Command) :
    (r.register command).limits = r.limits := by
  unfold register
  dsimp only
  split <;> rfl

lemma limits_builtin (rig : Rig) : (builtin rig).limits = rig.config.fetch.limits := by
  simp only [builtin, List.foldl_cons, List.foldl_nil, limits_register, empty]

lemma steady_limits : Steady (fun s : Registry × Rig => s.1.limits = limits) := by
  refine ⟨fun _ _ _ h => h, fun place line => ?_, fun _ h => h⟩
  rintro ⟨r, rig⟩ h
  simp only [dispatchAt, exec]
  cases r.commands[place]? with
  | none => exact h
  | some command => exact h

end Registry

namespace Station

/-- Nothing that happens to the instrument changes what lines it accepts. -/
lemma limits_undergo (s : Station) (stimulus : Stimulus) :
    (s.undergo stimulus).registry.limits = s.registry.limits :=
  undergo_of_steady Registry.steady_limits (fun _ _ h => h) (fun _ _ _ h => h) s stimulus rfl

lemma limits_new {config : Config} {console : Console} {s : Station}
    (hnew : new config console = .ok s) : s.registry.limits = config.fetch.limits := by
  obtain ⟨rig, hr, rfl⟩ := station_new hnew
  obtain ⟨inputs, pool, -, -, hrig⟩ := rig_new hr
  have hconfig : rig.config = config := by rw [hrig]
  exact (Registry.limits_builtin rig).trans (by rw [hconfig])

lemma limits_run {config : Config} {console : Console} {s : Station}
    (hnew : new config console = .ok s) (script : List Stimulus) :
    (s.run script).registry.limits = config.fetch.limits := by
  have hstep : ∀ (t : Station) stimulus, t.registry.limits = config.fetch.limits →
      (t.undergo stimulus).registry.limits = config.fetch.limits := by
    intro t stimulus h
    rw [limits_undergo, h]
  exact run_invariant hstep (limits_new hnew) script

end Station

/-! ## Lines that are cut first -/

/-- A text is refused for its length if that is over the limit, its terminator apart. -/
lemma Line.read_of_long {limits : Limits} {text : String}
    (hlong : limits.maxLineChars < (dropTrailing isTerminator text.toList).length) :
    read limits text = .error (.tooLong limits.maxLineChars) := by
  rw [read, readInto_fst, if_pos hlong]

lemma Line.dropTrailing_isTerminator_of_trim {text : List Char} (ht : trim text = text) :
    dropTrailing isTerminator text = text := by
  have hlast := dropTrailing_trim text
  rw [ht] at hlast
  refine List.rdropWhile_eq_self_iff.2 fun hne hend => ?_
  exact List.rdropWhile_eq_self_iff.1 hlast hne (isBlank_of_isTerminator hend)

lemma Line.error_tooLong (max : Nat) : "E:" ++ (Defect.tooLong max).fault.message =
    "E:parse error: line exceeds " ++ toString max ++ " characters" := by
  have hjoin : ∀ n : String, "E:" ++ ("parse error: " ++ ("line exceeds " ++ n ++ " characters")) =
      "E:parse error: line exceeds " ++ n ++ " characters" := fun n => by
    apply String.toList_injective
    simp [String.toList_append]
  exact hjoin (toString max)

namespace Registry

variable {r : Registry} {rig : Rig}

lemma parse_of_long (hw : rig.console.Working) {text : String}
    (hlong : r.limits.maxLineChars < (dropTrailing Line.isTerminator text.toList).length) :
    parse text (r, rig) = (false, r, rig.sent
      ("E:" ++ (Line.Defect.tooLong r.limits.maxLineChars).fault.message)) := by
  have hexec : (execute text).exec (r, rig) =
      (.error (Line.Defect.tooLong r.limits.maxLineChars).fault, r, rig) := by
    simp only [execute, exec_bind, exec_get, Line.read_of_long hlong, exec_throw]
  have hline : ∀ text, (Act.beside (Rig.onConsole (Console.error text))).exec (r, rig) =
      (.ok (), r, rig.sent ("E:" ++ text)) := fun text => by
    rw [exec_beside, Console.error, Rig.exec_line hw]
  simp only [parse, hexec, hline]

end Registry

namespace Session

variable {s : Station}

lemma route_trim (line : String) : Route.of (String.ofList (trim line.toList)) = Route.of line := by
  rw [Route.of, Route.of, String.toList_ofList, trim_trim]

/-- Only what is between the blanks at its ends counts of a line. -/
lemma dispatch_trim (line : String) :
    dispatch (String.ofList (trim line.toList)) = dispatch line := by
  rw [dispatch, dispatch, route_trim]

/-- The line of a shell command opens with one of its two signs. -/
def isShell (line : String) : Bool :=
  (trim line.toList).head?.any fun c => c == '+' || c == '.'

lemma dispatch_of_long (hw : s.rig.console.Working) {line : String} (hline : isShell line = false)
    (hlong : s.registry.limits.maxLineChars < (trim line.toList).length) :
    (dispatch line).exec s = (.ok (some false), sent (sent (sent s "BEGIN:")
      ("E:" ++ (Line.Defect.tooLong s.registry.limits.maxLineChars).fault.message))
      "END:ERROR") := by
  have hne : trim line.toList ≠ [] := List.ne_nil_of_length_pos (by omega)
  have hroute : Route.of line = .fetch (String.ofList (trim line.toList)) := by
    rw [Route.of]
    rw [isShell] at hline
    cases ht : trim line.toList with
    | nil => exact absurd ht hne
    | cons c rest =>
      rw [ht] at hline
      exact if_neg (by simpa using hline)
  have htrimmed : trim (String.ofList (trim line.toList)).toList ≠ [] := by
    rwa [String.toList_ofList, trim_trim]
  have hbody : s.registry.limits.maxLineChars < (dropTrailing Line.isTerminator
      (String.ofList (trim line.toList)).toList).length := by
    rwa [String.toList_ofList, Line.dropTrailing_isTerminator_of_trim (trim_trim line.toList)]
  have hparse := Registry.parse_of_long (r := s.registry)
    (Rig.working_of_setting (s.rig.setting_sent "BEGIN:") hw) hbody
  have hhandle := Registry.handle_of_ne_blank hw htrimmed hparse ⟨hw.up, hw.lossless⟩
  rw [dispatch, hroute]
  simp only [exec, hhandle]
  rfl

/-- A line is answered for what is left of it without the blanks at its ends. If that is a command
line and longer than the limit, the answer is a frame that holds one fault, and nothing moves. -/
theorem refused_of_long_line {config : Config} {console : Console} (hw : console.Working)
    (hnew : Station.new config console = .ok s) (script : List Station.Stimulus) (line : String) :
    dispatch (String.ofList (trim line.toList)) = dispatch line ∧
    (isShell line = false → config.fetch.maxLineChars < (trim line.toList).length →
      ∃ t, (dispatch line).exec (s.run script) = (.ok (some false), t) ∧
        Station.Unmoved (s.run script) t ∧
        t.rig.console.replies = (s.run script).rig.console.replies ++ ["BEGIN:",
          "E:parse error: line exceeds " ++ toString config.fetch.maxLineChars ++ " characters",
          "END:ERROR"]) := by
  refine ⟨dispatch_trim line, fun hline hlong => ?_⟩
  obtain ⟨inputs, -, hs⟩ := Station.inSetting_new hw hnew
  have hrun := Station.run_invariant Station.inSetting_undergo hs script
  have hmax : (s.run script).registry.limits.maxLineChars = config.fetch.maxLineChars := by
    rw [Station.limits_run hnew]
    rfl
  refine ⟨_, dispatch_of_long hrun.working hline (hmax ▸ hlong), ⟨rfl, rfl, rfl, rfl⟩, ?_⟩
  rw [replies_sent, replies_sent, replies_sent, hmax, Line.error_tooLong]
  simp only [List.append_assoc, List.cons_append, List.nil_append]

/-- A command line of 32 characters where 24 are allowed, after a pin has been driven. -/
theorem refused_of_long_configure : ∃ s,
    Station.new { fetch := { maxLineChars := 24 } } .fresh = .ok s ∧
    let script : List Station.Stimulus := [.handle "gpio:set:porta:pin3"]
    ∃ t, (dispatch " gpio:configure:porta:pin3:output\r\n").exec (s.run script) =
        (.ok (some false), t) ∧
      Station.Unmoved (s.run script) t ∧
      t.rig.console.replies = (s.run script).rig.console.replies ++ ["BEGIN:",
        "E:parse error: line exceeds 24 characters", "END:ERROR"] := by
  have hok : (Station.new { fetch := { maxLineChars := 24 } } .fresh).isOk = true := by
    decide +kernel
  obtain ⟨s, hnew⟩ := Station.exists_of_isOk hok
  refine ⟨s, hnew, ?_⟩
  exact (refused_of_long_line ⟨rfl, fun _ => rfl⟩ hnew _ _).2 (by decide) (by decide)

/-- A shell command and a padded command line, each longer than the seven characters allowed, both
succeed; the shell command also takes effect. -/
theorem long_lines_accepted : ∃ s,
    Station.new { fetch := { maxLineChars := 7 }, shell := { prompt := "> " } } .fresh = .ok s ∧
    (7 < (dropTrailing Line.isTerminator "+noprompt\n".toList).length ∧
      ∃ t, (dispatch "+noprompt\n").exec s = (.ok (some true), t) ∧
        s.shell.showPrompt = true ∧ t.shell.showPrompt = false ∧
        t.rig.console.replies = ["BEGIN:", "END:OK"]) ∧
    (7 < (dropTrailing Line.isTerminator " version\n".toList).length ∧
      ∃ t, (dispatch " version\n").exec s = (.ok (some true), t) ∧
        t.rig.console.replies = ["BEGIN:", "S:version:0.1.0", "END:OK"]) := by
  have hrun : (Station.new { fetch := { maxLineChars := 7 }, shell := { prompt := "> " } }
      .fresh).toOption.any (fun s =>
        ((dispatch "+noprompt\n").exec s).1.toOption == some (some true) &&
        s.shell.showPrompt && !((dispatch "+noprompt\n").exec s).2.shell.showPrompt &&
        ((dispatch "+noprompt\n").exec s).2.rig.console.replies == ["BEGIN:", "END:OK"] &&
        ((dispatch " version\n").exec s).1.toOption == some (some true) &&
        ((dispatch " version\n").exec s).2.rig.console.replies ==
          ["BEGIN:", "S:version:0.1.0", "END:OK"]) = true := by
    decide +kernel
  have hanswer : ∀ {r : Except Fault (Option Bool)} {b}, r.toOption = some b → r = .ok b := by
    rintro (fault | _) b ⟨⟩
    rfl
  obtain ⟨s, hnew, hcheck⟩ := Station.exists_new_of_any hrun
  simp only [Bool.and_eq_true, beq_iff_eq, Bool.not_eq_true'] at hcheck
  obtain ⟨⟨⟨⟨⟨hshell, hbefore⟩, hafter⟩, hreplies⟩, hversion⟩, hlines⟩ := hcheck
  exact ⟨s, hnew, ⟨by decide, _, Prod.ext (hanswer hshell) rfl, hbefore, hafter, hreplies⟩,
    by decide, _, Prod.ext (hanswer hversion) rfl, hlines⟩

end Session

end Instrument
