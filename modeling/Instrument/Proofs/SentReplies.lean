import Instrument.Proofs.PowerOn

/-!
# What a line sends

Over a working connection a line that succeeds sends the replies of its command, and around them
at most the trace of the line and the frame that was asked for.
-/

namespace Instrument

open Act Text

variable {r : Registry} {rig : Rig} {line : Line} {text : String}

namespace Rig

/-- The request has only reported counters. -/
structure Counts (rig rig' : Rig) : Prop where
  setting : rig'.setting = rig.setting
  lines : rig.console.Adds (Opens "U64:") rig'.console

lemma Counts.refl (rig : Rig) : Counts rig rig :=
  ⟨rfl, Console.adds_of_replies_eq rfl⟩

lemma Counts.trans {rig rig' rig'' : Rig} (h : Counts rig rig') (h' : Counts rig' rig'') :
    Counts rig rig'' :=
  ⟨h'.setting.trans h.setting, h.lines.trans h'.lines⟩

/-- The manner of a report. -/
def counting : Manner Rig where
  quiet := Counts
  loud := Counts
  quiet_refl := Counts.refl
  quiet_trans := Counts.trans
  loud_trans := Counts.trans
  loud_of_quiet := id

lemma succeeds_count (hw : rig.console.Working) (name : String) (value : Nat) :
    Succeeds counting (onConsole (Console.value64 name value)) rig := by
  refine ⟨(), _, exec_line hw _, rfl, Console.adds_sent ?_ _⟩
  exact ((opens_append _ _).append _).append _

lemma succeeds_count_bind {name : String} {value : Nat} {f : Unit → Act Rig Unit}
    (hw : rig.console.Working)
    (hf : ∀ rig', rig'.console.Working → Succeeds counting (f ()) rig') :
    Succeeds counting (onConsole (Console.value64 name value) >>= f) rig :=
  (succeeds_count hw name value).bind fun _ rig' h => hf rig' (working_of_setting h.setting hw)

lemma counts_reportSinks (sinks : List (Mailbox Handle)) (hw : rig.console.Working) :
    Succeeds counting (reportSinks sinks) rig := by
  induction sinks generalizing rig with
  | nil => exact succeeds_pure () rig
  | cons sink rest ih =>
    have hsink : Succeeds counting (reportSink sink) rig :=
      succeeds_count_bind hw fun rig' hw' => succeeds_count hw' _ _
    exact hsink.bind fun _ rig' h => ih (working_of_setting h.setting hw)

lemma counts_report (hw : rig.console.Working) : Succeeds counting report rig := by
  apply succeeds_get_bind
  refine succeeds_count_bind hw fun _ hw => succeeds_count_bind hw fun _ hw => ?_
  refine succeeds_count_bind hw fun _ hw => succeeds_count_bind hw fun _ hw => ?_
  refine succeeds_count_bind hw fun _ hw => succeeds_count_bind hw fun _ hw => ?_
  exact succeeds_count_bind hw fun _ hw => counts_reportSinks _ hw

end Rig

namespace Registry

/-- Carried out, a line may be preceded by its trace. -/
lemma exists_exec_execute (rig : Rig) (hw : rig.console.Working)
    (hread : Line.read r.limits text = .ok (some line)) :
    ∃ before console, console.Working ∧ console.replies = rig.console.replies ++ before ∧
      (∀ reply ∈ before, Opens "?:" reply) ∧ ({ rig with console } : Rig).setting = rig.setting ∧
      (execute text).exec (r, rig) = (dispatch line).exec (r, { rig with console }) := by
  rw [exec_execute_of_read hread, carryOut, exec_bind, exec_beside, Rig.debug, Rig.onConsole,
    exec_zoom, Console.exec_debug hw]
  cases rig.console.debugging with
  | false => exact ⟨[], rig.console, hw, (List.append_nil _).symm, List.forall_mem_nil _, rfl, rfl⟩
  | true =>
    refine ⟨["?:" ++ ("fetch: " ++ line.render)], _, ?_, Console.replies_sent _ _, ?_, ?_, rfl⟩
    · exact ⟨hw.up, hw.lossless⟩
    · intro reply hreply
      rw [List.mem_singleton.1 hreply]
      exact opens_append _ _
    · exact rig.setting_sent _

end Registry

namespace Station

variable {s t : Station}

/-- Between the two states the instrument has sent the body, and around it nothing but traces and
the frame of a line that succeeded. -/
def Sends (body : List String) (s t : Station) : Prop :=
  ∃ before after, t.rig.console.replies = s.rig.console.replies ++ before ++ body ++ after ∧
    (∀ reply ∈ before, Opens "?:" reply ∨ reply = "BEGIN:") ∧ ∀ reply ∈ after, reply = "END:OK"

/-- What the command sends for a line is what the line sends, in each way of giving it. -/
lemma sends_of_read (hw : s.rig.console.Working)
    (hread : Line.read s.registry.limits text = .ok (some line)) {p : List String → Prop}
    (hexec : ∀ console, console.Working → ∃ body t, p body ∧
      (Registry.dispatch line).exec (s.registry, { s.rig with console }) = (.ok (), t) ∧
      t.2.setting = ({ s.rig with console } : Rig).setting ∧
      t.2.console.replies = console.replies ++ body)
    {stimulus : Stimulus} (hs : stimulus ∈ lineStimuli text) :
    s.answer stimulus = .ok () ∧ ∃ body, p body ∧ Sends body s (s.undergo stimulus) := by
  have hline : ∀ first : Console, first.Working → ∃ before body t, p body ∧
      (Registry.execute text).exec (s.registry, { s.rig with console := first }) = (.ok (), t) ∧
      t.2.setting = ({ s.rig with console := first } : Rig).setting ∧
      t.2.console.replies = first.replies ++ before ++ body ∧
      ∀ reply ∈ before, Opens "?:" reply := by
    intro first hfirst
    obtain ⟨before, console, hc, hreplies, hbefore, hset, he⟩ :=
      Registry.exists_exec_execute { s.rig with console := first } hfirst hread
    obtain ⟨body, t, hbody, hd, hset', hreplies'⟩ := hexec console hc
    refine ⟨before, body, t, hbody, he.trans hd, hset'.trans hset, ?_, hbefore⟩
    rw [hreplies', hreplies]
  simp only [lineStimuli, List.mem_cons, List.not_mem_nil, or_false] at hs
  rcases hs with rfl | rfl | rfl
  · obtain ⟨before, body, t, hbody, he, -, hreplies, hbefore⟩ := hline _ hw
    refine ⟨congrArg Prod.fst he, body, hbody, before, [], ?_,
      fun reply h => .inl (hbefore reply h), List.forall_mem_nil _⟩
    rw [undergo_execute, he, List.append_nil, ← hreplies]
  · obtain ⟨before, body, t, hbody, he, -, hreplies, hbefore⟩ := hline _ hw
    have hparse : Registry.parse text (s.registry, s.rig) = (true, t) := by
      rw [Registry.parse, he]
    refine ⟨congrArg Prod.fst he, body, hbody, before, [], ?_,
      fun reply h => .inl (hbefore reply h), List.forall_mem_nil _⟩
    rw [undergo_parse, hparse, List.append_nil, ← hreplies]
  · have hblank := Line.not_blank_of_read hread
    obtain ⟨before, body, t, hbody, he, hset, hreplies, hbefore⟩ :=
      hline (s.rig.console.sent "BEGIN:") ⟨hw.up, hw.lossless⟩
    have hparse : Registry.parse text (s.registry, s.rig.sent "BEGIN:") = (true, t) := by
      rw [Registry.parse, Rig.sent, he]
    have hhandle : Registry.handle text (s.registry, s.rig) = (true, t.1, t.2.sent "END:OK") :=
      Registry.handle_of_ne_blank hw hblank hparse
        (Rig.working_of_setting hset ⟨hw.up, hw.lossless⟩)
    refine ⟨?_, body, hbody, "BEGIN:" :: before, ["END:OK"], ?_, ?_, ?_⟩
    · simp only [answer, hands, if_neg (mt List.isEmpty_iff.1 hblank)]
      rw [Registry.exec_openFrame hw]
      exact congrArg Prod.fst he
    · rw [undergo_handle, hhandle]
      change (t.2.console.sent "END:OK").replies = _
      rw [Console.replies_sent, hreplies, Console.replies_sent]
      simp only [List.append_assoc, List.cons_append, List.nil_append]
    · intro reply h
      rcases List.mem_cons.1 h with rfl | h
      · exact .inr rfl
      · exact .inl (hbefore reply h)
    · exact fun reply h => List.mem_singleton.1 h

end Station

end Instrument
