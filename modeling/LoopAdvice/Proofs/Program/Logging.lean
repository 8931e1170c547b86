import LoopAdvice.Proofs.CommandLine.Flags
import LoopAdvice.Proofs.Program.Input
import LoopAdvice.Proofs.Workflow.Independence
import Mathlib.Data.List.Flatten

/-! # What the log does not change

A run records the same events whatever part of them is printed. A filter only selects among them
(`Transcript.logLines`), and the filter of a verbose run selects all, since no event is less important
than `debug` (`LogFilter.admits_upTo_debug`). But the programs that a run starts inherit the setting
of the log, and what they answer is their own affair: one that prints the setting is echoed. So two
runs that differ in how much they print agree in everything else if the programs that are called
ignore the setting (`Surroundings.IgnoreSetting`), and the one that is verbose prints what the other
prints and maybe more. Main statement: `logging_is_inert`. -/

namespace LoopAdvice

namespace LogFilter

/-- A filter for a level admits what is at least as important. -/
theorem admits_upTo (l : Level) (e : Event) :
    (upTo l).admits e = decide (e.level.detail ≤ l.detail) := by
  have hfits : ({ detail := l.detail } : Directive).fits e = true := rfl
  simp [admits, ruling?, upTo, hfits, moreSpecific]

/-- Every event matters enough for a verbose log. -/
theorem admits_upTo_debug (e : Event) : (upTo .debug).admits e = true := by
  rw [admits_upTo]
  cases e <;> rfl

/-- What is printed of events. -/
def printed (verbose : Bool) (setting : Option String) (events : List Event) : List Event :=
  events.filter (ofSetting verbose setting).admits

/-- A verbose log has all events, whatever the setting is. -/
theorem printed_true (setting : Option String) (events : List Event) :
    printed true setting events = events :=
  List.filter_eq_self.mpr fun e _ => admits_upTo_debug e

theorem printed_sublist (verbose : Bool) (setting : Option String) (events : List Event) :
    (printed verbose setting events).Sublist events :=
  List.filter_sublist

end LogFilter

/-! ### Programs and the setting -/

/-- What the program finds around it: the files, and the programs it can start, which inherit the
setting of the log. -/
structure Surroundings where
  read : Bytes → Except ReadFault Bytes
  run : Option String → Runner

namespace Surroundings

/-- The surroundings under a setting. -/
def host (w : Surroundings) (setting : Option String) : Host := ⟨w.read, w.run setting⟩

/-- Whatever setting they inherit, programs answer some calls alike. -/
def IgnoreSetting (w : Surroundings) (calls : List (String × List String)) : Prop :=
  ∀ call ∈ calls, ∀ setting setting', w.run setting' call.1 call.2 = w.run setting call.1 call.2

end Surroundings

section Tools
variable {host other : Host} {decision : Decision} {tool : Tool} {path : Bytes}
  {replies : List Reply}
  (h : decision.grants replies = true → tool.answer other.run path = tool.answer host.run path)
include h

/-- The step of a tool goes by what the tool answers if it is called. -/
theorem toolStepDeeds_congr_call (question : String) :
    toolStepDeeds other decision question tool path replies =
      toolStepDeeds host decision question tool path replies := by
  by_cases hgrants : decision.grants replies = true
  · exact toolStepDeeds_congr_answer (h hgrants)
  · rw [toolStepDeeds, toolStepDeeds, if_neg hgrants, if_neg hgrants]

theorem outcome_congr_call : tool.outcome other.run path (decision.grants replies) =
    tool.outcome host.run path (decision.grants replies) := by
  by_cases hgrants : decision.grants replies = true
  · exact Tool.outcome_congr (h hgrants) _
  · rw [Tool.outcome, Tool.outcome, if_neg hgrants, if_neg hgrants]

end Tools

/-- **A run depends on the file that is its source and on what the programs that it calls answer, and
on nothing else around it.** -/
theorem Advisor.runDeeds_congr_host (a : Advisor) {host other : Host} {s : Session}
    {replies : List Reply} (hread : other.read s.path = host.read s.path)
    (hcalls : ∀ call ∈ (performed none (a.runDeeds host s replies)).calls,
      other.run call.1 call.2 = host.run call.1 call.2) :
    SamePerformance none (a.runDeeds host s replies) (a.runDeeds other s replies) := by
  have hopening : a.openingDeeds other s = a.openingDeeds host s := by
    simp only [openingDeeds, analyzeDeeds, Host.loads, Host.advice, hread]
  simp only [runDeeds_eq, calls_performed_append, roomAfter_none] at hcalls ⊢
  rw [hopening]
  refine .append_left fun hbegun => ?_
  rw [if_pos hbegun] at hcalls
  -- a tool that has consent is called, so it answers alike
  have hfirst : a.profile.grants replies = true →
      a.profiler.answer other.run s.path = a.profiler.answer host.run s.path := by
    intro hgrants
    refine hcalls (a.profiler.callOn s.path) (List.mem_append_right _ (List.mem_append_left _ ?_))
    rw [profilerDeeds, calls_performed_toolStepDeeds, if_pos hgrants]
    exact List.mem_singleton_self _
  have hprofiler : a.profilerDeeds other s.path replies = a.profilerDeeds host s.path replies :=
    toolStepDeeds_congr_call hfirst profileQuestion
  rw [hprofiler, roomAfter_none]
  refine .append_left fun hran => ?_
  rw [if_pos hran] at hcalls
  have hsecond : a.compile.grants (a.profile.repliesAfter replies) = true →
      a.compiler.answer other.run s.path = a.compiler.answer host.run s.path := by
    intro hgrants
    refine hcalls (a.compiler.callOn s.path) (List.mem_append_right _ (List.mem_append_right _
      (List.mem_append_left _ ?_)))
    rw [compilerDeeds, calls_performed_toolStepDeeds, if_pos hgrants]
    exact List.mem_singleton_self _
  have hcompiler : a.compilerDeeds other s.path (a.profile.repliesAfter replies) =
      a.compilerDeeds host s.path (a.profile.repliesAfter replies) :=
    toolStepDeeds_congr_call hsecond compileQuestion
  have hclosing : a.closingDeed other s replies = a.closingDeed host s replies := by
    simp only [closingDeed, outcome, Host.loads, Host.advice, hread, outcome_congr_call hfirst,
      outcome_congr_call hsecond]
  rw [hcompiler, hclosing]
  exact ⟨rfl, rfl⟩

/-- Of an accepted command line only the log hangs on the setting and on whether it is verbose, if the
programs that are called ignore the setting. -/
theorem runProgram_eq_of_parse {args args' : List Bytes} {o o' : CommandLine.Options}
    (hparse : CommandLine.parse args = .ok o) (hparse' : CommandLine.parse args' = .ok o')
    (hsame : o' = { o with verbose := o'.verbose }) {w : Surroundings} {stdin : Bytes}
    {setting : Option String}
    (htools : w.IgnoreSetting (runProgram args (w.host setting) stdin setting).calls)
    (any : Option String) :
    runProgram args' (w.host any) stdin any =
      { runProgram args (w.host setting) stdin setting with
        log := (LogFilter.printed o'.verbose any
          ((o.advisor.run (w.host setting)).part (o.start stdin)).events).flatMap Event.lines } := by
  have ht := runProgram_eq_ofDeeds hparse (w.host setting) stdin setting
  rw [ht] at htools ⊢
  have hdeeds : SamePerformance none
      (o.advisor.runDeeds (w.host setting) { path := o.source } (repliesOfInput stdin))
      (o.advisor.runDeeds (w.host any) { path := o.source } (repliesOfInput stdin)) :=
    o.advisor.runDeeds_congr_host rfl fun call hcall => htools call hcall setting any
  obtain ⟨hfailure, hperformed⟩ := hdeeds
  have hadvisor : o'.advisor = o.advisor := by rw [hsame]; rfl
  have hsource : o'.source = o.source := by rw [hsame]
  rw [runProgram_eq_ofDeeds hparse', hadvisor, hsource, Transcript.ofDeeds, ← hfailure,
    ← hperformed, (o.advisor.does_run (w.host setting) (o.start stdin)).part_eq]
  rfl

/-- **Logging does not influence a run**: runs of two command lines that differ at most in whether they
are verbose, and in the setting, differ at most in their logs, and a log is what is printed of the same
events; a verbose log has all of them. What is taken for granted is that the programs that are called
ignore the setting, which they inherit. -/
theorem logging_is_inert {args args' : List Bytes} {o o' : CommandLine.Options}
    (hparse : CommandLine.parse args = .ok o) (hparse' : CommandLine.parse args' = .ok o')
    (hsame : o' = { o with verbose := o'.verbose }) {w : Surroundings} {stdin : Bytes}
    {setting : Option String}
    (htools : w.IgnoreSetting (runProgram args (w.host setting) stdin setting).calls)
    (setting' : Option String) :
    let t := runProgram args (w.host setting) stdin setting
    let t' := runProgram args' (w.host setting') stdin setting'
    let events := ((o.advisor.run (w.host setting)).part (o.start stdin)).events
    (t'.exitCode = t.exitCode ∧ t'.stdout = t.stdout ∧ t'.report = t.report ∧ t'.calls = t.calls) ∧
    t.log = (LogFilter.printed o.verbose setting events).flatMap Event.lines ∧
    t'.log = (LogFilter.printed o'.verbose setting' events).flatMap Event.lines ∧
    (o'.verbose = true →
      (LogFilter.printed o.verbose setting events).Sublist
        (LogFilter.printed o'.verbose setting' events) ∧
      t.log.Sublist t'.log ∧ ∀ any, runProgram args' (w.host any) stdin any = t') ∧
    (o.verbose = false → ∀ flag ∈ ["-v", "--verbose"],
      CommandLine.parse (Utf8.bytesOf flag :: args) = .ok { o with verbose := true }) := by
  intro t t' events
  have ht' : ∀ any, runProgram args' (w.host any) stdin any = { t with
      log := (LogFilter.printed o'.verbose any events).flatMap Event.lines } :=
    runProgram_eq_of_parse hparse hparse' hsame htools
  have hlog : t.log = (LogFilter.printed o.verbose setting events).flatMap Event.lines :=
    congrArg Transcript.log (runProgram_eq_of_parse hparse hparse rfl htools setting)
  have hlog' : t'.log = (LogFilter.printed o'.verbose setting' events).flatMap Event.lines :=
    congrArg Transcript.log (ht' setting')
  refine ⟨?_, hlog, hlog', fun hverbose => ?_, fun hoff flag hflag => ?_⟩
  · rw [show t' = _ from ht' setting']
    exact ⟨rfl, rfl, rfl, rfl⟩
  · have hsub : (LogFilter.printed o.verbose setting events).Sublist
        (LogFilter.printed o'.verbose setting' events) := by
      rw [hverbose, LogFilter.printed_true]
      exact LogFilter.printed_sublist ..
    refine ⟨hsub, ?_, fun any => ?_⟩
    · rw [hlog, hlog']
      exact hsub.flatMap Event.lines
    · rw [ht' any, show t' = _ from ht' setting', hverbose, LogFilter.printed_true,
        LogFilter.printed_true]
  · simp only [List.mem_cons, List.not_mem_nil, or_false] at hflag
    rcases hflag with rfl | rfl
    · exact CommandLine.parse_cons_of_step CommandLine.step_shortVerbose hparse hoff
    · exact CommandLine.parse_flag_cons .verbose hparse hoff

/-- Programs that all run and fail, and one among them that prints the setting of the log. -/
def oneListens (listener : String) : Surroundings where
  read := fun _ => .error .missing
  run := fun setting program _ =>
    .ok ⟨if program = listener then setting.getD "" else "hot", "", some 1⟩

/-- The setting is `off` for the run that is verbose and absent for the one that is not. A program
that is not called would tell the two apart. -/
theorem logging_is_inert_profilerCalled :
    let o : CommandLine.Options := {}
    let verbose := Utf8.bytesOf "-v"
    let w := oneListens "printenv"
    let t := runProgram [] (w.host none) yesAndNoText none
    let t' := runProgram [verbose] (w.host (some "off")) yesAndNoText (some "off")
    let events := ((o.advisor.run (w.host none)).part (o.start yesAndNoText)).events
    CommandLine.parse [] = .ok o ∧ CommandLine.parse [verbose] = .ok { o with verbose := true } ∧
    w.IgnoreSetting t.calls ∧ ¬ w.IgnoreSetting [("printenv", [])] ∧
    t'.exitCode = t.exitCode ∧ t'.stdout = t.stdout ∧ t'.calls = t.calls ∧
    t.log = Event.lines (.toolUnsuccessful "vtune" (some 1)) ∧
    t'.log = events.flatMap Event.lines ∧
    (∀ any, runProgram [verbose] (w.host any) yesAndNoText any = t') ∧
    events = [.toolInvoked "vtune" ["-collect", "hotspots", "example_code.cpp"],
      .toolFinished "vtune" (some 1), .toolUnsuccessful "vtune" (some 1)] := by
  intro o verbose w t t' events
  have hparse : CommandLine.parse [] = .ok o := rfl
  have hparse' : CommandLine.parse [verbose] = .ok { o with verbose := true } := rfl
  have hcalled : t.calls = [("vtune", ["-collect", "hotspots", "example_code.cpp"])] := by
    decide +kernel
  have htools : w.IgnoreSetting t.calls := by
    intro call hcall setting setting'
    rw [hcalled, List.mem_singleton] at hcall
    rw [hcall]
    rfl
  have hlistens : ¬ w.IgnoreSetting [("printenv", [])] := fun h =>
    absurd (h _ (List.mem_singleton_self _) none (some "off")) (by decide)
  have hevents : events = [.toolInvoked "vtune" ["-collect", "hotspots", "example_code.cpp"],
      .toolFinished "vtune" (some 1), .toolUnsuccessful "vtune" (some 1)] := by decide +kernel
  obtain ⟨⟨hexit, hstdout, -, hcalls⟩, hlog, hlog', hverbose, -⟩ :=
    logging_is_inert hparse hparse' rfl htools (some "off")
  have hwarning : LogFilter.printed false none events = [.toolUnsuccessful "vtune" (some 1)] := by
    rw [hevents]
    decide +kernel
  refine ⟨hparse, hparse', htools, hlistens, hexit, hstdout, hcalls, hlog.trans ?_, hlog'.trans ?_,
    (hverbose rfl).2.2, hevents⟩
  · exact (congrArg (List.flatMap Event.lines) hwarning).trans (List.append_nil _)
  · rw [LogFilter.printed_true]

/-- A profiler that prints the setting is heard in the output. -/
example :
    let stdout (setting : Option String) :=
      (runProgram [] ((oneListens "vtune").host setting) yesAndNoText none).stdout
    stdout (some "off") ≠ stdout none := by
  decide +kernel

end LoopAdvice
