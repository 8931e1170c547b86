import LoopAdvice.Files.Machine
import LoopAdvice.Proofs.Program.Input
import LoopAdvice.Proofs.Text.Wrapping
import LoopAdvice.Proofs.Workflow.Analysis

/-! # Exit codes

A command line that is refused ends the program with 2, a run that fails ends it with 1, and anything
else with 0. A run can fail at five places, in this order: the source, the reply about the profiler,
the start of the profiler, and the same two for the compiler. What is missing is no fault, nor is a
directory in the place of the source, nor the way in which a program ends; every other refusal is
(`Host.sourceFault?`, `Tool.startFault?`). Main statements: a run fails with the first of these faults
(`failure_runDeeds_eq_fault?`), and the exit code tells what became of the command line and of the run
(`exit_code`), whatever the surroundings are. On a machine the other refusals are those of its system
(`Machine.sourceCause?`, `Machine.programCause?`). -/

namespace LoopAdvice

/-! ### What a machine refuses -/

namespace Machine
variable (m : Machine)

/-- Why the system cannot read a path; that nothing stands there, or a directory, is not among the
reasons. -/
def sourceCause? (path : Path) : Option Cause :=
  if path.contains 0 then some .nulInPath
  else match m.tree.resolve m.cwd path with
    | .ok (_, .link _) => some (.system .tooManyLinks)
    | .ok (_, .refused .noEntry) | .error .noEntry => none
    | .ok (_, .refused e) | .error e => some (.system e)
    | .ok _ => none

/-- Why the system cannot start a program; that it is missing is not among the reasons. -/
def programCause? (program : String) (args : List String) : Option Cause :=
  match m.start program args with
  | .ok _ => none
  | .error (.system .noEntry) => none
  | .error cause => some cause

variable {m} {path : Path} {program name : String} {args : List String} {cause : Cause}

theorem read_eq_failed_iff :
    m.host.read path = .error (.failed cause) ↔ m.sourceCause? path = some cause := by
  unfold host FileTree.read sourceCause?
  dsimp only
  split_ifs
  · simp
  · rcases m.tree.resolve m.cwd path with e | ⟨place, entry⟩
    · cases e <;> simp [ReadFault.ofSystem]
    · rcases entry with _ | _ | _ | _ | e
      case refused => cases e <;> simp [ReadFault.ofSystem]
      all_goals simp

theorem run_eq_failed_iff : m.host.run program args = .error (.failed name cause) ↔
    name = program ∧ m.programCause? program args = some cause := by
  unfold host run programCause?
  dsimp only
  rcases m.start program args with (e | _) | s
  · cases e <;> simp [eq_comm]
  all_goals simp [eq_comm]

/-- What is not there is no fault, but a file in the place of a directory is one, and a file that may
not be read. -/
example :
    let m : Machine := ⟨FileTree.put {} [[0x61]] (.refused .permissionDenied), [], []⟩
    [[0x62], [0x61, 0x2F, 0x62], [0x61], [0x61, 0x00]].map m.sourceCause? =
      [none, some (.system .notDirectory), some (.system .permissionDenied), some .nulInPath] := by
  cbv

/-- A script that may not be started is a fault, but one whose interpreter is missing is none. -/
example :
    let m := ((Machine.fresh [] [[0x62]]).install { name := "a", executable := false }).install
      { name := "c", interpreter := some [0x64] }
    (m.programCause? "a" [], m.programCause? "c" []) = (some (.system .permissionDenied), none) := by
  cbv

end Machine

/-! ### Where a run fails -/

/-- What reading a source fails with; that it is missing, or is a directory, is no fault. -/
def Host.sourceFault? (host : Host) (path : Bytes) : Option Fault :=
  match host.read path with
  | .error (.failed cause) => some (.failed ("failed to read " ++ Utf8.display path) cause)
  | _ => none

/-- What starting a tool fails with; that it is missing is no fault, and however it ends neither. -/
def Tool.startFault? (tool : Tool) (run : Runner) (path : Bytes) : Option Fault :=
  match tool.answer run path with
  | .error (.failed name cause) => some (.failed (ToolFault.attempt name) cause)
  | _ => none

/-- What the step of a tool fails with, given what was heard before it. -/
def Tool.faultAfter? (tool : Tool) (run : Runner) (path : Bytes) : Option Bool → Option Fault
  | none => some unreadableLine
  | some false => none
  | some true => tool.startFault? run path

/-- What a run of the program fails with: the first thing that goes wrong. -/
def CommandLine.Options.fault? (o : CommandLine.Options) (host : Host) (stdin : Bytes) :
    Option Fault :=
  (host.sourceFault? o.source).or
    ((o.advisor.profiler.faultAfter? host.run o.source (o.heardFirst stdin)).or
      (o.advisor.compiler.faultAfter? host.run o.source (o.heardSecond stdin)))

theorem Host.sourceFault?_eq_some_iff {host : Host} {path : Bytes} {f : Fault} :
    host.sourceFault? path = some f ↔ ∃ cause, host.read path = .error (.failed cause) ∧
      f = .failed ("failed to read " ++ Utf8.display path) cause := by
  unfold sourceFault?
  rcases host.read path with (_ | _ | cause) | content <;> simp [eq_comm]

theorem Tool.startFault?_eq_some_iff {tool : Tool} {run : Runner} {path : Bytes} {f : Fault} :
    tool.startFault? run path = some f ↔
      ∃ name cause, tool.answer run path = .error (.failed name cause) ∧
        f = .failed (ToolFault.attempt name) cause := by
  unfold startFault?
  rcases tool.answer run path with (name | ⟨name, cause⟩) | output <;> simp [eq_comm]

theorem Tool.exists_of_faultAfter? {tool : Tool} {run : Runner} {path : Bytes}
    {heard : Option Bool} {f : Fault} (h : tool.faultAfter? run path heard = some f) :
    ∃ attempt cause, f = .failed attempt cause := by
  rcases heard with _ | _ | _
  · exact ⟨_, _, (Option.some.inj h).symm⟩
  · cases h
  · obtain ⟨name, cause, -, rfl⟩ := startFault?_eq_some_iff.mp h
    exact ⟨_, cause, rfl⟩

theorem Tool.failure_deeds (tool : Tool) (run : Runner) (path : Bytes) :
    failure none (tool.deeds run path) = tool.startFault? run path := by
  rw [startFault?]
  rcases hanswer : tool.answer run path with (name | ⟨name, cause⟩) | output
  · exact failure_none_eq_none (fault?_deeds (by simp [hanswer]))
  · rw [tool.deeds_eq, hanswer]
    rfl
  · exact failure_none_eq_none (fault?_deeds (by simp [hanswer]))

/-- The step of a tool fails with what the reply says or with what the start of the tool says. -/
theorem failure_toolStepDeeds_eq_faultAfter? (host : Host) {decision : Decision}
    {question : String} {tool : Tool} {path : Bytes} {replies : List Reply} {line : Bytes}
    (hreply : (nextReply replies).1 = replyOfLine line) :
    failure none (toolStepDeeds host decision question tool path replies) =
      tool.faultAfter? host.run path (decision.heard line) := by
  rw [toolStepDeeds, failure_append, roomAfter_none, failure_decisionDeeds hreply, grants_eq hreply]
  rcases decision.heard line with _ | _ | _
  · rfl
  · rfl
  · exact tool.failure_deeds host.run path

theorem Advisor.failure_analyzeDeeds (a : Advisor) (host : Host) (s : Session) :
    failure none (a.analyzeDeeds host s) = host.sourceFault? s.path := by
  rw [Host.sourceFault?]
  rcases hread : host.read s.path with (_ | _ | cause) | content
  · exact failure_none_eq_none (a.fault?_analyzeDeeds (by simp [hread]))
  · exact failure_none_eq_none (a.fault?_analyzeDeeds (by simp [hread]))
  · rw [a.analyzeDeeds_of_error hread]
    rfl
  · exact failure_none_eq_none (a.fault?_analyzeDeeds (by simp [hread]))

namespace CommandLine.Options
variable (o : Options) (stdin : Bytes)

theorem nextReply_first : (nextReply (repliesOfInput stdin)).1 = replyOfLine (lineAt stdin 0) :=
  nextReply_drop_repliesOfInput stdin 0

theorem nextReply_second :
    (nextReply (o.profileDecision.repliesAfter (repliesOfInput stdin))).1 =
      replyOfLine (lineAt stdin (if o.profileDecision = .ask then 1 else 0)) := by
  rw [Decision.repliesAfter_eq_drop]
  exact nextReply_drop_repliesOfInput ..

/-- **A run of the program fails with the first thing that goes wrong.** -/
theorem failure_runDeeds_eq_fault? (host : Host) :
    failure none (o.advisor.runDeeds host { path := o.source } (repliesOfInput stdin)) =
      o.fault? host stdin := by
  rw [Advisor.failure_runDeeds_eq, Advisor.failure_analyzeDeeds]
  exact congrArg _ (congrArg₂ Option.or
    (failure_toolStepDeeds_eq_faultAfter? host (nextReply_first stdin))
    (failure_toolStepDeeds_eq_faultAfter? host (o.nextReply_second stdin)))

theorem answer_run_eq_fault? (host : Host) : (o.advisor.run host).answer (o.start stdin) =
    match o.fault? host stdin with
    | none => .ok (o.advisor.outcome host { path := o.source } (repliesOfInput stdin))
    | some f => .error f := by
  rw [(o.advisor.does_run host (o.start stdin)).answer_eq, ← o.failure_runDeeds_eq_fault?]
  rfl

/-- What a run fails with is a failure of something that was attempted. -/
theorem exists_of_fault? {host : Host} {f : Fault} (h : o.fault? host stdin = some f) :
    ∃ attempt cause, f = .failed attempt cause := by
  simp only [fault?, Option.or_eq_some_iff] at h
  rcases h with hsource | ⟨-, hprofiler | ⟨-, hcompiler⟩⟩
  · obtain ⟨cause, -, rfl⟩ := Host.sourceFault?_eq_some_iff.mp hsource
    exact ⟨_, cause, rfl⟩
  · exact Tool.exists_of_faultAfter? hprofiler
  · exact Tool.exists_of_faultAfter? hcompiler

end CommandLine.Options

/-! ### The transcript -/

/-- The report of a failure has the code, and what was attempted and why it failed, set in lines. -/
theorem report_failed (attempt : String) (cause : Cause) : ∃ message source,
    (Fault.failed attempt cause).report =
      "Error: optadvise::io\n\n" ++ message ++ "\n" ++ source ++ "\n\n" ∧
    Wrap.IsSetIn "  × " "  │ " attempt message ∧
    Wrap.IsSetIn "  ╰─▶ " "      " cause.message source := by
  refine ⟨_, _, ?_, Wrap.isSetIn_fill (reportColumns - 4) .., Wrap.isSetIn_fill (reportColumns - 6) ..⟩
  simp only [Fault.report, Fault.code, Fault.message, Fault.cause?, String.append_assoc]
  rfl

/-- A question is not in a text without a question mark. -/
theorem not_isInfix_of_notMem {bytes : Bytes} (h : (0x3F : UInt8) ∉ bytes) :
    ∀ question ∈ [profileQuestion, compileQuestion], ¬ Utf8.bytesOf question <:+: bytes := by
  intro question hmem hin
  refine h (hin.subset ?_)
  simp only [List.mem_cons, List.not_mem_nil, or_false] at hmem
  rcases hmem with rfl | rfl <;> decide +kernel

theorem questionMark_notMem_helpText : (0x3F : UInt8) ∉ Utf8.bytesOf CommandLine.helpText := by
  unfold CommandLine.helpText
  simp only [Utf8.bytesOf_append, List.mem_append, not_or]
  and_intros <;> decide +kernel

theorem runProgram_of_error {args : List Bytes} {stop : CommandLine.Stop}
    (h : CommandLine.parse args = .error stop) (host : Host) (stdin : Bytes)
    (setting : Option String) : runProgram args host stdin setting = .ofStop stop := by
  rw [runProgram, h]

theorem exitCode_ofStop (stop : CommandLine.Stop) :
    (Transcript.ofStop stop).exitCode = stop.exitCode := by
  cases stop <;> rfl

/-- Instead of a run nothing is called, logged or asked. -/
theorem quiet_ofStop (stop : CommandLine.Stop) :
    let t := Transcript.ofStop stop
    t.calls = [] ∧ t.log = [] ∧
      ∀ question ∈ [profileQuestion, compileQuestion],
        ¬ Utf8.bytesOf question <:+: t.stdout := by
  cases stop with
  | help =>
    have hstdout : (Transcript.ofStop .help).stdout = Utf8.bytesOf CommandLine.helpText := by
      simp only [Transcript.ofStop, CommandLine.Stop.usesErrorStream, CommandLine.Stop.message,
        Bool.false_eq_true, if_false]
    exact ⟨rfl, rfl, hstdout ▸ not_isInfix_of_notMem questionMark_notMem_helpText⟩
  | version =>
    exact ⟨rfl, rfl, not_isInfix_of_notMem
      (show (0x3F : UInt8) ∉ Utf8.bytesOf CommandLine.versionText by decide +kernel)⟩
  | complaint c => exact ⟨rfl, rfl, not_isInfix_of_notMem List.not_mem_nil⟩

/-- The exit code and the report of a run tell the fault. -/
theorem runProgram_of_ok {args : List Bytes} {o : CommandLine.Options}
    (h : CommandLine.parse args = .ok o) (host : Host) (stdin : Bytes) (setting : Option String) :
    let t := runProgram args host stdin setting
    t.exitCode = (if (o.fault? host stdin).isSome then 1 else 0) ∧
      t.report = (o.fault? host stdin).map Fault.report := by
  rw [runProgram_eq_ofDeeds h, Transcript.ofDeeds, o.failure_runDeeds_eq_fault?]
  exact ⟨rfl, rfl⟩

/-- Neither a source that is missing or is a directory, nor a program that is missing, nor the way in
which a program ends, is a fault. -/
theorem fault?_eq_none {args : List Bytes} {o : CommandLine.Options}
    (h : CommandLine.parse args = .ok o) {host : Host} {stdin : Bytes} {setting : Option String}
    (hread : host.read o.source = .error .missing ∨ host.read o.source = .error .directory ∨
      ∃ content, host.read o.source = .ok content)
    (hfirst : o.heardFirst stdin ≠ none) (hsecond : o.heardSecond stdin ≠ none)
    (hcalls : ∀ call ∈ (runProgram args host stdin setting).calls,
      (∃ output, host.run call.1 call.2 = .ok output) ∨
        ∃ name, host.run call.1 call.2 = .error (.notFound name)) :
    o.fault? host stdin = none := by
  have hreads : ∀ cause, host.read o.source ≠ .error (.failed cause) := by
    intro cause heq
    rcases hread with hread | hread | ⟨content, hread⟩ <;> rw [hread] at heq <;> cases heq
  have hruns : ∀ call ∈ (runProgram args host stdin setting).calls, ∀ name cause,
      host.run call.1 call.2 ≠ .error (.failed name cause) := by
    intro call hcall name cause heq
    rcases hcalls call hcall with ⟨output, hrun⟩ | ⟨name', hrun⟩ <;> rw [hrun] at heq <;> cases heq
  rw [runProgram_eq_ofDeeds h] at hruns
  rw [← o.failure_runDeeds_eq_fault?, Advisor.failure_runDeeds o.advisor hreads
    (CommandLine.Options.nextReply_first stdin) (o.nextReply_second stdin) hruns]
  exact if_neg (not_or.mpr ⟨hfirst, hsecond⟩)

/-- **The exit code is 2 if the command line is refused, 1 if the run fails, and 0 otherwise.** A
machine is a case of surroundings, in which it is known what the system refuses. -/
theorem exit_code (args : List Bytes) (host : Host) (stdin : Bytes) (setting : Option String) :
    let t := runProgram args host stdin setting
    let answer (o : CommandLine.Options) := (o.advisor.run host).answer (o.start stdin)
    (t.exitCode = 2 ↔ ∃ c, CommandLine.parse args = .error (.complaint c)) ∧
    (t.exitCode = 1 ↔ ∃ o f, CommandLine.parse args = .ok o ∧ answer o = .error f) ∧
    (t.exitCode = 0 ↔ CommandLine.parse args = .error .help ∨
      CommandLine.parse args = .error .version ∨
      ∃ o v, CommandLine.parse args = .ok o ∧ answer o = .ok v) ∧
    (∀ stop, CommandLine.parse args = .error stop → t.calls = [] ∧ t.log = [] ∧
      ∀ question ∈ [profileQuestion, compileQuestion],
        ¬ Utf8.bytesOf question <:+: t.stdout) ∧
    (∀ o, CommandLine.parse args = .ok o →
      (∀ f, answer o = .error f ↔ o.fault? host stdin = some f) ∧
      t.report = (o.fault? host stdin).map Fault.report ∧
      (∀ f, o.fault? host stdin = some f → ∃ attempt cause message source,
        f = .failed attempt cause ∧
        t.report = some ("Error: optadvise::io\n\n" ++ message ++ "\n" ++ source ++ "\n\n") ∧
        Wrap.IsSetIn "  × " "  │ " attempt message ∧
        Wrap.IsSetIn "  ╰─▶ " "      " cause.message source) ∧
      ((host.read o.source = .error .missing ∨ host.read o.source = .error .directory ∨
          ∃ content, host.read o.source = .ok content) →
        o.heardFirst stdin ≠ none → o.heardSecond stdin ≠ none →
        (∀ call ∈ t.calls, (∃ output, host.run call.1 call.2 = .ok output) ∨
          ∃ name, host.run call.1 call.2 = .error (.notFound name)) →
        t.exitCode = 0)) ∧
    ∀ m : Machine, host = m.host →
      (∀ path cause, host.read path = .error (.failed cause) ↔
        m.sourceCause? path = some cause) ∧
      ∀ program args name cause, host.run program args = .error (.failed name cause) ↔
        name = program ∧ m.programCause? program args = some cause := by
  intro t answer
  have hmachine : ∀ m : Machine, host = m.host →
      (∀ path cause, host.read path = .error (.failed cause) ↔
        m.sourceCause? path = some cause) ∧
      ∀ program args name cause, host.run program args = .error (.failed name cause) ↔
        name = program ∧ m.programCause? program args = some cause := by
    rintro m rfl
    exact ⟨fun _ _ => Machine.read_eq_failed_iff, fun _ _ _ _ => Machine.run_eq_failed_iff⟩
  cases hparse : CommandLine.parse args with
  | error stop =>
    have ht : t = .ofStop stop := runProgram_of_error hparse host stdin setting
    have hexit : t.exitCode = stop.exitCode := ht ▸ exitCode_ofStop stop
    rw [hexit]
    refine ⟨?_, ?_, ?_, ?_, nofun, hmachine⟩
    · cases stop <;> simp [CommandLine.Stop.exitCode]
    · cases stop <;> simp [CommandLine.Stop.exitCode]
    · cases stop <;> simp [CommandLine.Stop.exitCode]
    · exact fun _ _ => ht ▸ quiet_ofStop stop
  | ok o =>
    obtain ⟨hexit, hreport⟩ := runProgram_of_ok hparse host stdin setting
    have hanswer : answer o = _ := o.answer_run_eq_fault? stdin host
    rw [hexit]
    refine ⟨?_, ?_, ?_, nofun, ?_, hmachine⟩
    · cases o.fault? host stdin <;> simp
    · cases hfault : o.fault? host stdin <;> simp [hanswer, hfault]
    · cases hfault : o.fault? host stdin <;> simp [hanswer, hfault]
    · rintro _ ⟨⟩
      refine ⟨fun f => ?_, hreport, fun f hf => ?_, fun hread hfirst hsecond hcalls => ?_⟩
      · rw [hanswer]
        cases o.fault? host stdin <;> simp
      · obtain ⟨attempt, cause, rfl⟩ := o.exists_of_fault? stdin hf
        obtain ⟨message, source, hlaid, hmessage, hsource⟩ := report_failed attempt cause
        refine ⟨attempt, cause, message, source, rfl, ?_, hmessage, hsource⟩
        rw [← hlaid]
        exact hreport.trans (by rw [hf]; rfl)
      · rw [fault?_eq_none hparse hread hfirst hsecond hcalls]
        rfl

/-- A source that may not be read ends the program before anything is asked or run. -/
example :
    let host : Host :=
      ⟨fun _ => .error (.failed (.system .permissionDenied)), fun name _ => .error (.notFound name)⟩
    let t := runProgram [[0x61]] host (Utf8.bytesOf "y\ny\n") none
    (t.exitCode, t.stdout, t.calls) = (1, [], []) := by
  decide +kernel

end LoopAdvice
