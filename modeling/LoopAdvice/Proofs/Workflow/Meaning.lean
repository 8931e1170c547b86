import LoopAdvice.Proofs.Workflow.Deeds

/-! # What a run means

A run that starts afresh, in surroundings that never fail, comes to an end. What it answers and what
it writes are read off the file, the two decisions, the replies and the answers of the programs: a
few words on the analysis, the report, and what is told of the profiler and of the compiler. Main
statement: `run_from_start`. -/

namespace LoopAdvice

/-- The start of a run that writes without end and whose replies can all be read. -/
def Progress.start (path : Bytes) (replies : List String) : Progress :=
  { session := { path := path }, replies := replies.map .ok }

/-- What is told of a tool, given whether it may run. -/
def Tool.transcript (tool : Tool) (run : Runner) (path : Bytes) (allowed : Bool) : String :=
  if allowed then
    tool.banner ++ "\n" ++
      match run tool.program (tool.args path) with
      | .ok o =>
        o.stdout ++ "\n" ++
          if o.stderr = "" then "" else tool.errorLabel ++ " " ++ o.stderr ++ "\n"
      | .error (.notFound _) => tool.missingHint ++ "\n"
      | .error (.failed _ _) => ""
  else ""

namespace Advisor

/-- What is told of the analysis. -/
def intro (a : Advisor) (host : Host) (path : Bytes) : String :=
  match a.format, host.read path with
  | .json, _ => ""
  | .text, .ok _ => "Analyzing code...\nAnalysis complete.\n"
  | .text, .error _ => "File " ++ Utf8.display path ++ " not found.\n"

/-- Whether the profiler may run: the first reply is for it. -/
def allowsProfiler (a : Advisor) (replies : List String) : Bool :=
  a.profile.consents (replies.headD "")

/-- Whether the compiler may run: the first reply is for it unless the profiler takes that. -/
def allowsCompiler (a : Advisor) (replies : List String) : Bool :=
  a.compile.consents ((if a.profile = .ask then replies.tail else replies).headD "")

end Advisor

/-! ### Replies -/

theorem replyText_nextReply (replies : List String) :
    replyText (nextReply (replies.map .ok)).1 = replies.headD "" := by
  cases replies <;> rfl

theorem Advisor.allowsProfiler_eq (a : Advisor) (replies : List String) :
    a.profile.grants (replies.map .ok) = a.allowsProfiler replies := by
  rw [Decision.grants, replyText_nextReply, allowsProfiler]

theorem Decision.repliesAfter_map_ok (decision : Decision) (replies : List String) :
    decision.repliesAfter (replies.map .ok) =
      (if decision = .ask then replies.tail else replies).map .ok := by
  cases decision <;> simp [repliesAfter]

theorem Advisor.allowsCompiler_eq (a : Advisor) (replies : List String) :
    a.compile.grants (a.profile.repliesAfter (replies.map .ok)) = a.allowsCompiler replies := by
  rw [Decision.repliesAfter_map_ok, Decision.grants, replyText_nextReply, allowsCompiler]

/-! ### What is told -/

theorem told_map_note (events : List Event) : told (events.map .note) = "" := by
  induction events with
  | nil => rfl
  | cons e events ih => rw [List.map_cons, told_cons, ih]; rfl

theorem Tool.told_deeds (tool : Tool) (run : Runner) (path : Bytes) :
    told (tool.deeds run path) = tool.transcript run path true := by
  unfold deeds callDeeds transcript answer
  rcases run tool.program (tool.args path) with (name | ⟨name, cause⟩) | o
  · simp [echoDeeds, hintDeeds, Deed.text]
  · simp [echoDeeds, hintDeeds, Deed.text]
  · by_cases hs : o.succeeded <;> by_cases he : o.stderr = "" <;>
      simp [echoDeeds, hintDeeds, Deed.text, hs, he]

theorem told_toolStepDeeds (host : Host) (decision : Decision) (question : String) (tool : Tool)
    (path : Bytes) (replies : List Reply) :
    told (toolStepDeeds host decision question tool path replies) =
      tool.transcript host.run path (decision.grants replies) := by
  have hquestion : told (decision.deeds question replies) = "" := by
    cases decision <;> rfl
  rw [toolStepDeeds, told_append, hquestion, String.empty_append]
  cases decision.grants replies with
  | true => exact tool.told_deeds host.run path
  | false => rfl

namespace Advisor

theorem told_analyzeDeeds (a : Advisor) (host : Host) (s : Session) :
    told (a.analyzeDeeds host s) = a.intro host s.path := by
  unfold analyzeDeeds intro
  cases host.read s.path with
  | error fault =>
    unfold missingDeed
    cases a.format <;> simp [Deed.text, Fault.message, String.append_assoc]
  | ok content =>
    unfold scanDeeds sayDeed
    simp only [told_append, told_cons, told_nil, told_map_note, String.append_empty]
    cases a.format with
    | text => simp only [Deed.text]; rfl
    | json => rfl

theorem told_runDeeds (a : Advisor) (host : Host) (s : Session) (replies : List Reply) :
    told (a.runDeeds host s replies) =
      a.intro host s.path ++
        (Report.ofSession (s.add (host.advice s.path)) (host.loads s.path)).render a.format ++
        a.profiler.transcript host.run s.path (a.profile.grants replies) ++
        a.compiler.transcript host.run s.path
          (a.compile.grants (a.profile.repliesAfter replies)) := by
  simp only [runDeeds, told_append, told_analyzeDeeds, profilerDeeds, compilerDeeds,
    told_toolStepDeeds, told_cons, told_nil, reportDeed, Deed.text, String.append_empty,
    String.append_assoc]

end Advisor

/-! ### Surroundings that never fail -/

theorem Tool.fault?_deeds {tool : Tool} {run : Runner} {path : Bytes}
    (h : ∀ name cause, tool.answer run path ≠ .error (.failed name cause)) :
    ∀ d ∈ tool.deeds run path, d.fault? none = none := by
  unfold deeds callDeeds
  rcases hanswer : tool.answer run path with (name | ⟨name, cause⟩) | o
  · simp [echoDeeds, hintDeeds, Deed.fault?]
  · exact absurd hanswer (h name cause)
  · by_cases hs : o.succeeded <;> by_cases he : o.stderr = "" <;>
      simp [echoDeeds, hintDeeds, Deed.fault?, hs, he]

theorem fault?_toolStepDeeds {host : Host} {tool : Tool} {path : Bytes}
    (h : ∀ name cause, tool.answer host.run path ≠ .error (.failed name cause))
    (decision : Decision) (question : String) (replies : List String) :
    ∀ d ∈ toolStepDeeds host decision question tool path (replies.map .ok),
      d.fault? none = none := by
  intro d hd
  rcases List.mem_append.mp hd with hd | hd
  · cases decision <;> simp [Decision.deeds] at hd
    subst hd
    cases replies <;> rfl
  · split_ifs at hd
    · exact Tool.fault?_deeds h d hd
    · cases hd

namespace Advisor

theorem fault?_analyzeDeeds (a : Advisor) {host : Host} {s : Session}
    (h : ∀ cause, host.read s.path ≠ .error (.failed cause)) :
    ∀ d ∈ a.analyzeDeeds host s, d.fault? none = none := by
  unfold analyzeDeeds
  rcases hread : host.read s.path with (- | - | cause) | content
  · unfold missingDeed
    cases a.format <;> simp [Deed.fault?]
  · unfold missingDeed
    cases a.format <;> simp [Deed.fault?]
  · exact absurd hread (h cause)
  · unfold scanDeeds sayDeed
    cases a.format <;> simp [Deed.fault?, or_imp, forall_and]

/-- **A run from the start, in surroundings that never fail, means what the file, the decisions, the
replies and the programs make of it.** -/
theorem run_from_start (a : Advisor) (host : Host) (path : Bytes) (replies : List String)
    (hread : ∀ cause, host.read path ≠ .error (.failed cause))
    (hrun : ∀ program args name cause, host.run program args ≠ .error (.failed name cause)) :
    ∃ q, (a.run host).run (.start path replies) =
        .ok
          { loaded := host.loads path
            suggestions := (host.advice path).map Suggestion.text
            profiler := a.profiler.outcome host.run path (a.allowsProfiler replies)
            compiler := a.compiler.outcome host.run path (a.allowsCompiler replies) } q ∧
      q.trace.output = Utf8.bytesOf
        (a.intro host path ++
          Report.render ⟨Utf8.display path, host.loads path, host.advice path⟩ a.format ++
          a.profiler.transcript host.run path (a.allowsProfiler replies) ++
          a.compiler.transcript host.run path (a.allowsCompiler replies)) := by
  have hpass : Passes (Progress.start path replies).room
      (a.runDeeds host ⟨path, []⟩ (replies.map .ok)) := by
    refine passes_none ?_
    unfold runDeeds profilerDeeds compilerDeeds
    rw [Decision.repliesAfter_map_ok]
    simp only [List.forall_mem_append]
    exact ⟨a.fault?_analyzeDeeds hread, by simp [reportDeed, Deed.fault?],
      fault?_toolStepDeeds (hrun _ _) _ _ _, fault?_toolStepDeeds (hrun _ _) _ _ _,
      by simp [Deed.fault?]⟩
  have houtcome : a.outcome host ⟨path, []⟩ (replies.map .ok) =
      { loaded := host.loads path
        suggestions := (host.advice path).map Suggestion.text
        profiler := a.profiler.outcome host.run path (a.allowsProfiler replies)
        compiler := a.compiler.outcome host.run path (a.allowsCompiler replies) } := by
    simp only [outcome, allowsProfiler_eq, allowsCompiler_eq, Session.texts,
      Session.suggestions_add, List.nil_append]
  refine ⟨(Progress.start path replies).afterAll (a.runDeeds host ⟨path, []⟩ (replies.map .ok)),
    ?_, ?_⟩
  · rw [← houtcome]
    exact (a.does_run host (.start path replies)).trans (perform_of_passes _ hpass)
  · rw [trace_afterAll hpass, Trace.output_append, output_flatMap_actions, told_runDeeds,
      allowsProfiler_eq, allowsCompiler_eq]
    rfl

end Advisor

/-- A file with one loop to parallelize, a profiler that warns, and no compiler. -/
def oneLoop : Host where
  read := fun _ => .ok (Utf8.bytesOf "for (int i = 0; i < n; i++)")
  run := fun program _ =>
    if program = "vtune" then .ok ⟨"hot", "warn", some 0⟩ else .error (.notFound program)

theorem run_from_start_oneLoop :
    (∀ cause, oneLoop.read [0x61] ≠ .error (.failed cause)) ∧
    (∀ program args name cause, oneLoop.run program args ≠ .error (.failed name cause)) ∧
    ∃ q, (Advisor.run {} oneLoop).run (.start [0x61] ["y\n", "Y"]) =
        .ok ⟨true, [Suggestion.text .parallelize, Suggestion.text .vectorize,
          Suggestion.text .memory], .ran, .unavailable⟩ q ∧
      q.trace.output = Utf8.bytesOf
        ("Analyzing code...\nAnalysis complete.\n" ++ "\nOptimization suggestions:\n" ++
          " - Consider parallelizing the loop using DPC++ or OpenMP.\n" ++
          " - Try using SIMD vectorization for eligible loops using Intel's " ++
          "Vectorization Advisor.\n" ++
          " - Consider optimizing memory access patterns to improve cache usage.\n" ++
          "Running Intel VTune Profiler for analysis...\nhot\nVTune Profiler error: warn\n" ++
          "Compiling with Intel DPC++ for further optimizations...\n" ++
          "DPC++ compiler not found. Ensure Intel oneAPI is properly installed.\n") := by
  have hread : ∀ cause, oneLoop.read [0x61] ≠ .error (.failed cause) := fun _ h => nomatch h
  have hrun : ∀ program args name cause,
      oneLoop.run program args ≠ .error (.failed name cause) := by
    intro program args name cause
    unfold oneLoop
    dsimp only
    split_ifs <;> simp
  refine ⟨hread, hrun, ?_⟩
  obtain ⟨q, hq, hout⟩ := Advisor.run_from_start {} oneLoop [0x61] ["y\n", "Y"] hread hrun
  refine ⟨q, hq.trans rfl, hout.trans ?_⟩
  exact congrArg Utf8.bytesOf (by decide +kernel)

end LoopAdvice
