import LoopAdvice.Proofs.Workflow.Meaning
import LoopAdvice.Proofs.Workflow.Questions

/-! # Runs with an endless writer

Without an end to the writer the step of a tool fails at its question or at its call, and nowhere
else (`failure_toolStepDeeds_eq_none_iff`). Since nothing follows a call that fails, what is told of a
tool is told in full, and what a run writes can be said however it ends: a few words on the analysis,
the report, what is told of the profiler, and what is told of the compiler if the step of the profiler
does not fail (`output_performed_runDeeds`). -/

namespace LoopAdvice

/-! ### Deeds of which only the last can fail -/

/-- Deeds are all set about if none but the last can fail. -/
theorem course_none_eq_self {ds : List Deed} (h : ∀ d ∈ ds.dropLast, d.fault? none = none) :
    course none ds = ds := by
  induction ds with
  | nil => rfl
  | cons d ds ih =>
    cases ds with
    | nil =>
      obtain ⟨es, hcourse, hmem⟩ := exists_course_cons none d []
      rw [hcourse, List.eq_nil_iff_forall_not_mem.mpr fun e he => List.not_mem_nil (hmem e he)]
    | cons e ds =>
      rw [List.dropLast_cons_cons, List.forall_mem_cons] at h
      rw [course_cons_of_none h.1]
      exact congrArg _ (ih h.2)

/-- Without an end to the writer deeds are seen from outside in full. -/
theorem seen_none (ds : List Deed) : seen none ds = ds.flatMap (Deed.actions none) := by
  induction ds with
  | nil => rfl
  | cons d ds ih => rw [seen, List.flatMap_cons, ← ih]; rfl

/-- Of deeds none of which but the last can fail all texts are written. -/
theorem output_performed_none {ds : List Deed} (h : ∀ d ∈ ds.dropLast, d.fault? none = none) :
    (performed none ds).output = Utf8.bytesOf (told ds) := by
  rw [performed, course_none_eq_self h, seen_none, output_flatMap_actions]

/-! ### The step of a tool -/

/-- Whether it can be decided about a tool: its question is not asked, or the reply can be read. -/
def Decision.settles (replies : List Reply) : Decision → Bool
  | .ask => (nextReply replies).1.isOk
  | _ => true

theorem failure_decisionDeeds_eq_none_iff {decision : Decision} {question : String}
    {replies : List Reply} :
    failure none (decision.deeds question replies) = none ↔ decision.settles replies = true := by
  cases decision with
  | yes => exact iff_of_true rfl rfl
  | no => exact iff_of_true rfl rfl
  | ask =>
    unfold Decision.deeds Decision.settles
    cases (nextReply replies).1 with
    | ok reply => exact iff_of_true rfl rfl
    | error cause => exact iff_of_false (by simp [failure, Deed.fault?]) Bool.false_ne_true

namespace Tool

/-- Whether a call of a tool is answered by what it left behind, or by its being missing. -/
def completes (tool : Tool) (run : Runner) (path : Bytes) : Bool :=
  match tool.answer run path with
  | .error (.failed _ _) => false
  | _ => true

variable {tool : Tool} {run : Runner} {path : Bytes}

theorem completes_iff : tool.completes run path = true ↔
    ∀ name cause, tool.answer run path ≠ .error (.failed name cause) := by
  unfold completes
  rcases tool.answer run path with (name | ⟨name, cause⟩) | o <;> simp

/-- A call that fails is the last deed of its tool. -/
theorem deeds_of_not_completes (h : tool.completes run path = false) :
    tool.deeds run path = tool.callDeeds run path ∧ failure none (tool.deeds run path) ≠ none := by
  unfold deeds callDeeds
  rcases hanswer : tool.answer run path with (name | ⟨name, cause⟩) | o
  · simp [completes, hanswer] at h
  · exact ⟨rfl, by simp [failure, Deed.fault?]⟩
  · simp [completes, hanswer] at h

theorem failure_deeds_eq_none_iff :
    failure none (tool.deeds run path) = none ↔ tool.completes run path = true := by
  cases h : tool.completes run path with
  | true => exact iff_of_true (failure_none_eq_none (fault?_deeds (completes_iff.mp h))) rfl
  | false => exact iff_of_false (deeds_of_not_completes h).2 Bool.false_ne_true

/-- What is told of a tool that may run is told in full, also if its call fails. -/
theorem output_performed_deeds (tool : Tool) (run : Runner) (path : Bytes) :
    (performed none (tool.deeds run path)).output =
      Utf8.bytesOf (tool.transcript run path true) := by
  rw [← tool.told_deeds]
  refine output_performed_none fun d hd => ?_
  cases h : tool.completes run path with
  | true => exact fault?_deeds (completes_iff.mp h) d (List.dropLast_subset _ hd)
  | false =>
    rw [(deeds_of_not_completes h).1] at hd
    simp only [callDeeds, List.cons_append, List.nil_append, List.dropLast_cons_cons,
      List.dropLast_singleton, List.mem_cons, List.not_mem_nil, or_false] at hd
    obtain rfl | rfl := hd <;> simp [Deed.fault?]

theorem bannerFits_none (tool : Tool) : tool.BannerFits none := fun _ h => nomatch h

/-- Whether the step of a tool comes to its end. -/
def passes (tool : Tool) (run : Runner) (path : Bytes) (decision : Decision)
    (replies : List Reply) : Bool :=
  decision.settles replies && (!decision.grants replies || tool.completes run path)

end Tool

section ToolStep
variable {host : Host} {decision : Decision} {question : String} {tool : Tool} {path : Bytes}
  {replies : List Reply}

/-- **The step of a tool fails at its question or at its call, and nowhere else.** -/
theorem failure_toolStepDeeds_eq_none_iff :
    failure none (toolStepDeeds host decision question tool path replies) = none ↔
      tool.passes host.run path decision replies = true := by
  rw [toolStepDeeds, failure_append, roomAfter_none, Option.or_eq_none_iff,
    failure_decisionDeeds_eq_none_iff, Tool.passes, Bool.and_eq_true]
  refine and_congr_right fun _ => ?_
  cases decision.grants replies with
  | true => exact Tool.failure_deeds_eq_none_iff
  | false => exact iff_of_true rfl rfl

/-- A tool that does not fail leaves its question as the only thing to fail. -/
theorem failure_toolStepDeeds_of_completes (h : tool.completes host.run path = true) :
    failure none (toolStepDeeds host decision question tool path replies) =
      failure none (decision.deeds question replies) := by
  have htool : failure none (if decision.grants replies then tool.deeds host.run path else []) =
      none := by
    split_ifs
    · exact Tool.failure_deeds_eq_none_iff.mpr h
    · rfl
  rw [toolStepDeeds, failure_append, roomAfter_none, htool, Option.or_none]

theorem output_performed_toolStepDeeds :
    (performed none (toolStepDeeds host decision question tool path replies)).output =
      Utf8.bytesOf (tool.transcript host.run path (decision.grants replies)) := by
  rw [performed_toolStepDeeds, Trace.output_append, output_question, List.nil_append]
  cases decision.grants replies with
  | true => exact tool.output_performed_deeds host.run path
  | false => rfl

theorem calls_performed_toolStepDeeds :
    (performed none (toolStepDeeds host decision question tool path replies)).calls =
      if decision.grants replies then [tool.callOn path] else [] := by
  rw [performed_toolStepDeeds, Trace.calls_append, calls_question, List.nil_append]
  cases decision.grants replies with
  | true =>
    rw [if_pos rfl, if_pos rfl, Tool.calls_performed_deeds,
      if_pos ((tool.bannerLine_isPrefixOf_iff ..).mpr tool.bannerFits_none)]
  | false => rfl

/-- The step of a tool goes by what the call of that tool is answered, and by no other. -/
theorem toolStepDeeds_congr_answer {other : Host}
    (h : tool.answer other.run path = tool.answer host.run path) :
    toolStepDeeds other decision question tool path replies =
      toolStepDeeds host decision question tool path replies := by
  simp only [toolStepDeeds, Tool.deeds, Tool.callDeeds, h]

end ToolStep

/-! ### Whole runs -/

namespace Advisor

section Tools
variable (a : Advisor) (run : Runner) (path : Bytes) (replies : List Reply)

/-- Whether the step of the profiler comes to its end. -/
def passesProfiler : Bool := a.profiler.passes run path a.profile replies

/-- What is told of the profiler. -/
def toldOfProfiler : String := a.profiler.transcript run path (a.profile.grants replies)

/-- What is told of the compiler, if the run gets that far. -/
def toldOfCompiler : String :=
  if a.passesProfiler run path replies then
    a.compiler.transcript run path (a.compile.grants (a.profile.repliesAfter replies))
  else ""

end Tools

/-- A run fails with the first fault of its analysis, its profiler and its compiler. -/
theorem failure_runDeeds_eq (a : Advisor) (host : Host) (s : Session) (replies : List Reply) :
    failure none (a.runDeeds host s replies) = (failure none (a.analyzeDeeds host s)).or
      ((failure none (a.profilerDeeds host s.path replies)).or
        (failure none (a.compilerDeeds host s.path (a.profile.repliesAfter replies)))) := by
  have hreport : failure none [a.reportDeed (s.add (host.advice s.path)) (host.loads s.path)] =
      none := rfl
  have hclosing : failure none [a.closingDeed host s replies] = none := rfl
  rw [runDeeds_eq, openingDeeds]
  simp only [failure_append, roomAfter_none, hreport, hclosing, Option.or_none]

section Opening
variable (a : Advisor) {host : Host} {s : Session}
  (hread : ∀ cause, host.read s.path ≠ .error (.failed cause))
include hread

theorem fault?_openingDeeds : ∀ d ∈ a.openingDeeds host s, d.fault? none = none := by
  unfold openingDeeds
  simp only [List.forall_mem_append]
  exact ⟨a.fault?_analyzeDeeds hread, by simp [reportDeed, Deed.fault?]⟩

theorem failure_openingDeeds : failure none (a.openingDeeds host s) = none :=
  failure_none_eq_none (a.fault?_openingDeeds hread)

/-- A run fails if one of its two tools does. -/
theorem failure_runDeeds_eq_or (replies : List Reply) :
    failure none (a.runDeeds host s replies) = (failure none (a.profilerDeeds host s.path replies)).or
      (failure none (a.compilerDeeds host s.path (a.profile.repliesAfter replies))) := by
  rw [a.failure_runDeeds_eq, failure_none_eq_none (a.fault?_analyzeDeeds hread), Option.none_or]

/-- What a run calls is what its two tools call, the compiler only if the step of the profiler does
not fail. -/
theorem calls_performed_runDeeds (replies : List Reply) :
    (performed none (a.runDeeds host s replies)).calls =
      (performed none (a.profilerDeeds host s.path replies)).calls ++
        if failure none (a.profilerDeeds host s.path replies) = none then
          (performed none (a.compilerDeeds host s.path (a.profile.repliesAfter replies))).calls
        else [] := by
  have hopening : (performed none (a.openingDeeds host s)).calls = [] :=
    calls_performed_of_quiet (a.quiet_openingDeeds host s) none
  have hclosing : (performed none [a.closingDeed host s replies]).calls = [] := rfl
  simp only [runDeeds_eq, calls_performed_append, roomAfter_none, a.failure_openingDeeds hread,
    hopening, hclosing, ite_self, if_true, List.nil_append, List.append_nil]

/-- Of the tools a run tells after the report, of the compiler only if it comes to it. -/
theorem output_performed_runDeeds (replies : List Reply) :
    (performed none (a.runDeeds host s replies)).output = Utf8.bytesOf (a.intro host s.path ++
      (Report.ofSession (s.add (host.advice s.path)) (host.loads s.path)).render a.format ++
      a.toldOfProfiler host.run s.path replies ++ a.toldOfCompiler host.run s.path replies) := by
  have hopening : (performed none (a.openingDeeds host s)).output = Utf8.bytesOf (a.intro host s.path ++
      (Report.ofSession (s.add (host.advice s.path)) (host.loads s.path)).render a.format) := by
    rw [output_performed_none fun d hd =>
      a.fault?_openingDeeds hread d (List.dropLast_subset _ hd)]
    simp only [openingDeeds, told_append, told_analyzeDeeds, told_cons, told_nil, reportDeed,
      Deed.text, String.append_empty]
  have hprofiler : (performed none (a.profilerDeeds host s.path replies)).output =
      Utf8.bytesOf (a.toldOfProfiler host.run s.path replies) := output_performed_toolStepDeeds
  have hcompiler : (performed none
      (a.compilerDeeds host s.path (a.profile.repliesAfter replies))).output = Utf8.bytesOf
        (a.compiler.transcript host.run s.path
          (a.compile.grants (a.profile.repliesAfter replies))) := output_performed_toolStepDeeds
  have hpasses : failure none (a.profilerDeeds host s.path replies) = none ↔
      a.passesProfiler host.run s.path replies = true := failure_toolStepDeeds_eq_none_iff
  have hclosing : (performed none [a.closingDeed host s replies]).output = [] := rfl
  rw [runDeeds_eq, output_performed_append, if_pos (a.failure_openingDeeds hread), roomAfter_none,
    output_performed_append, roomAfter_none, output_performed_append, roomAfter_none, hclosing,
    ite_self, List.append_nil, hopening, hprofiler, hcompiler, Utf8.bytesOf_append (_ ++ _),
    Utf8.bytesOf_append (_ ++ _), List.append_assoc, toldOfCompiler]
  simp only [hpasses]
  split_ifs <;> rfl

end Opening

end Advisor

end LoopAdvice
