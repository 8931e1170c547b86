import LoopAdvice.Proofs.Report.RoundTrip
import LoopAdvice.Proofs.Run.Course
import LoopAdvice.Proofs.Workflow.Meaning

/-! # Output in the JSON format

In the JSON format the lines of progress are recorded and not written, so a run begins its output with
the report, which is one JSON document and a line break. What is told of the tools follows it as in
the text format. Main statement: the output of a run that comes to its end is the report and what is
told of the tools, and it can be read as a document exactly if neither tool was run, in which case it
is the report (`json_output`). -/

namespace LoopAdvice

namespace Tool

theorem outcome_eq_skipped_iff (tool : Tool) (run : Runner) (path : Bytes) (allowed : Bool) :
    tool.outcome run path allowed = .skipped ↔ allowed = false := by
  unfold outcome
  cases allowed with
  | true => cases tool.answer run path <;> simp
  | false => simp

theorem transcript_false (tool : Tool) (run : Runner) (path : Bytes) :
    tool.transcript run path false = "" := rfl

/-- What is told of a tool that runs begins with a letter. -/
theorem exists_transcript_true (tool : Tool) (run : Runner) (path : Bytes) :
    ∃ c t, (tool.transcript run path true).toList = c :: t ∧ Json.isSpace c = false := by
  have hbanner : ∃ c t, tool.banner.toList = c :: t ∧ Json.isSpace c = false := by
    cases tool with
    | profiler program =>
      exact ⟨'R', "unning Intel VTune Profiler for analysis...".toList, by rw [banner]; decide, rfl⟩
    | compiler program output =>
      exact ⟨'C', "ompiling with Intel DPC++ for further optimizations...".toList,
        by rw [banner]; decide, rfl⟩
  obtain ⟨c, t, hc, hspace⟩ := hbanner
  unfold transcript
  rw [if_pos rfl, String.append_assoc, String.toList_append, hc]
  exact ⟨c, _, rfl, hspace⟩

end Tool

namespace Advisor

/-- A report can be read with a line break after it, but with nothing that is told of a tool. -/
theorem document?_report (r : Report) (profiler compiler : Tool) (run : Runner) (path : Bytes)
    (first second : Bool) :
    Json.document? (r.toJson ++ (profiler.transcript run path first ++
        compiler.transcript run path second)).toList =
      if first = false ∧ second = false then some r.toValue else none := by
  have hskip : ∀ s, Json.skip ('\n' :: s) = Json.skip s := fun _ => rfl
  rw [String.toList_append, r.toList_toJson, List.append_assoc, Json.document?_render,
    List.singleton_append, hskip, String.toList_append]
  cases first with
  | true =>
    obtain ⟨c, t, hc, hspace⟩ := profiler.exists_transcript_true run path
    simp [hc, Json.skip_cons hspace]
  | false =>
    rw [profiler.transcript_false, String.toList_empty, List.nil_append]
    cases second with
    | true =>
      obtain ⟨c, t, hc, hspace⟩ := compiler.exists_transcript_true run path
      simp [hc, Json.skip_cons hspace]
    | false => rfl

/-- **The output in the JSON format is one document exactly if neither tool was run.** -/
theorem json_output (a : Advisor) (host : Host) (path : Bytes) (room : Option Room)
    (replies : List Reply) (outcome : Outcome) (q : Progress) (hformat : a.format = .json)
    (hok : (a.run host).run { session := { path }, room, replies } = .ok outcome q) :
    let report : Report := ⟨Utf8.display path, outcome.loaded, host.advice path⟩
    let told := a.profiler.transcript host.run path (outcome.profiler != .skipped) ++
      a.compiler.transcript host.run path (outcome.compiler != .skipped)
    q.trace.output = Utf8.bytesOf (report.toJson ++ told) ∧
      Json.document? (report.toJson ++ told).toList =
        if outcome.profiler = .skipped ∧ outcome.compiler = .skipped then some report.toValue
        else none := by
  intro report told
  have hdoes := a.does_run host { session := { path }, room, replies }
  obtain ⟨hpass, rfl, rfl⟩ := perform_eq_ok_iff.mp (hdoes.symm.trans hok)
  have hskipped : ∀ (tool : Tool) (allowed : Bool),
      (tool.outcome host.run path allowed != .skipped) = allowed := by
    intro tool allowed
    cases allowed with
    | false => rfl
    | true => exact bne_iff_ne.mpr (mt (tool.outcome_eq_skipped_iff host.run path true).mp nofun)
  have hintro : a.intro host path = "" := by
    simp only [intro, hformat]
  have hreport : (Report.ofSession (({ path } : Session).add (host.advice path))
      (host.loads path)).render .json = report.toJson := rfl
  constructor
  · rw [trace_afterAll hpass, List.nil_append, output_flatMap_actions, told_runDeeds, hintro,
      hformat, hreport, String.empty_append, String.append_assoc]
    simp only [told, outcome, hskipped]
  · simp only [told, outcome, hskipped, Tool.outcome_eq_skipped_iff]
    exact document?_report ..

end Advisor

/-- A file with one loop, and a profiler that says a word. -/
def hotLoop : Host where
  read := fun _ => .ok (Utf8.bytesOf "for (int i = 0; i < n; i++) \x7b\x7d\n")
  run := fun _ _ => .ok ⟨"hot", "", some 0⟩

/-- A run in the JSON format that calls the profiler and not the compiler. -/
def profilingToJson : Advisor := { format := .json, profile := .yes, compile := .no }

theorem json_output_hotLoop :
    ∃ outcome q, profilingToJson.format = .json ∧
      (profilingToJson.run hotLoop).run { session := { path := [0x61] } } = .ok outcome q ∧
      outcome.profiler = .ran ∧ outcome.compiler = .skipped ∧
      let text := Report.toJson ⟨Utf8.display [0x61], outcome.loaded, hotLoop.advice [0x61]⟩ ++
        (profilingToJson.profiler.transcript hotLoop.run [0x61] true ++
          profilingToJson.compiler.transcript hotLoop.run [0x61] false)
      q.trace.output = Utf8.bytesOf text ∧ Json.document? text.toList = none := by
  have hok : (profilingToJson.run hotLoop).answer { session := { path := [0x61] } } =
      .ok ⟨true, [Suggestion.text .parallelize, Suggestion.text .vectorize,
        Suggestion.text .memory], .ran, .skipped⟩ := by
    decide +kernel
  have hrun := Step.run_of_answer_eq_ok hok
  exact ⟨_, _, rfl, hrun, rfl, rfl, profilingToJson.json_output hotLoop _ none [] _ _ rfl hrun⟩

/-- In the JSON format a run can come to its end with an output that is not the report and that is no
document, because the banner of the profiler follows the report. -/
theorem json_output_with_banner :
    let run := profilingToJson.run ⟨fun _ => .error .missing, fun _ _ => .ok ⟨"hot", "", some 0⟩⟩
    let start : Progress := { session := { path := [0x61] } }
    let output := (run.leaves start).trace.output
    profilingToJson.format = .json ∧ (run.answer start).isOk ∧
      output ≠ Utf8.bytesOf (Report.toJson ⟨"a", false, []⟩) ∧
      (Json.document? (Utf8.decodeLossy output)).isNone := by
  decide +kernel

end LoopAdvice
