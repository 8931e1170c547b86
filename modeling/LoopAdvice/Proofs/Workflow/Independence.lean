import LoopAdvice.Proofs.Workflow.Endless

/-! # The tools depend on nothing before them

Two runs over one path, with the same advisor and the same replies, may find the source in different
states and may get different answers from the profiler. If neither of these is a fatal fault, and the
compiler is answered alike, the runs ask and call alike, the compiler ends alike in both, and what is
told of it is the same (`tools_independent`). -/

namespace LoopAdvice

/-! ### What the tools depend on -/

namespace Tool

variable {tool : Tool} {run other : Runner} {path : Bytes}
  (h : tool.answer other path = tool.answer run path)
include h

theorem transcript_congr (allowed : Bool) :
    tool.transcript other path allowed = tool.transcript run path allowed := by
  unfold answer at h
  simp only [transcript, h]

theorem outcome_congr (allowed : Bool) :
    tool.outcome other path allowed = tool.outcome run path allowed := by
  simp only [outcome, h]

end Tool

namespace Advisor

section Hosts
variable {a : Advisor} {path : Bytes} {one two : Host}
  (hprofilerOne : ∀ name cause, a.profiler.answer one.run path ≠ .error (.failed name cause))
  (hprofilerTwo : ∀ name cause, a.profiler.answer two.run path ≠ .error (.failed name cause))
  (hcompiler : a.compiler.answer two.run path = a.compiler.answer one.run path)

include hprofilerOne in
theorem passesProfiler_of_completes (replies : List Reply) :
    a.passesProfiler one.run path replies = a.profile.settles replies := by
  rw [passesProfiler, Tool.passes, Tool.completes_iff.mpr hprofilerOne, Bool.or_true, Bool.and_true]

include hprofilerOne hprofilerTwo in
/-- If no call of the profiler fails, the reply alone decides whether its step does. -/
theorem failure_profilerDeeds_congr (replies : List Reply) :
    failure none (a.profilerDeeds two path replies) =
      failure none (a.profilerDeeds one path replies) :=
  (failure_toolStepDeeds_of_completes (Tool.completes_iff.mpr hprofilerTwo)).trans
    (failure_toolStepDeeds_of_completes (Tool.completes_iff.mpr hprofilerOne)).symm

include hcompiler in
theorem compilerDeeds_congr (replies : List Reply) :
    a.compilerDeeds two path replies = a.compilerDeeds one path replies :=
  toolStepDeeds_congr_answer hcompiler

include hprofilerOne hprofilerTwo hcompiler in
theorem toldOfCompiler_congr (replies : List Reply) :
    a.toldOfCompiler two.run path replies = a.toldOfCompiler one.run path replies := by
  simp only [toldOfCompiler, passesProfiler_of_completes hprofilerTwo,
    passesProfiler_of_completes hprofilerOne, Tool.transcript_congr hcompiler]

end Hosts

/-- A run ends with what becomes of the compiler, or with the fault of the first tool that fails. -/
theorem answer_run_compiler (a : Advisor) {host : Host} {p : Progress} (hroom : p.room = none)
    (hread : ∀ cause, host.read p.session.path ≠ .error (.failed cause)) :
    ((a.run host).answer p).map Outcome.compiler =
      match (failure none (a.profilerDeeds host p.session.path p.replies)).or
          (failure none (a.compilerDeeds host p.session.path
            (a.profile.repliesAfter p.replies))) with
      | none => .ok (a.compiler.outcome host.run p.session.path
          (a.compile.grants (a.profile.repliesAfter p.replies)))
      | some f => .error f := by
  rw [(a.does_run host p).answer_eq, hroom, a.failure_runDeeds_eq_or hread]
  cases (failure none (a.profilerDeeds host p.session.path p.replies)).or _ with
  | none => rfl
  | some f => rfl

/-- **What is asked and called, and what becomes of the compiler, depends neither on the source nor on
what the profiler answers**, as long as neither of them fails. -/
theorem tools_independent (a : Advisor) (path : Bytes) (replies : List Reply) (one two : Host)
    (hreadOne : ∀ cause, one.read path ≠ .error (.failed cause))
    (hreadTwo : ∀ cause, two.read path ≠ .error (.failed cause))
    (hprofilerOne : ∀ name cause, a.profiler.answer one.run path ≠ .error (.failed name cause))
    (hprofilerTwo : ∀ name cause, a.profiler.answer two.run path ≠ .error (.failed name cause))
    (hcompiler : a.compiler.answer two.run path = a.compiler.answer one.run path) :
    let start : Progress := { session := { path }, replies }
    let part (host : Host) := (a.run host).part start
    let outcome (host : Host) := ((a.run host).answer start).map Outcome.compiler
    let opening (host : Host) := a.intro host path ++
      Report.render ⟨Utf8.display path, host.loads path, host.advice path⟩ a.format
    let compiler := a.toldOfCompiler one.run path replies
    (part two).questions = (part one).questions ∧
    (part two).calls = (part one).calls ∧
    outcome two = outcome one ∧
    (part one).output =
      Utf8.bytesOf (opening one ++ a.toldOfProfiler one.run path replies ++ compiler) ∧
    (part two).output =
      Utf8.bytesOf (opening two ++ a.toldOfProfiler two.run path replies ++ compiler) ∧
    (a.profiler.answer two.run path = a.profiler.answer one.run path →
      ∃ told, (part one).output = Utf8.bytesOf (opening one ++ told) ∧
        (part two).output = Utf8.bytesOf (opening two ++ told)) := by
  intro start part outcome opening compiler
  have hpart : ∀ host, part host = performed none (a.runDeeds host { path } replies) :=
    fun host => (a.does_run host start).part_eq
  have hfailure := failure_profilerDeeds_congr hprofilerOne hprofilerTwo replies
  have hdeeds := compilerDeeds_congr hcompiler (a.profile.repliesAfter replies)
  have htold : a.toldOfCompiler two.run path replies = compiler :=
    toldOfCompiler_congr hprofilerOne hprofilerTwo hcompiler replies
  have houtput : ∀ host, (∀ cause, host.read path ≠ .error (.failed cause)) →
      (part host).output = Utf8.bytesOf (opening host ++ a.toldOfProfiler host.run path replies ++
        a.toldOfCompiler host.run path replies) := fun host hread => by
    rw [hpart, a.output_performed_runDeeds hread]
    rfl
  refine ⟨?_, ?_, ?_, houtput one hreadOne, htold ▸ houtput two hreadTwo, fun hprofiler => ?_⟩
  · rw [hpart, hpart, questions_performed_runDeeds, questions_performed_runDeeds,
      a.failure_openingDeeds hreadTwo, a.failure_openingDeeds hreadOne, roomAfter_none,
      roomAfter_none, hfailure]
  · have hprofiler : ∀ host : Host, (performed none (a.profilerDeeds host path replies)).calls =
        if a.profile.grants replies then [a.profiler.callOn path] else [] :=
      fun _ => calls_performed_toolStepDeeds
    rw [hpart, hpart, a.calls_performed_runDeeds hreadTwo, a.calls_performed_runDeeds hreadOne,
      hprofiler, hprofiler, hfailure, hdeeds]
  · simp only [outcome]
    rw [a.answer_run_compiler rfl hreadTwo, a.answer_run_compiler rfl hreadOne]
    simp only [start, hfailure, hdeeds, Tool.outcome_congr hcompiler]
  · have hprofilerTold : a.toldOfProfiler two.run path replies =
        a.toldOfProfiler one.run path replies := Tool.transcript_congr hprofiler _
    refine ⟨a.toldOfProfiler one.run path replies ++ compiler, ?_, ?_⟩
    · rw [houtput one hreadOne, String.append_assoc]
    · rw [houtput two hreadTwo, htold, hprofilerTold, String.append_assoc]

end Advisor

/-- A file with one loop, a profiler that ends badly, and a compiler that says a word. -/
def badProfile : Host where
  read := fun _ => .ok (Utf8.bytesOf "for (int i = 0; i < n; i++)")
  run := fun program _ =>
    if program = "icpx" then .ok ⟨"built", "", some 0⟩ else .ok ⟨"", "no data", none⟩

/-- No file and no profiler, and the same compiler. -/
def compilerOnly : Host where
  read := fun _ => .error .missing
  run := fun program _ =>
    if program = "icpx" then .ok ⟨"built", "", some 0⟩ else .error (.notFound program)

/-- Without the file and the profiler the compiler is asked about, called and ends as with them. -/
theorem tools_independent_compilerOnly :
    let a : Advisor := {}
    let start : Progress := { session := { path := [0x61] }, replies := [.ok "y", .ok "Y\n"] }
    let part (host : Host) := (a.run host).part start
    (∀ cause, badProfile.read [0x61] ≠ .error (.failed cause)) ∧
    (∀ cause, compilerOnly.read [0x61] ≠ .error (.failed cause)) ∧
    (∀ name cause, a.profiler.answer badProfile.run [0x61] ≠ .error (.failed name cause)) ∧
    (∀ name cause, a.profiler.answer compilerOnly.run [0x61] ≠ .error (.failed name cause)) ∧
    a.compiler.answer compilerOnly.run [0x61] = a.compiler.answer badProfile.run [0x61] ∧
    (part compilerOnly).questions = (part badProfile).questions ∧
    (part compilerOnly).calls = (part badProfile).calls ∧
    ((a.run compilerOnly).answer start).map Outcome.compiler =
      ((a.run badProfile).answer start).map Outcome.compiler ∧
    (part compilerOnly).output = Utf8.bytesOf ("File a not found.\n" ++
      "\nOptimization suggestions:\n" ++ "Running Intel VTune Profiler for analysis...\n" ++
      "VTune Profiler not found. Ensure it is installed and set up in your environment.\n" ++
      "Compiling with Intel DPC++ for further optimizations...\nbuilt\n") := by
  have hreadOne : ∀ cause, badProfile.read [0x61] ≠ .error (.failed cause) := nofun
  have hreadTwo : ∀ cause, compilerOnly.read [0x61] ≠ .error (.failed cause) := nofun
  have hprofilerOne : ∀ name cause, Tool.answer (.profiler "vtune") badProfile.run [0x61] ≠
      .error (.failed name cause) := nofun
  have hprofilerTwo : ∀ name cause, Tool.answer (.profiler "vtune") compilerOnly.run [0x61] ≠
      .error (.failed name cause) := nofun
  obtain ⟨hquestions, hcalls, houtcome, -, htwo, -⟩ := Advisor.tools_independent {} [0x61]
    [.ok "y", .ok "Y\n"] badProfile compilerOnly hreadOne hreadTwo hprofilerOne hprofilerTwo rfl
  exact ⟨hreadOne, hreadTwo, hprofilerOne, hprofilerTwo, rfl, hquestions, hcalls, houtcome,
    htwo.trans (congrArg Utf8.bytesOf (by decide +kernel))⟩

end LoopAdvice
