import LoopAdvice.Proofs.Program.Logging

/-! # The path that tools are given

The source is read by its bytes, but among the arguments of a tool it stands as it is displayed. The
two agree if the bytes are UTF-8, and only then (`Utf8.bytesOf_display_eq_iff`). So no two UTF-8
paths give a tool the same arguments, and any other path gives it those of a path that is not the
source. Main statement: `tools_called_on_source`. -/

namespace LoopAdvice

/-! ### Displayed paths -/

namespace Utf8

theorem isValid_bytesOf (s : String) : isValid (bytesOf s) = true := isValid_encode s.toList

/-- **Bytes can be told from their display exactly if they are UTF-8.** -/
theorem bytesOf_display_eq_iff {b : Bytes} : bytesOf (display b) = b ↔ isValid b = true := by
  rw [bytesOf, display, String.toList_ofList, encode_decodeLossy_eq_iff]

theorem display_bytesOf (s : String) : display (bytesOf s) = s :=
  bytesOf_injective (bytesOf_display_eq_iff.mpr (isValid_bytesOf s))

end Utf8

/-! ### The arguments of a tool -/

namespace Tool

/-- Where a tool has its source among its arguments. -/
def sourceIndex : Tool → ℕ
  | .profiler _ => 2
  | .compiler _ _ => 1

/-- The source stands in its place as it is displayed. -/
theorem args_sourceIndex (tool : Tool) (path : Bytes) :
    (tool.args path)[tool.sourceIndex]? = some (Utf8.display path) := by
  cases tool <;> rfl

/-- Arguments that are the same show the same source, whichever tools they are for. -/
theorem display_eq_of_args_eq {tool other : Tool} {path path' : Bytes}
    (h : tool.args path = other.args path') : Utf8.display path = Utf8.display path' := by
  cases tool <;> cases other <;> simp_all [args]

/-- A tool has the arguments that it would have for the path its source is displayed as. -/
theorem args_bytesOf_display (tool : Tool) (path : Bytes) :
    tool.args (Utf8.bytesOf (Utf8.display path)) = tool.args path := by
  cases tool <;> simp [args, Utf8.display_bytesOf]

end Tool

/-! ### The calls of a run -/

namespace Advisor

/-- Whatever an advisor is used for, it calls its tools on the source of the session. -/
theorem mem_calls_leavesAll {a : Advisor} {moves : List (Host × Move)} {p : Progress}
    {call : String × List String} (h : call ∈ (a.leavesAll moves p).trace.calls) :
    call ∈ p.trace.calls ∨ ∃ role, call = (a.tool role).callOn p.session.path := by
  have hfollow : Follow a p.ledger (a.visits moves p) (a.leavesAll moves p).ledger :=
    a.follow_visits moves p
  rw [show (a.leavesAll moves p).trace.calls = _ from hfollow.calls] at h
  rcases List.mem_append.mp h with h | h
  · exact .inl h
  · obtain ⟨v, hv, hcall⟩ := List.mem_flatMap.mp h
    have hpart : (v.part a).calls = _ := calls_part_toolStep ..
    rw [hpart, hfollow.path v hv] at hcall
    split_ifs at hcall
    · exact .inr ⟨v.role, List.mem_singleton.mp hcall⟩
    · cases hcall

end Advisor

/-- The program calls what a whole run of its advisor calls. -/
theorem calls_runProgram {args : List Bytes} {o : CommandLine.Options}
    (h : CommandLine.parse args = .ok o) (host : Host) (stdin : Bytes) (setting : Option String) :
    (runProgram args host stdin setting).calls =
      (o.advisor.leavesAll [(host, .run)] (o.start stdin)).trace.calls := by
  have hdoes := o.advisor.does_run host (o.start stdin)
  have htrace : (o.advisor.leavesAll [(host, .run)] (o.start stdin)).trace =
      performed none (o.advisor.runDeeds host { path := o.source } (repliesOfInput stdin)) :=
    hdoes.trace_leaves.trans hdoes.part_eq
  rw [runProgram_eq_ofDeeds h, htrace]
  rfl

theorem mem_calls_runProgram {args : List Bytes} {o : CommandLine.Options}
    (h : CommandLine.parse args = .ok o) {host : Host} {stdin : Bytes} {setting : Option String}
    {call : String × List String} (hcall : call ∈ (runProgram args host stdin setting).calls) :
    ∃ role, call = (o.advisor.tool role).callOn o.source := by
  rw [calls_runProgram h] at hcall
  exact (Advisor.mem_calls_leavesAll hcall).resolve_left List.not_mem_nil

/-- **Tools are given the file that was analysed if its path is UTF-8, and another one if not.** The
only file that a run reads is its source. Every call has in the place of the source an argument whose
bytes are the path of the source exactly if that is UTF-8. Runs on two such paths have no arguments in
common. A path that is not UTF-8 has the arguments of the path it is displayed as. -/
theorem tools_called_on_source {args args' : List Bytes} {o o' : CommandLine.Options}
    (hparse : CommandLine.parse args = .ok o) (hparse' : CommandLine.parse args' = .ok o')
    (host host' : Host) (stdin stdin' : Bytes) (setting setting' : Option String) :
    let t := runProgram args host stdin setting
    let t' := runProgram args' host' stdin' setting'
    (∀ other : Host, other.read o.source = host.read o.source → other.run = host.run →
      runProgram args other stdin setting = t) ∧
    (∀ call ∈ t.calls, ∃ role arg, call.1 = (o.advisor.tool role).program ∧
      call.2[(o.advisor.tool role).sourceIndex]? = some arg ∧
      (Utf8.bytesOf arg = o.source ↔ Utf8.isValid o.source = true)) ∧
    (Utf8.isValid o.source = true → Utf8.isValid o'.source = true →
      ∀ call ∈ t.calls, ∀ call' ∈ t'.calls, call.2 = call'.2 → o.source = o'.source) ∧
    (Utf8.isValid o.source = false → ∃ shown ≠ o.source, Utf8.isValid shown = true ∧
      ∀ role, (o.advisor.tool role).args shown = (o.advisor.tool role).args o.source) := by
  intro t t'
  refine ⟨fun other hread hrun => ?_, fun call hcall => ?_,
    fun hvalid hvalid' call hcall call' hcall' hsame => ?_, fun hbroken => ?_⟩
  · have hdeeds : SamePerformance none
        (o.advisor.runDeeds host { path := o.source } (repliesOfInput stdin))
        (o.advisor.runDeeds other { path := o.source } (repliesOfInput stdin)) :=
      o.advisor.runDeeds_congr_host hread fun call _ => by rw [hrun]
    obtain ⟨hfailure, hperformed⟩ := hdeeds
    rw [show t = _ from runProgram_eq_ofDeeds hparse host stdin setting,
      runProgram_eq_ofDeeds hparse, Transcript.ofDeeds, Transcript.ofDeeds, hfailure, hperformed]
  · obtain ⟨role, rfl⟩ := mem_calls_runProgram hparse hcall
    exact ⟨role, _, rfl, Tool.args_sourceIndex _ _, Utf8.bytesOf_display_eq_iff⟩
  · obtain ⟨role, rfl⟩ := mem_calls_runProgram hparse hcall
    obtain ⟨role', rfl⟩ := mem_calls_runProgram hparse' hcall'
    rw [← Utf8.bytesOf_display_eq_iff.mpr hvalid, ← Utf8.bytesOf_display_eq_iff.mpr hvalid',
      Tool.display_eq_of_args_eq hsame]
  · refine ⟨Utf8.bytesOf (Utf8.display o.source), fun hshown => ?_, Utf8.isValid_bytesOf _,
      fun role => Tool.args_bytesOf_display _ _⟩
    rw [Utf8.bytesOf_display_eq_iff.mp hshown] at hbroken
    cases hbroken

/-- Two file names that differ in an accent are two source arguments. -/
theorem tools_called_on_source_accented :
    let command (name : String) :=
      [Utf8.bytesOf name, Utf8.bytesOf "--compile", Utf8.bytesOf "--no-prompt"]
    let o (name : String) : CommandLine.Options :=
      { source := Utf8.bytesOf name, compile := true, noPrompt := true }
    let calls (name : String) := (runProgram (command name) willing [] none).calls
    CommandLine.parse (command "é.cpp") = .ok (o "é.cpp") ∧
    CommandLine.parse (command "e.cpp") = .ok (o "e.cpp") ∧
    calls "é.cpp" = [("icpx", ["-fsycl", "é.cpp", "-o", "optimized_output.exe"])] ∧
    (∃ role arg, "icpx" = ((o "é.cpp").advisor.tool role).program ∧
      ["-fsycl", "é.cpp", "-o", "optimized_output.exe"][
        ((o "é.cpp").advisor.tool role).sourceIndex]? = some arg ∧
      Utf8.bytesOf arg = Utf8.bytesOf "é.cpp") ∧
    ∀ call ∈ calls "é.cpp", ∀ call' ∈ calls "e.cpp", call.2 ≠ call'.2 := by
  intro command o calls
  have hparse : CommandLine.parse (command "é.cpp") = .ok (o "é.cpp") := by decide +kernel
  have hparse' : CommandLine.parse (command "e.cpp") = .ok (o "e.cpp") := by decide +kernel
  have hcalls : calls "é.cpp" =
      [("icpx", ["-fsycl", "é.cpp", "-o", "optimized_output.exe"])] := by decide +kernel
  obtain ⟨-, hgiven, hdiffer, -⟩ :=
    tools_called_on_source hparse hparse' willing willing [] [] none none
  obtain ⟨role, arg, hprogram, hplace, harg⟩ := hgiven _ (hcalls ▸ List.mem_singleton_self _)
  refine ⟨hparse, hparse', hcalls, ⟨role, arg, hprogram, hplace,
    harg.mpr (Utf8.isValid_bytesOf "é.cpp")⟩, fun call hcall call' hcall' hsame => ?_⟩
  have hsource : Utf8.bytesOf "é.cpp" = Utf8.bytesOf "e.cpp" := hdiffer (Utf8.isValid_bytesOf _)
    (Utf8.isValid_bytesOf _) call hcall call' hcall' hsame
  exact absurd (bytesOf_injective hsource) (by decide)

/-- One file, and programs that all run. -/
def oneFile (name : String) : Host where
  read := fun path => if path = Utf8.bytesOf name then .ok [] else .error .missing
  run := fun _ _ => .ok ⟨"built", "", some 0⟩

/-- A source whose path is not UTF-8 is not found, and the compiler is given a file that was not
analysed: the one that the path is displayed as. -/
theorem tools_called_on_another_source :
    let source : Bytes := [0x61, 0xFF]
    let shown := Utf8.bytesOf "a\uFFFD"
    let host := oneFile "a\uFFFD"
    let calls (path : Bytes) :=
      (runProgram [path, Utf8.bytesOf "--compile", Utf8.bytesOf "--no-prompt"] host [] none).calls
    calls source = [("icpx", ["-fsycl", "a\uFFFD", "-o", "optimized_output.exe"])] ∧
      shown ≠ source ∧ (host.read source).isOk = false ∧ (host.read shown).isOk = true ∧
      calls shown = calls source := by
  decide +kernel

end LoopAdvice
