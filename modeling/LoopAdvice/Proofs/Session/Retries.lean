import LoopAdvice.Proofs.Report.RoundTrip
import LoopAdvice.Proofs.Workflow.Analysis
import LoopAdvice.Proofs.Workflow.Stages

/-! # Sessions of an advisor that is used again

An advisor keeps its session from one move to the next, also when a move fails, and its files may have
changed by then. So an analysis can begin in a session that others have left unfinished. Whatever the
moves are, the session grows by what each of their stages adds, in order; only analyses add, and what
an analysis adds hangs on where it ends; a report can be read back as what the session holds when it
is made (`Report.Shows`). Main statement: `Advisor.session_after_moves`. -/

namespace LoopAdvice

namespace Stage

variable {a : Advisor} {s : Stage}

theorem added_analyze (h : s.act = .analyze) :
    ((a.analyze s.host).answer s.start, s.added a) =
      a.analysis s.start.room s.start.session.path (s.host.read s.start.session.path) := by
  obtain ⟨host, act, p⟩ := s
  obtain rfl : act = .analyze := h
  rw [added_eq, deeds, a.growth_course_analyzeDeeds, a.answer_analyze]

/-- Only an analysis adds suggestions. -/
theorem added_of_ne_analyze (h : s.act ≠ .analyze) : s.added a = [] := by
  obtain ⟨host, act, p⟩ := s
  rw [added_eq, List.flatMap_eq_nil_iff]
  intro d hd
  have hmem := mem_of_mem_course hd
  cases act with
  | analyze => exact absurd rfl h
  | report loaded =>
    rw [List.mem_singleton.mp hmem]
    rfl
  | tool role => exact growth_toolStepDeeds d hmem
  | finish loaded profiler compiler =>
    rw [List.mem_singleton.mp hmem]
    rfl

end Stage

namespace Advisor

/-- What a report shows of the session it is made in, and whether it fits. -/
theorem part_report (a : Advisor) (loaded : Bool) (p : Progress) :
    let shown := Utf8.bytesOf ((Report.ofSession p.session loaded).render a.format)
    (a.report loaded).part p = [.wrote (kept p.room shown)] ∧
      (a.report loaded).answer p =
        match refusal? p.room shown.length with
        | none => .ok ()
        | some cause => .error (.failed "failed to write to output" cause) := by
  intro shown
  have hdoes := a.does_report loaded p
  refine ⟨?_, ?_⟩
  · rw [hdoes.part_eq, performed_cons]
    split_ifs <;> exact List.append_nil _
  · rw [hdoes.answer_eq, failure_singleton, reportDeed, Deed.fault?]
    cases refusal? p.room shown.length <;> rfl

/-- **The session grows by what the analyses add, however they end**, and by nothing else; no move
takes anything away. -/
theorem session_after_moves (a : Advisor) (moves : List (Host × Move)) (p : Progress) :
    let stages := a.stages moves p
    (a.leavesAll moves p).session = p.session.add (stages.flatMap (Stage.added a)) ∧
    (∀ before s after, stages = before ++ s :: after →
      s.start.session = p.session.add (before.flatMap (Stage.added a)) ∧
      (s.leaves a).session = s.start.session.add (s.added a)) ∧
    ∀ s ∈ stages,
      match s.act with
      | .analyze => ((a.analyze s.host).answer s.start, s.added a) =
          a.analysis s.start.room s.start.session.path (s.host.read s.start.session.path)
      | .report loaded =>
        let shown := Report.render ⟨Utf8.display s.start.session.path, loaded,
          s.start.session.suggestions⟩ a.format
        s.added a = [] ∧ Report.Shows shown s.start.session loaded a.format ∧
          s.part a = [.wrote (kept s.start.room (Utf8.bytesOf shown))] ∧
          (a.report loaded).answer s.start =
            match refusal? s.start.room (Utf8.bytesOf shown).length with
            | none => .ok ()
            | some cause => .error (.failed "failed to write to output" cause)
      | .tool _ => s.added a = []
      | .finish _ _ _ => s.added a = [] := by
  intro stages
  have hchain : Chain a p stages (a.leavesAll moves p) := a.chain_stages moves p
  refine ⟨hchain.session_eq, fun before s after hcut => ?_, fun s hs => ?_⟩
  · rw [hcut] at hchain
    exact ⟨hchain.cut.1.session_eq, s.session_leaves a⟩
  · obtain ⟨host, act, q⟩ := s
    cases act with
    | analyze => exact Stage.added_analyze rfl
    | report loaded =>
      exact ⟨Stage.added_of_ne_analyze (by simp), Report.shows_render q.session loaded a.format,
        a.part_report loaded q⟩
    | tool role => exact Stage.added_of_ne_analyze (by simp)
    | finish loaded profiler compiler => exact Stage.added_of_ne_analyze (by simp)

/-- A hint stays that was found before the writer was full, and no later analysis gets that far. -/
example :
    let host : Host := ⟨fun _ => .ok (Utf8.bytesOf "for (int i; i < n;)"),
      fun program _ => .error (.notFound program)⟩
    (({} : Advisor).leavesAll [(host, .analyze), (host, .analyze)]
      { session := ⟨[0x61], []⟩, room := some ⟨20, .invalidText⟩ }).session.suggestions =
      [.parallelize] := by
  decide +kernel

end Advisor

end LoopAdvice
