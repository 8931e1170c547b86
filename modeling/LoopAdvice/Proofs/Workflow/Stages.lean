import LoopAdvice.Proofs.Workflow.Visits

/-! # Stages

Every move of an advisor goes through *stages*: an analysis, a report, the step of a tool, and, at the
end of a whole run, the record that it is done. A stage begins where the last one left the run, and a
stage that fails is the last of its move. So moves are a chain of stages (`Advisor.chain_stages`), and
whatever they add to the trace or to the session is what their stages add to it, in order
(`Chain.trace_eq`, `Chain.session_eq`). -/

namespace LoopAdvice

/-- What is done in a stage. -/
inductive Act
  | analyze
  | report (loaded : Bool)
  | tool (role : Role)
  /-- The record that a whole run came to its end. -/
  | finish (loaded : Bool) (profiler compiler : ToolOutcome)
  deriving DecidableEq, Repr

/-- An act, begun where a run stands. -/
structure Stage where
  host : Host
  act : Act
  start : Progress

namespace Stage

/-- Where a stage leaves the run, be it done or failed. -/
def leaves (a : Advisor) (s : Stage) : Progress :=
  match s.act with
  | .analyze => (a.analyze s.host).leaves s.start
  | .report loaded => (a.report loaded).leaves s.start
  | .tool role => (a.roleStep s.host role).leaves s.start
  | .finish loaded profiler compiler =>
    (Step.record [.sessionDone s.start.session.path loaded s.start.session.size profiler
      compiler]).leaves s.start

/-- What a stage adds to the trace. -/
def part (a : Advisor) (s : Stage) : Trace := (s.leaves a).trace.drop s.start.trace.length

/-- The suggestions that a stage adds to the session. -/
def added (a : Advisor) (s : Stage) : List Suggestion :=
  (s.leaves a).session.suggestions.drop s.start.session.suggestions.length

def deeds (a : Advisor) (s : Stage) : List Deed :=
  match s.act with
  | .analyze => a.analyzeDeeds s.host s.start.session
  | .report loaded => [a.reportDeed s.start.session loaded]
  | .tool role =>
    toolStepDeeds s.host (a.decision role) role.question (a.tool role) s.start.session.path
      s.start.replies
  | .finish loaded profiler compiler =>
    [.note (.sessionDone s.start.session.path loaded s.start.session.size profiler compiler)]

section Deeds
variable (a : Advisor) (s : Stage)

theorem leaves_eq : s.leaves a = s.start.afterAll (course s.start.room (s.deeds a)) := by
  obtain ⟨host, act, p⟩ := s
  cases act with
  | analyze => exact (a.does_analyze host p).leaves_eq
  | report loaded => exact (a.does_report loaded p).leaves_eq
  | tool role => exact (Advisor.does_toolStep host _ _ _ p).leaves_eq
  | finish loaded profiler compiler => exact (Does.record [_] p).leaves_eq

theorem trace_leaves_eq_performed :
    (s.leaves a).trace = s.start.trace ++ performed s.start.room (s.deeds a) := by
  rw [s.leaves_eq, trace_afterAll_eq_seen, performed]

theorem part_eq : s.part a = performed s.start.room (s.deeds a) := by
  rw [part, s.trace_leaves_eq_performed, List.drop_left]

theorem trace_leaves : (s.leaves a).trace = s.start.trace ++ s.part a := by
  rw [s.part_eq, s.trace_leaves_eq_performed]

theorem session_leaves_eq_growth : (s.leaves a).session =
    s.start.session.add ((course s.start.room (s.deeds a)).flatMap Deed.growth) := by
  rw [s.leaves_eq, s.start.session_afterAll]

theorem added_eq : s.added a = (course s.start.room (s.deeds a)).flatMap Deed.growth := by
  rw [added, s.session_leaves_eq_growth, Session.suggestions_add, List.drop_left]

/-- **No stage takes a suggestion away.** -/
theorem session_leaves : (s.leaves a).session = s.start.session.add (s.added a) := by
  rw [s.added_eq, s.session_leaves_eq_growth]

end Deeds

end Stage

/-! ### Chains of stages -/

/-- Stages that lead from one point of a run to another, each begun where the last one ended. -/
def Chain (a : Advisor) : Progress → List Stage → Progress → Prop
  | p, [], q => q = p
  | p, s :: ss, q => s.start = p ∧ Chain a (s.leaves a) ss q

namespace Chain

variable {a : Advisor} {p q r : Progress} {ss ts : List Stage}

theorem append (hss : Chain a p ss q) (hts : Chain a q ts r) : Chain a p (ss ++ ts) r := by
  induction ss generalizing p with
  | nil =>
    obtain rfl := hss
    exact hts
  | cons s ss ih => exact ⟨hss.1, ih hss.2⟩

/-- A chain can be cut before any of its stages. -/
theorem cut {s : Stage} (h : Chain a p (ss ++ s :: ts) q) :
    Chain a p ss s.start ∧ Chain a (s.leaves a) ts q := by
  induction ss generalizing p with
  | nil =>
    obtain ⟨rfl, h⟩ := h
    exact ⟨rfl, h⟩
  | cons t ss ih =>
    obtain ⟨hstart, h⟩ := h
    exact ⟨⟨hstart, (ih h).1⟩, (ih h).2⟩

theorem session_eq (h : Chain a p ss q) :
    q.session = p.session.add (ss.flatMap (Stage.added a)) := by
  induction ss generalizing p with
  | nil =>
    obtain rfl := h
    simp [Session.add]
  | cons s ss ih =>
    obtain ⟨rfl, h⟩ := h
    rw [ih h, s.session_leaves, List.flatMap_cons]
    simp [Session.add]

end Chain

/-! ### The stages of a move -/

/-- The stages of a move. Of a whole run those follow that it comes to. -/
def Move.stages (a : Advisor) (host : Host) (p : Progress) : Move → List Stage
  | .analyze => [⟨host, .analyze, p⟩]
  | .report loaded => [⟨host, .report loaded, p⟩]
  | .profile => [⟨host, .tool .profiler, p⟩]
  | .compile => [⟨host, .tool .compiler, p⟩]
  | .run =>
    ⟨host, .analyze, p⟩ :: match (a.analyze host).run p with
      | .error _ _ => []
      | .ok loaded q => ⟨host, .report loaded, q⟩ :: match (a.report loaded).run q with
        | .error _ _ => []
        | .ok _ r => ⟨host, .tool .profiler, r⟩ :: match (a.runProfiler host).run r with
          | .error _ _ => []
          | .ok profiler s => ⟨host, .tool .compiler, s⟩ :: match (a.runCompiler host).run s with
            | .error _ _ => []
            | .ok compiler t => [⟨host, .finish loaded profiler compiler, t⟩]

/-- The stages of moves, in order. -/
def Advisor.stages (a : Advisor) : List (Host × Move) → Progress → List Stage
  | [], _ => []
  | (host, move) :: moves, p => move.stages a host p ++ a.stages moves (move.leaves a host p)

theorem Move.chain_stages (a : Advisor) (host : Host) (p : Progress) (move : Move) :
    Chain a p (move.stages a host p) (move.leaves a host p) := by
  cases move with
  | analyze => exact ⟨rfl, rfl⟩
  | report loaded => exact ⟨rfl, rfl⟩
  | profile => exact ⟨rfl, rfl⟩
  | compile => exact ⟨rfl, rfl⟩
  | run =>
    unfold stages leaves Advisor.run
    refine ⟨rfl, ?_⟩
    -- a step that fails leaves the run where its stage does, and no stage follows
    cases hx : (a.analyze host).run p with
    | error f q => exact (Step.leaves_bind_of_error hx).trans (Step.leaves_of_error hx).symm
    | ok loaded q =>
      rw [Step.leaves_bind_of_ok hx]
      refine ⟨(Step.leaves_of_ok hx).symm, ?_⟩
      cases hy : (a.report loaded).run q with
      | error f r => exact (Step.leaves_bind_of_error hy).trans (Step.leaves_of_error hy).symm
      | ok u r =>
        rw [Step.leaves_bind_of_ok hy]
        refine ⟨(Step.leaves_of_ok hy).symm, ?_⟩
        cases hz : (a.runProfiler host).run r with
        | error f s => exact (Step.leaves_bind_of_error hz).trans (Step.leaves_of_error hz).symm
        | ok profiler s =>
          rw [Step.leaves_bind_of_ok hz]
          refine ⟨(Step.leaves_of_ok hz).symm, ?_⟩
          cases hw : (a.runCompiler host).run s with
          | error f t => exact (Step.leaves_bind_of_error hw).trans (Step.leaves_of_error hw).symm
          | ok compiler t =>
            rw [Step.leaves_bind_of_ok hw]
            exact ⟨(Step.leaves_of_ok hw).symm, rfl⟩

/-- **Moves are a chain of stages.** -/
theorem Advisor.chain_stages (a : Advisor) (moves : List (Host × Move)) (p : Progress) :
    Chain a p (a.stages moves p) (a.leavesAll moves p) := by
  induction moves generalizing p with
  | nil => exact rfl
  | cons hostMove moves ih =>
    obtain ⟨host, move⟩ := hostMove
    exact (move.chain_stages a host p).append (ih _)

end LoopAdvice
