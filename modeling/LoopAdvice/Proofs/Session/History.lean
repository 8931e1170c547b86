import LoopAdvice.Proofs.Workflow.Deeds
import LoopAdvice.Proofs.Run.Course

/-! # The history of a session

A session is scanned, given general advice and reported on, in any order and any number of times. Each
operation appends its own contribution (`session_leaves_step`), so that a session holds the
contributions of its operations one after the other (`session_through`), and no other suggestions than
the three that are ever given (`Session.Reachable.subset`). Main statement: `session_history`. -/

namespace LoopAdvice

/-- What can be done with a session. -/
inductive Operation
  | scan (text : List Char)
  | vectorize
  | memory
  /-- A report to a writer with some room. -/
  | report (format : Format) (loaded : Bool) (room : Option Room)

namespace Operation

/-- Does an operation; a scan answers how many suggestions it added. -/
def step : Operation → Step (Option ℕ)
  | scan text => do pure (some (← Advisor.scan text))
  | vectorize => do
    modify fun p => { p with session := p.session.suggestVectorization }
    pure none
  | memory => do
    modify fun p => { p with session := p.session.suggestMemory }
    pure none
  | report format loaded room => do
    modify fun p => { p with room }
    ({ format } : Advisor).report loaded
    pure none

/-- The suggestions that an operation adds. -/
def contribution : Operation → List Suggestion
  | scan text => List.replicate (Loop.candidates text).length .parallelize
  | vectorize => [.vectorize]
  | memory => [.memory]
  | report _ _ _ => []

theorem contribution_subset (o : Operation) :
    o.contribution ⊆ [.parallelize, .vectorize, .memory] := by
  cases o with
  | scan text =>
    intro s hs
    rw [List.eq_of_mem_replicate hs]
    exact List.mem_cons_self
  | vectorize => simp [contribution]
  | memory => simp [contribution]
  | report format loaded room => exact List.nil_subset _

end Operation

namespace Progress

/-- Where operations leave a run, one after the other; one that fails does not keep the next from being
done. -/
def through (p : Progress) (operations : List Operation) : Progress :=
  operations.foldl (fun p o => o.step.leaves p) p

@[simp] theorem through_nil (p : Progress) : p.through [] = p := rfl

@[simp] theorem through_cons (p : Progress) (o : Operation) (operations : List Operation) :
    p.through (o :: operations) = (o.step.leaves p).through operations := rfl

end Progress

/-- A report leaves the session as it is, whether it fits the writer or not. -/
theorem Advisor.session_leaves_report (a : Advisor) (loaded : Bool) (p : Progress) :
    ((a.report loaded).leaves p).session = p.session := by
  have hquiet : ∀ d ∈ course p.room [a.reportDeed p.session loaded], d.growth = [] := by
    intro d hd
    rw [List.mem_singleton.mp (mem_of_mem_course hd)]
    rfl
  rw [(a.does_report loaded p).leaves_eq, p.session_afterAll, List.flatMap_eq_nil_iff.mpr hquiet]
  simp [Session.add]

/-- **An operation appends its contribution.** -/
theorem Operation.session_leaves_step (o : Operation) (p : Progress) :
    (o.step.leaves p).session = p.session.add o.contribution := by
  cases o with
  | scan text =>
    rw [contribution, ← Advisor.earned_eq_replicate]
    rfl
  | vectorize => rfl
  | memory => rfl
  | report format loaded room =>
    have hleaves : (report format loaded room).step.leaves p =
        (({ format } : Advisor).report loaded).leaves { p with room } := by
      have hdoes := Advisor.does_report { format } loaded { p with room }
      exact (hdoes.seq_pure (none : Option ℕ)).leaves_eq.trans hdoes.leaves_eq.symm
    rw [hleaves, Advisor.session_leaves_report]
    simp [contribution, Session.add]

/-- **Operations append their contributions, one after the other.** -/
theorem Progress.session_through (p : Progress) (operations : List Operation) :
    (p.through operations).session = p.session.add (operations.flatMap Operation.contribution) := by
  induction operations generalizing p with
  | nil => simp [Session.add]
  | cons o operations ih =>
    rw [through_cons, ih, o.session_leaves_step, List.flatMap_cons]
    simp [Session.add]

/-- A session that operations leave of a new one. -/
def Session.Reachable (s : Session) : Prop :=
  ∃ operations, (({ session := { path := s.path } } : Progress).through operations).session = s

theorem Progress.reachable_through (path : Bytes) (operations : List Operation) :
    (({ session := { path } } : Progress).through operations).session.Reachable :=
  ⟨operations, by simp [session_through]⟩

/-- **Only the three suggestions that there are come into a session**, each kind with its text. -/
theorem Session.Reachable.subset {s : Session} (h : s.Reachable) :
    s.suggestions ⊆ [.parallelize, .vectorize, .memory] := by
  obtain ⟨operations, h⟩ := h
  rw [← h, Progress.session_through]
  intro x hx
  obtain ⟨o, -, hx⟩ := List.mem_flatMap.mp hx
  exact o.contribution_subset hx

/-- **A session holds what its operations contributed, in their order, and nothing else.** -/
theorem session_history (path : Bytes) :
    let after (operations : List Operation) :=
      ({ session := { path } } : Progress).through operations
    let session (operations : List Operation) := (after operations).session
    (∀ operations, session operations = ⟨path, operations.flatMap Operation.contribution⟩) ∧
    (∀ before later, (session before).suggestions <+: (session (before ++ later)).suggestions) ∧
    (∀ before text, (Operation.scan text).step.answer (after before) =
      .ok (some (Loop.candidates text).length)) ∧
    (∀ before format loaded room,
      session (before ++ [.report format loaded room]) = session before) ∧
    ∀ operations,
      (session operations).suggestions.map (fun s => (s.kind.word, s.text)) ⊆
        [("parallelize", "Consider parallelizing the loop using DPC++ or OpenMP."),
          ("vectorize", "Try using SIMD vectorization for eligible loops using Intel's " ++
            "Vectorization Advisor."),
          ("memory", "Consider optimizing memory access patterns to improve cache usage.")] ∧
      (session operations).texts = (session operations).suggestions.map Suggestion.text ∧
      (session operations).size = (session operations).suggestions.length ∧
      (session operations).size = (session operations).texts.length ∧
      ((session operations).isEmpty = true ↔ (session operations).size = 0) := by
  intro after session
  have hsession : ∀ operations,
      session operations = ⟨path, operations.flatMap Operation.contribution⟩ :=
    fun operations => Progress.session_through _ operations
  refine ⟨hsession, fun before later => ?_, fun before text => rfl,
    fun before format loaded room => ?_, fun operations => ⟨?_, rfl, rfl, ?_, ?_⟩⟩
  · rw [hsession, hsession, List.flatMap_append]
    exact List.prefix_append _ _
  · rw [hsession, hsession, List.flatMap_append]
    exact congrArg _ (List.append_nil _)
  · exact List.map_subset _ (Progress.reachable_through path operations).subset
  · exact (List.length_map _).symm
  · exact List.isEmpty_iff_length_eq_zero

/-- Nothing is merged: of two scans of one text both count, whatever comes of a report between. -/
example :
    let loop := "for (int i = 0; i < n; i++)".toList
    let full : Room := ⟨0, .system .inputOutput⟩
    (({ session := { path := [0x61] } } : Progress).through
      [.scan loop, .report .text true (some full), .memory, .scan loop]).session.suggestions =
      [.parallelize, .memory, .parallelize] := by
  decide +kernel

end LoopAdvice
