import LoopAdvice.Proofs.Workflow.Deeds

/-! # Faults that end a run

A *fatal* fault is one that nothing recovers from. A missing source and a missing program are faults
of the other kind: they are announced by the step they occur in, and announcing them is a write like
any other. Main statement: whatever a step of the advisor fails with is fatal, and a whole run fails
exactly if one of its deeds is the first to fail; it fails with the fault of that deed, and neither
asks, calls nor writes anything after it (`fails_at_first_fault`). -/

namespace LoopAdvice

/-- A fault that nothing recovers from: something was attempted, and it failed for a cause. -/
def Fault.Fatal (f : Fault) : Prop :=
  (∃ attempt cause, f = .failed attempt cause) ∧ f.isRecoverable = false

/-- Whatever a step fails with, from wherever it starts, is fatal. -/
def Step.FailsFatally {α : Type} (x : Step α) : Prop :=
  ∀ p f q, x.run p = .error f q → f.Fatal

theorem Deed.fatal_of_fault? {room : Option Room} {d : Deed} {f : Fault}
    (h : d.fault? room = some f) : f.Fatal := by
  obtain ⟨attempt, cause, rfl⟩ := Deed.exists_of_fault? h
  exact ⟨⟨attempt, cause, rfl⟩, rfl⟩

/-- A step that does nothing but deeds fails fatally. -/
theorem Does.failsFatally {α : Type} {x : Step α} {ds : Progress → List Deed} {v : Progress → α}
    (h : ∀ p, Does x p (ds p) (v p)) : x.FailsFatally := by
  intro p f q hx
  rw [h p, perform_eq_error_iff] at hx
  obtain ⟨before, d, hfirst, -⟩ := hx
  exact Deed.fatal_of_fault? hfirst.fault

/-- A step that does nothing but deeds fails exactly if one of them is the first to fail. What was
done before is seen in full, and of the deed itself the part that was done. -/
theorem Does.error_iff {α : Type} {x : Step α} {p : Progress} {ds : List Deed} {v : α}
    (h : Does x p ds v) (f : Fault) (t : Trace) :
    (∃ q, x.run p = .error f q ∧ q.trace = t) ↔
      ∃ before d, FirstFault p.room ds before d f ∧
        t = p.trace ++ before.flatMap (Deed.actions none) ++
          d.actions (roomAfter p.room before) := by
  have htrace : ∀ {before d}, FirstFault p.room ds before d f →
      ((p.afterAll before).after d).trace =
        p.trace ++ before.flatMap (Deed.actions none) ++ d.actions (roomAfter p.room before) := by
    intro before d hfirst
    rw [Progress.trace_after, trace_afterAll hfirst.passed, room_afterAll]
  rw [h]
  constructor
  · rintro ⟨q, hq, rfl⟩
    obtain ⟨before, d, hfirst, rfl⟩ := perform_eq_error_iff.mp hq
    exact ⟨before, d, hfirst, htrace hfirst⟩
  · rintro ⟨before, d, hfirst, rfl⟩
    exact ⟨_, perform_eq_error_iff.mpr ⟨before, d, hfirst, rfl⟩, htrace hfirst⟩

/-- **Only fatal faults end a step, and the first of them ends the run**: the deeds before it are
done, the one it occurs in is done as far as it goes, and no deed follows. -/
theorem Advisor.fails_at_first_fault (a : Advisor) (host : Host) :
    (a.analyze host).FailsFatally ∧ (∀ loaded, (a.report loaded).FailsFatally) ∧
      (a.runProfiler host).FailsFatally ∧ (a.runCompiler host).FailsFatally ∧
      (a.run host).FailsFatally ∧
    ∀ p f t, (∃ q, (a.run host).run p = .error f q ∧ q.trace = t) ↔
      ∃ before d, FirstFault p.room (a.runDeeds host p.session p.replies) before d f ∧
        t = p.trace ++ before.flatMap (Deed.actions none) ++
          d.actions (roomAfter p.room before) :=
  ⟨Does.failsFatally (a.does_analyze host),
    fun loaded => Does.failsFatally (a.does_report loaded),
    Does.failsFatally (does_toolStep host a.profile profileQuestion a.profiler),
    Does.failsFatally (does_toolStep host a.compile compileQuestion a.compiler),
    Does.failsFatally (a.does_run host),
    fun p => (a.does_run host p).error_iff⟩

/-- A missing source does not end a run, but announcing it can, with whatever the writer says. -/
example (cause : Cause) :
    (Advisor.run {} ⟨fun _ => .error .missing, fun program _ => .error (.notFound program)⟩).run
        { session := ⟨[0x61], []⟩, room := some ⟨7, cause⟩ } =
      .error (.failed writing cause)
        { session := ⟨[0x61], []⟩, room := some ⟨0, cause⟩
          trace := [.wrote (Utf8.bytesOf "File a ")] } := by
  cbv

end LoopAdvice
