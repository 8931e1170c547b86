import LoopAdvice.Proofs.Run.Course

/-! # Full writers

The deeds of a step are the same whatever room the writer has, so a step can be compared with itself:
once with a writer that takes a number of bytes and once with one that has no end. As long as the
bytes fit the two are the same (`Does.of_fits`). If they do not, the step fails with the writer's own
cause, and what it did is what it does otherwise, broken off inside the first write that does not fit
(`Does.of_overflow`). -/

namespace LoopAdvice

/-! ### Traces that are broken off -/

/-- `cut` is `full`, broken off inside a write, after `n` bytes of output. -/
def Trace.BreaksOff (n : ℕ) (full cut : Trace) : Prop :=
  ∃ (before : Trace) (bytes : Bytes) (after : Trace), full = before ++ .wrote bytes :: after ∧
    cut = before ++ [.wrote (bytes.take (n - before.output.length))] ∧
    before.output.length ≤ n ∧ n < before.output.length + bytes.length

namespace Trace.BreaksOff

variable {n : ℕ} {full cut : Trace}

/-- What comes before does not matter. -/
theorem append_left (h : BreaksOff n full cut) (t : Trace) :
    BreaksOff (t.output.length + n) (t ++ full) (t ++ cut) := by
  obtain ⟨before, bytes, after, rfl, rfl, hle, hlt⟩ := h
  refine ⟨t ++ before, bytes, after, by simp, ?_, ?_, ?_⟩
  · rw [output_append, List.length_append, Nat.add_sub_add_left, List.append_assoc]
  · rw [output_append, List.length_append]
    omega
  · rw [output_append, List.length_append]
    omega

theorem output_eq (h : BreaksOff n full cut) : cut.output = full.output.take n := by
  obtain ⟨before, bytes, after, rfl, rfl, hle, hlt⟩ := h
  have hwrote : ∀ (b : Bytes) (t : Trace), Trace.output (.wrote b :: t) = b ++ t.output :=
    fun _ _ => rfl
  rw [output_append, output_append, hwrote, hwrote, List.take_append, List.take_of_length_le hle,
    List.take_append_of_le_length (by omega)]
  exact congrArg _ (List.append_nil _)

theorem questions_isPrefixOf (h : BreaksOff n full cut) : cut.questions <+: full.questions := by
  obtain ⟨before, bytes, after, rfl, rfl, -, -⟩ := h
  rw [questions_append, questions_append]
  exact (List.prefix_append_right_inj _).mpr (List.nil_prefix)

theorem calls_isPrefixOf (h : BreaksOff n full cut) : cut.calls <+: full.calls := by
  obtain ⟨before, bytes, after, rfl, rfl, -, -⟩ := h
  rw [calls_append, calls_append]
  exact (List.prefix_append_right_inj _).mpr (List.nil_prefix)

theorem events_isPrefixOf (h : BreaksOff n full cut) : cut.events <+: full.events := by
  obtain ⟨before, bytes, after, rfl, rfl, -, -⟩ := h
  rw [events_append, events_append]
  exact (List.prefix_append_right_inj _).mpr (List.nil_prefix)

end Trace.BreaksOff

/-! ### Deeds and the room they need -/

theorem Deed.length_output_actions (d : Deed) : (Trace.output (d.actions none)).length = d.size :=
  congrArg List.length d.output_actions

/-- A deed that fits is as if there were no end to the writer. -/
theorem Deed.of_size_le {d : Deed} {r : Room} (h : d.size ≤ r.left) :
    d.fault? (some r) = d.fault? none ∧ d.actions (some r) = d.actions none := by
  cases d with
  | write attempt text =>
    have hfits : (Utf8.bytesOf text).length ≤ r.left := h
    have hkept : kept (some r) (Utf8.bytesOf text) = Utf8.bytesOf text :=
      List.take_of_length_le hfits
    exact ⟨congrArg (Option.map _) (refusal?_of_le hfits), congrArg (fun b => [Action.wrote b]) hkept⟩
  | read path answer => rcases answer with (- | - | cause) | content <;> exact ⟨rfl, rfl⟩
  | ask question reply => cases reply <;> exact ⟨rfl, rfl⟩
  | call program args answer => rcases answer with (name | ⟨name, cause⟩) | o <;> exact ⟨rfl, rfl⟩
  | note event => exact ⟨rfl, rfl⟩
  | grow more => exact ⟨rfl, rfl⟩

/-- Only a write can be too long, and it fails with the writer's own cause. -/
theorem Deed.of_lt_size {d : Deed} {r : Room} (h : r.left < d.size) :
    ∃ attempt text, d = .write attempt text ∧
      d.fault? (some r) = some (.failed attempt r.cause) ∧
      d.actions (some r) = [.wrote ((Utf8.bytesOf text).take r.left)] ∧
      d.actions none = [.wrote (Utf8.bytesOf text)] ∧ r.left < (Utf8.bytesOf text).length := by
  cases d with
  | write attempt text =>
    have hlong : r.left < (Utf8.bytesOf text).length := h
    exact ⟨attempt, text, rfl, congrArg (Option.map _) (refusal?_of_lt hlong), rfl, rfl, hlong⟩
  | _ => exact absurd h (Nat.not_lt_zero r.left)

/-! ### Performing deeds with and without an end to the writer -/

/-- Deeds that fit are as if there were no end to the writer. -/
theorem performed_of_fits {ds : List Deed} {r : Room}
    (h : (performed none ds).output.length ≤ r.left) :
    failure (some r) ds = failure none ds ∧ performed (some r) ds = performed none ds := by
  induction ds generalizing r with
  | nil => exact ⟨rfl, rfl⟩
  | cons d ds ih =>
    rw [performed_cons, Trace.output_append, List.length_append, d.length_output_actions] at h
    obtain ⟨hfault, hactions⟩ := Deed.of_size_le (d := d) (r := r) (by omega)
    rw [performed_cons, performed_cons, failure, failure, hfault, hactions]
    cases hf : d.fault? none with
    | some f => exact ⟨rfl, rfl⟩
    | none =>
      rw [if_pos hf] at h
      have hrest : d.size + (performed none ds).output.length ≤ r.left := h
      obtain ⟨hfailure, hperformed⟩ := ih (r := r.less d.size) (by rw [r.left_less]; omega)
      exact ⟨hfailure, congrArg _ hperformed⟩

/-- Deeds that do not fit fail at a write, and are broken off there. -/
theorem performed_of_overflow {ds : List Deed} {r : Room}
    (h : r.left < (performed none ds).output.length) :
    ∃ attempt text, .write attempt text ∈ ds ∧
      failure (some r) ds = some (.failed attempt r.cause) ∧
      Trace.BreaksOff r.left (performed none ds) (performed (some r) ds) := by
  induction ds generalizing r with
  | nil => exact absurd h (Nat.not_lt_zero r.left)
  | cons d ds ih =>
    rw [performed_cons, Trace.output_append, List.length_append, d.length_output_actions] at h
    by_cases hsize : d.size ≤ r.left
    · obtain ⟨hfault, hactions⟩ := Deed.of_size_le hsize
      cases hf : d.fault? none with
      | some f =>
        rw [hf, if_neg (by simp)] at h
        exact absurd h (by simp [Trace.output]; omega)
      | none =>
        rw [if_pos hf] at h
        have hrest : r.left < d.size + (performed none ds).output.length := h
        obtain ⟨attempt, text, hmem, hfailure, hbreaks⟩ :=
          ih (r := r.less d.size) (by rw [r.left_less]; omega)
        refine ⟨attempt, text, List.mem_cons_of_mem _ hmem, ?_, ?_⟩
        · rw [failure, hfault, hf]
          exact hfailure
        · have hbreaks := hbreaks.append_left (d.actions none)
          rw [d.length_output_actions, r.left_less, Nat.add_sub_cancel' hsize] at hbreaks
          rw [performed_cons, performed_cons, hfault, hactions, if_pos hf, if_pos hf]
          exact hbreaks
    · obtain ⟨attempt, text, rfl, hfault, hactions, hfull, hlong⟩ :=
        Deed.of_lt_size (d := d) (r := r) (Nat.not_le.mp hsize)
      refine ⟨attempt, text, List.mem_cons_self, by rw [failure, hfault], ?_⟩
      rw [performed_cons, performed_cons, hactions, hfull, hfault,
        if_neg (Option.some_ne_none (Fault.failed attempt r.cause))]
      exact ⟨[], Utf8.bytesOf text, _, rfl, rfl, Nat.zero_le r.left,
        by simpa [Trace.output] using hlong⟩

/-! ### Steps -/

namespace Does

variable {α : Type} {x : Step α} {p : Progress} {ds : List Deed} {v : α} {r : Room}
  (h : ∀ room, Does x { p with room } ds v)
include h

/-- **A step whose output fits is as if there were no end to the writer.** -/
theorem of_fits (hn : (x.part { p with room := none }).output.length ≤ r.left) :
    x.answer { p with room := some r } = x.answer { p with room := none } ∧
      x.part { p with room := some r } = x.part { p with room := none } := by
  rw [(h none).part_eq] at hn
  obtain ⟨hfailure, hperformed⟩ := performed_of_fits hn
  rw [(h _).answer_eq, (h _).answer_eq, (h _).part_eq, (h _).part_eq]
  exact ⟨by rw [hfailure], hperformed⟩

/-- **A step whose output does not fit is broken off where the writer is full.** -/
theorem of_overflow (hn : r.left < (x.part { p with room := none }).output.length) :
    ∃ attempt text, .write attempt text ∈ ds ∧
      x.answer { p with room := some r } = .error (.failed attempt r.cause) ∧
      Trace.BreaksOff r.left (x.part { p with room := none }) (x.part { p with room := some r }) := by
  rw [(h none).part_eq] at hn
  obtain ⟨attempt, text, hmem, hfailure, hbreaks⟩ := performed_of_overflow hn
  rw [(h _).answer_eq, (h _).part_eq, (h _).part_eq]
  exact ⟨attempt, text, hmem, by rw [hfailure], hbreaks⟩

/-- The output that is kept is the beginning of the whole. -/
theorem output_part_within (r : Room) : (x.part { p with room := some r }).output =
    (x.part { p with room := none }).output.take r.left := by
  by_cases hn : (x.part { p with room := none }).output.length ≤ r.left
  · rw [(of_fits h hn).2, List.take_of_length_le hn]
  · obtain ⟨-, -, -, -, hbreaks⟩ := of_overflow h (Nat.not_le.mp hn)
    exact hbreaks.output_eq

end Does

end LoopAdvice
