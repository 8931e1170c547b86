import LoopAdvice.Proofs.Workflow.Deeds
import LoopAdvice.Proofs.Run.FullWriter

/-! # Runs with a full writer

A writer that takes a number of bytes keeps the beginning of what a run writes otherwise. If all of it
fits, the run is the same in every other respect; if not, the run fails with the writer's own cause,
whatever it is, under one of two headings, and what it asked, called and recorded until then is the
beginning of what it does otherwise. A report on its own is kept in the same way, in however many
pieces it is written. Main statement: `run_truncated`. -/

namespace LoopAdvice

/-! ### What is said of a write that fails -/

/-- What the fault of a write says. -/
def Deed.heading? : Deed → Option String
  | write attempt _ => some attempt
  | _ => none

/-- Whatever is written is either a tool's or not. -/
def Deed.Headed (d : Deed) : Prop :=
  ∀ attempt ∈ d.heading?, attempt = writing ∨ attempt = toolWriting

theorem Tool.headed_deeds (tool : Tool) (run : Runner) (path : Bytes) :
    ∀ d ∈ tool.deeds run path, d.Headed := by
  unfold deeds callDeeds echoDeeds hintDeeds Deed.Headed
  rcases tool.answer run path with (program | ⟨program, cause⟩) | o
  · simp [Deed.heading?]
  · simp [Deed.heading?]
  · by_cases hs : o.succeeded <;> by_cases he : o.stderr = "" <;> simp [hs, he, Deed.heading?]

theorem headed_toolStepDeeds (host : Host) (decision : Decision) (question : String) (tool : Tool)
    (path : Bytes) (replies : List Reply) :
    ∀ d ∈ toolStepDeeds host decision question tool path replies, d.Headed := by
  intro d hd
  rcases List.mem_append.mp hd with hd | hd
  · cases decision <;> simp [Decision.deeds] at hd
    subst hd
    simp [Deed.Headed, Deed.heading?]
  · split_ifs at hd
    · exact tool.headed_deeds host.run path d hd
    · cases hd

namespace Advisor

theorem headed_analyzeDeeds (a : Advisor) (host : Host) (s : Session) :
    ∀ d ∈ a.analyzeDeeds host s, d.Headed := by
  unfold analyzeDeeds Deed.Headed
  cases host.read s.path with
  | error fault =>
    unfold missingDeed
    cases a.format <;> simp [Deed.heading?]
  | ok content =>
    unfold scanDeeds sayDeed
    cases a.format <;> simp [Deed.heading?, or_imp, forall_and]

theorem headed_runDeeds (a : Advisor) (host : Host) (s : Session) (replies : List Reply) :
    ∀ d ∈ a.runDeeds host s replies, d.Headed := by
  unfold runDeeds
  simp only [List.forall_mem_append]
  exact ⟨a.headed_analyzeDeeds host s, by simp [reportDeed, Deed.Headed, Deed.heading?],
    headed_toolStepDeeds _ _ _ _ _ _, headed_toolStepDeeds _ _ _ _ _ _,
    by simp [Deed.Headed, Deed.heading?]⟩

end Advisor

/-! ### Writing in pieces -/

/-- Writes texts one after the other, up to the first that does not fit. -/
def Step.writeAll (attempt : String) : List String → Step Unit
  | [] => pure ()
  | text :: texts => do
    write attempt text
    writeAll attempt texts

theorem Does.writeAll (attempt : String) (texts : List String) (p : Progress) :
    Does (Step.writeAll attempt texts) p (texts.map (.write attempt)) () := by
  induction texts generalizing p with
  | nil => exact .pure () p
  | cons text texts ih => exact (Does.write attempt text p).seq (ih _)

theorem Deed.fault?_write_none (attempt text : String) :
    (write attempt text).fault? none = none := by
  rw [fault?, refusal?_none, Option.map_none]

/-- Without an end to the writer all that only writes succeeds. -/
theorem failure_map_write (attempt : String) (texts : List String) :
    failure none (texts.map (.write attempt)) = none := by
  induction texts with
  | nil => rfl
  | cons text texts ih =>
    rw [List.map_cons, failure, Deed.fault?_write_none]
    exact ih

theorem performed_map_write (attempt : String) (texts : List String) :
    (performed none (texts.map (.write attempt))).output = Utf8.bytesOf (String.join texts) := by
  induction texts with
  | nil => rfl
  | cons text texts ih =>
    rw [List.map_cons, performed_cons, if_pos (Deed.fault?_write_none ..), Trace.output_append,
      String.join_cons, Utf8.bytesOf_append]
    exact congrArg₂ _ (List.append_nil _) ih

/-- A step that writes a text and does nothing else, whatever the room: the bytes that fit are kept,
and if some do not the writer's cause comes back. -/
def Step.Emits (x : Step Unit) (attempt text : String) (p : Progress) : Prop :=
  ∀ n cause, (x.part { p with room := some ⟨n, cause⟩ }).output = (Utf8.bytesOf text).take n ∧
    x.answer { p with room := some ⟨n, cause⟩ } =
      if (Utf8.bytesOf text).length ≤ n then .ok () else .error (.failed attempt cause)

/-- **It does not matter how a text is cut into pieces.** -/
theorem Does.emits {x : Step Unit} {attempt : String} {texts : List String} {p : Progress}
    (h : ∀ room, Does x { p with room } (texts.map (.write attempt)) ()) :
    x.Emits attempt (String.join texts) p := by
  have hpart : (x.part { p with room := none }).output = Utf8.bytesOf (String.join texts) := by
    rw [(h none).part_eq]
    exact performed_map_write attempt texts
  have hanswer : x.answer { p with room := none } = .ok () := by
    rw [(h none).answer_eq, failure_map_write]
  intro n cause
  refine ⟨hpart ▸ Does.output_part_within h ⟨n, cause⟩, ?_⟩
  split_ifs with hn
  · rw [(Does.of_fits (r := ⟨n, cause⟩) h (hpart ▸ hn)).1, hanswer]
  · obtain ⟨attempt', text, hmem, hfault, -⟩ :=
      Does.of_overflow (r := ⟨n, cause⟩) h (hpart ▸ Nat.not_le.mp hn)
    obtain ⟨_, -, heq⟩ := List.mem_map.mp hmem
    cases heq
    exact hfault

/-! ### Whole runs -/

/-- **A full writer truncates a run and does nothing else.** -/
theorem Advisor.run_truncated (a : Advisor) (host : Host) (path : Bytes) (replies : List Reply)
    (n : ℕ) (cause : Cause) :
    let start (room : Option Room) : Progress := { session := { path }, room, replies }
    let full := (a.run host).part (start none)
    let cut := (a.run host).part (start (some ⟨n, cause⟩))
    cut.output = full.output.take n ∧
    (full.output.length ≤ n →
      (a.run host).answer (start (some ⟨n, cause⟩)) = (a.run host).answer (start none) ∧
        cut.questions = full.questions ∧ cut.calls = full.calls ∧ cut.events = full.events) ∧
    (n < full.output.length →
      (∃ attempt ∈ ["failed to write to output", "failed to write tool output"],
        (a.run host).answer (start (some ⟨n, cause⟩)) = .error (.failed attempt cause)) ∧
        cut.questions <+: full.questions ∧ cut.calls <+: full.calls ∧
          cut.events <+: full.events) ∧
    ∀ (p : Progress) (loaded : Bool),
      (a.report loaded).Emits writing ((Report.ofSession p.session loaded).render a.format) p ∧
      ∀ pieces, String.join pieces = (Report.ofSession p.session loaded).render a.format →
        (Step.writeAll writing pieces).Emits writing
          ((Report.ofSession p.session loaded).render a.format) p := by
  intro start full cut
  have hdoes : ∀ room, Does (a.run host) { start none with room }
      (a.runDeeds host { path } replies) (a.outcome host { path } replies) :=
    fun room => a.does_run host (start room)
  refine ⟨Does.output_part_within hdoes ⟨n, cause⟩, fun hn => ?_, fun hn => ?_,
    fun p loaded => ⟨?_, ?_⟩⟩
  · obtain ⟨hanswer, hpart⟩ := Does.of_fits (r := ⟨n, cause⟩) hdoes hn
    exact ⟨hanswer, congrArg Trace.questions hpart, congrArg Trace.calls hpart,
      congrArg Trace.events hpart⟩
  · obtain ⟨attempt, text, hmem, hanswer, hbreaks⟩ :=
      Does.of_overflow (r := ⟨n, cause⟩) hdoes hn
    have hheading : attempt = writing ∨ attempt = toolWriting :=
      a.headed_runDeeds host { path } replies _ hmem attempt rfl
    exact ⟨⟨attempt, by simpa [writing, toolWriting] using hheading, hanswer⟩,
      hbreaks.questions_isPrefixOf, hbreaks.calls_isPrefixOf, hbreaks.events_isPrefixOf⟩
  · have hone : ∀ text : String, String.join [text] = text := fun text => by simp
    rw [← hone ((Report.ofSession p.session loaded).render a.format)]
    exact Does.emits fun room => a.does_report loaded { p with room }
  · rintro pieces hjoin
    exact hjoin ▸ Does.emits fun room => .writeAll writing pieces _

end LoopAdvice
