import LoopAdvice.Proofs.Report.RoundTrip
import LoopAdvice.Proofs.Workflow.Endless

/-! # The output format

Of the deeds of a run some only tell of it: they write a text or record an event, and without an end
to the writer none of them fails. Lists of deeds that are the same when these are left out *act alike*
(`ActsAlike`): they fail alike, ask and call the same, and add the same suggestions. The format of an
advisor makes a difference only to what is told (`actsAlike_runDeeds`).

Main statement: `formats_act_alike`, by which a run comes to the same in either format, and by which
the suggestions that the text form lists are those in the document of the JSON form. -/

namespace LoopAdvice

/-! ### Deeds that act alike -/

/-- Whether a deed does more than tell. -/
def Deed.acts : Deed → Bool
  | write _ _ => false
  | note _ => false
  | _ => true

/-- A deed that only tells does not fail, and is no question, no call and no suggestion. -/
theorem Deed.of_not_acts {d : Deed} (h : d.acts = false) :
    d.fault? none = none ∧ d.Quiet ∧ d.growth = [] := by
  cases d with
  | write attempt text => exact ⟨by simp [fault?], ⟨rfl, rfl⟩, rfl⟩
  | note event => exact ⟨rfl, ⟨rfl, rfl⟩, rfl⟩
  | _ => cases h

theorem course_filter_acts (ds : List Deed) :
    course none (ds.filter Deed.acts) = (course none ds).filter Deed.acts := by
  induction ds with
  | nil => rfl
  | cons d ds ih =>
    cases hd : d.acts with
    | false =>
      have hnot : ¬ d.acts = true := Bool.eq_false_iff.mp hd
      rw [course_cons_of_none (Deed.of_not_acts hd).1, List.filter_cons_of_neg hnot,
        List.filter_cons_of_neg hnot]
      exact ih
    | true =>
      rw [List.filter_cons_of_pos hd]
      cases hf : d.fault? none with
      | none =>
        rw [course_cons_of_none hf, course_cons_of_none hf, List.filter_cons_of_pos hd]
        exact congrArg _ ih
      | some f =>
        rw [course_cons_of_some hf, course_cons_of_some hf, List.filter_cons_of_pos hd]
        rfl

theorem failure_filter_acts (ds : List Deed) :
    failure none (ds.filter Deed.acts) = failure none ds := by
  induction ds with
  | nil => rfl
  | cons d ds ih =>
    cases hd : d.acts with
    | false =>
      rw [List.filter_cons_of_neg (Bool.eq_false_iff.mp hd), failure, (Deed.of_not_acts hd).1]
      exact ih
    | true =>
      rw [List.filter_cons_of_pos hd, failure, failure]
      cases d.fault? none with
      | none => exact ih
      | some f => rfl

theorem filterMap_filter_acts {α : Type} {view : Deed → Option α}
    (h : ∀ d, d.acts = false → view d = none) (ds : List Deed) :
    (ds.filter Deed.acts).filterMap view = ds.filterMap view := by
  rw [List.filterMap_filter]
  refine List.filterMap_congr fun d _ => ?_
  cases hd : d.acts with
  | false => rw [if_neg Bool.false_ne_true, h d hd]
  | true => rw [if_pos rfl]

theorem flatMap_growth_filter_acts (ds : List Deed) :
    (ds.filter Deed.acts).flatMap Deed.growth = ds.flatMap Deed.growth := by
  induction ds with
  | nil => rfl
  | cons d ds ih =>
    cases hd : d.acts with
    | false =>
      rw [List.filter_cons_of_neg (Bool.eq_false_iff.mp hd), List.flatMap_cons,
        (Deed.of_not_acts hd).2.2, List.nil_append, ih]
    | true => rw [List.filter_cons_of_pos hd, List.flatMap_cons, List.flatMap_cons, ih]

/-- Deeds that differ only in what they tell. -/
def ActsAlike (ds es : List Deed) : Prop := ds.filter Deed.acts = es.filter Deed.acts

namespace ActsAlike

variable {ds es : List Deed}

theorem refl (ds : List Deed) : ActsAlike ds ds := rfl

theorem append {ds' es' : List Deed} (h : ActsAlike ds es) (h' : ActsAlike ds' es') :
    ActsAlike (ds ++ ds') (es ++ es') := by
  rw [ActsAlike, List.filter_append, List.filter_append, h, h']

/-- Deeds that only tell act like none at all. -/
theorem of_not_acts (hds : ∀ d ∈ ds, d.acts = false) (hes : ∀ d ∈ es, d.acts = false) :
    ActsAlike ds es := by
  rw [ActsAlike, List.filter_eq_nil_iff.mpr fun d hd => Bool.eq_false_iff.mp (hds d hd),
    List.filter_eq_nil_iff.mpr fun d hd => Bool.eq_false_iff.mp (hes d hd)]

variable (h : ActsAlike ds es)
include h

theorem failure_eq : failure none ds = failure none es := by
  rw [← failure_filter_acts, h, failure_filter_acts]

/-- Deeds that act alike still do so up to the first that fails. -/
theorem course : ActsAlike (course none ds) (course none es) := by
  rw [ActsAlike, ← course_filter_acts, h, course_filter_acts]

theorem questions_eq : (performed none ds).questions = (performed none es).questions := by
  have hquiet : ∀ d : Deed, d.acts = false → d.question? = none :=
    fun d hd => (Deed.of_not_acts hd).2.1.1
  rw [questions_performed, questions_performed, ← filterMap_filter_acts hquiet, h.course,
    filterMap_filter_acts hquiet]

theorem calls_eq : (performed none ds).calls = (performed none es).calls := by
  have hquiet : ∀ d : Deed, d.acts = false → d.call? = none :=
    fun d hd => (Deed.of_not_acts hd).2.1.2
  rw [calls_performed, calls_performed, ← filterMap_filter_acts hquiet, h.course,
    filterMap_filter_acts hquiet]

theorem session_eq {p : Progress} :
    (p.afterAll (LoopAdvice.course none ds)).session =
      (p.afterAll (LoopAdvice.course none es)).session := by
  rw [p.session_afterAll, p.session_afterAll, ← flatMap_growth_filter_acts, h.course,
    flatMap_growth_filter_acts]

end ActsAlike

/-! ### The format of an advisor -/

namespace Advisor

section Formats
variable (a b : Advisor) {host : Host} {s : Session} {replies : List Reply}

theorem acts_sayDeed (line : String) : (a.sayDeed line).acts = false := by
  unfold sayDeed
  cases a.format <;> rfl

theorem acts_missingDeed (path : Bytes) : (a.missingDeed path).acts = false := by
  unfold missingDeed
  cases a.format <;> rfl

theorem actsAlike_sayDeed (line : String) : ActsAlike [a.sayDeed line] [b.sayDeed line] :=
  .of_not_acts (List.forall_mem_singleton.mpr (a.acts_sayDeed line))
    (List.forall_mem_singleton.mpr (b.acts_sayDeed line))

/-- Of the analysis only the lines of progress depend on the advisor. -/
theorem actsAlike_analyzeDeeds : ActsAlike (a.analyzeDeeds host s) (b.analyzeDeeds host s) := by
  unfold analyzeDeeds
  refine .append (.refl _) ?_
  cases host.read s.path with
  | error fault =>
    exact .of_not_acts (List.forall_mem_singleton.mpr (a.acts_missingDeed s.path))
      (List.forall_mem_singleton.mpr (b.acts_missingDeed s.path))
  | ok content =>
    exact .append (.refl _) (.append (actsAlike_sayDeed a b _) (.append (.refl _)
      (.append (actsAlike_sayDeed a b _) (.refl _))))

theorem actsAlike_openingDeeds : ActsAlike (a.openingDeeds host s) (b.openingDeeds host s) :=
  .append (actsAlike_analyzeDeeds a b) (.of_not_acts (List.forall_mem_singleton.mpr rfl)
    (List.forall_mem_singleton.mpr rfl))

/-- **Runs that differ in their format differ only in what they tell.** -/
theorem actsAlike_runDeeds (format : Format) :
    ActsAlike ({ a with format }.runDeeds host s replies) (a.runDeeds host s replies) := by
  rw [runDeeds_eq, runDeeds_eq]
  exact .append (actsAlike_openingDeeds _ a) (.refl _)

end Formats

/-- **The format makes no difference but to what is told of the analysis and to the form of the
report**, which lists the same suggestions either way. -/
theorem formats_act_alike (a : Advisor) (host : Host) (path : Bytes) (replies : List Reply) :
    let start : Progress := { session := { path }, replies }
    let run (format : Format) := { a with format }.run host
    let output (format : Format) := ((run format).part start).output
    let document := Report.toJson ⟨Utf8.display path, host.loads path, host.advice path⟩
    let told := Utf8.bytesOf
      (a.toldOfProfiler host.run path replies ++ a.toldOfCompiler host.run path replies)
    (run .json).answer start = (run .text).answer start ∧
    ((run .json).part start).questions = ((run .text).part start).questions ∧
    ((run .json).part start).calls = ((run .text).part start).calls ∧
    ((run .json).leaves start).session = ((run .text).leaves start).session ∧
    ((∀ cause, host.read path ≠ .error (.failed cause)) →
      ∃ texts, (Json.document? document.toList).bind Report.textsIn? = some texts ∧
        output .json = Utf8.bytesOf document ++ told ∧
        output .text = Utf8.bytesOf ({ a with format := .text }.intro host path ++
          ("\nOptimization suggestions:\n" ++
            String.join (texts.map fun text => " - " ++ text ++ "\n"))) ++ told) := by
  intro start run output document told
  have hdoes : ∀ format, Does (run format) start
      ({ a with format }.runDeeds host { path } replies) (a.outcome host { path } replies) :=
    fun format => { a with format }.does_run host start
  have halike : ActsAlike ({ a with format := .json }.runDeeds host { path } replies)
      ({ a with format := .text }.runDeeds host { path } replies) :=
    { a with format := .text }.actsAlike_runDeeds .json
  refine ⟨?_, ?_, ?_, ?_, fun hread => ?_⟩
  · rw [(hdoes .json).answer_eq, (hdoes .text).answer_eq, show start.room = none from rfl,
      halike.failure_eq]
  · rw [(hdoes .json).part_eq, (hdoes .text).part_eq]
    exact halike.questions_eq
  · rw [(hdoes .json).part_eq, (hdoes .text).part_eq]
    exact halike.calls_eq
  · rw [(hdoes .json).leaves_eq, (hdoes .text).leaves_eq]
    exact halike.session_eq
  · let report : Report := ⟨Utf8.display path, host.loads path, host.advice path⟩
    have houtput : ∀ format, output format =
        Utf8.bytesOf ({ a with format }.intro host path ++ report.render format) ++ told := by
      intro format
      rw [← Utf8.bytesOf_append, ← String.append_assoc]
      exact (congrArg Trace.output (hdoes format).part_eq).trans
        ({ a with format }.output_performed_runDeeds hread replies)
    have hlines : report.suggestions.map Report.line =
        (report.suggestions.map Suggestion.text).map fun text => " - " ++ text ++ "\n" := by
      rw [List.map_map]
      rfl
    have hintro : { a with format := .json }.intro host path = "" := rfl
    refine ⟨report.suggestions.map Suggestion.text, report.textsIn?_toJson, ?_, ?_⟩
    · rw [houtput, hintro, String.empty_append]
      rfl
    · rw [houtput, ← hlines]
      rfl

end Advisor

/-- The file with one loop has three suggestions in either format. -/
theorem formats_act_alike_oneLoop :
    let a : Advisor := { profile := .yes, compile := .no }
    let start : Progress := { session := { path := [0x61] } }
    let run (format : Format) := { a with format }.run oneLoop
    let texts := [Suggestion.text .parallelize, Suggestion.text .vectorize, Suggestion.text .memory]
    let told := Utf8.bytesOf
      (a.toldOfProfiler oneLoop.run [0x61] [] ++ a.toldOfCompiler oneLoop.run [0x61] [])
    (∀ cause, oneLoop.read [0x61] ≠ .error (.failed cause)) ∧
    (run .json).answer start = (run .text).answer start ∧
    ((run .json).leaves start).session = ((run .text).leaves start).session ∧
    ((run .text).part start).output = Utf8.bytesOf ("Analyzing code...\nAnalysis complete.\n" ++
      ("\nOptimization suggestions:\n" ++
        String.join (texts.map fun text => " - " ++ text ++ "\n"))) ++ told := by
  intro a start run texts told
  have hread : ∀ cause, oneLoop.read [0x61] ≠ .error (.failed cause) := nofun
  obtain ⟨hanswer, -, -, hsession, houtput⟩ := a.formats_act_alike oneLoop [0x61] []
  obtain ⟨listed, hlisted, -, htext⟩ := houtput hread
  have hadvice : (oneLoop.advice [0x61]).map Suggestion.text = texts := by decide +kernel
  have htexts : listed = texts :=
    (Option.some.inj (hlisted.symm.trans (Report.textsIn?_toJson _))).trans hadvice
  exact ⟨hread, hanswer, hsession, htexts ▸ htext⟩

end LoopAdvice
