import LoopAdvice.Proofs.Workflow.Entries
import LoopAdvice.Proofs.Workflow.Questions

/-! # Exit statuses

The exit status of a program shows in the log and nowhere else. A run is looked at *without
statuses*: every program that ran is recorded as a success, without a warning. A deed and what it
becomes without statuses fail alike (`Deed.fault?_statusless`) and change a run alike
(`Progress.statusless_after`), and so do deeds one after the other (`perform_statusless`). So what is
left of a run is a run as well, the one in which all programs that run succeed
(`Advisor.run_succeeding`), and runs whose programs differ in nothing but their statuses have it in
common. Main statement: `Advisor.exit_status_shows_in_log_only`. -/

namespace LoopAdvice

/-! ### Without statuses -/

/-- What a program left behind, as if it had succeeded. -/
def ToolOutput.asSuccess (o : ToolOutput) : ToolOutput := { o with status := some 0 }

/-- The same surroundings, but every program that runs succeeds. -/
def Host.succeeding (host : Host) : Host where
  read := host.read
  run := fun program args => (host.run program args).map ToolOutput.asSuccess

/-- An event without the exit status; the warning that hangs on the status is left out. -/
def Event.statusless? : Event → Option Event
  | .toolFinished program _ => some (.toolFinished program (some 0))
  | .toolUnsuccessful _ _ => none
  | e => some e

def Action.statusless? : Action → Option Action
  | .recorded e => e.statusless?.map .recorded
  | act => some act

def Deed.statusless? : Deed → Option Deed
  | .note e => e.statusless?.map .note
  | .call program args answer => some (.call program args (answer.map ToolOutput.asSuccess))
  | d => some d

def Progress.statusless (p : Progress) : Progress :=
  { p with trace := p.trace.filterMap Action.statusless? }

/-! ### Views of a trace without statuses -/

namespace Trace

variable (t : Trace)

/-- A view that shows nothing of what is recorded is the same without statuses. -/
theorem filterMap_statusless {β : Type} {view : Action → Option β}
    (hview : ∀ e, view (.recorded e) = none) :
    (t.filterMap Action.statusless?).filterMap view = t.filterMap view := by
  rw [List.filterMap_filterMap]
  refine List.filterMap_congr fun act _ => ?_
  cases act with
  | recorded e => cases h : e.statusless? <;> simp [Action.statusless?, h, hview]
  | _ => rfl

theorem output_statusless : output (t.filterMap Action.statusless?) = output t := by
  rw [output, List.filterMap_eq_flatMap_toList, List.flatMap_assoc]
  refine List.flatMap_congr fun act _ => ?_
  cases act with
  | recorded e => cases h : e.statusless? <;> simp [Action.statusless?, h, Action.output]
  | _ => exact List.append_nil _

theorem questions_statusless : questions (t.filterMap Action.statusless?) = questions t :=
  filterMap_statusless t fun _ => rfl

theorem calls_statusless : calls (t.filterMap Action.statusless?) = calls t :=
  filterMap_statusless t fun _ => rfl

theorem events_statusless :
    events (t.filterMap Action.statusless?) = (events t).filterMap Event.statusless? := by
  rw [events, events, List.filterMap_filterMap, List.filterMap_filterMap]
  refine List.filterMap_congr fun act _ => ?_
  cases act with
  | recorded e => cases h : e.statusless? <;> simp [Action.statusless?, h, Action.event?]
  | _ => rfl

end Trace

/-! ### Deeds without statuses -/

/-- A deed that is left out without statuses cannot fail. -/
theorem Deed.fault?_of_statusless?_eq_none {d : Deed} (h : d.statusless? = none)
    (room : Option Room) : d.fault? room = none := by
  cases d with
  | note e => rfl
  | _ => cases h

/-- A deed fails without statuses as it fails with them. -/
theorem Deed.fault?_statusless {d e : Deed} (h : d.statusless? = some e) (room : Option Room) :
    e.fault? room = d.fault? room := by
  cases d with
  | note event =>
    obtain ⟨_, -, rfl⟩ := Option.map_eq_some_iff.mp h
    rfl
  | call program args answer =>
    obtain rfl := Option.some.inj h
    rcases answer with (missing | ⟨name, cause⟩) | o <;> rfl
  | _ =>
    obtain rfl := Option.some.inj h
    rfl

/-- **A deed changes a run without statuses as it changes the run.** -/
theorem Progress.statusless_after (p : Progress) (d : Deed) :
    (p.after d).statusless = d.statusless?.elim p.statusless p.statusless.after := by
  cases d with
  | note event =>
    cases h : event.statusless? <;>
      simp [statusless, after, Deed.statusless?, Action.statusless?, h]
  | _ => simp [statusless, after, Deed.statusless?, Action.statusless?]

/-- Deeds are performed without statuses as they are performed with them. -/
theorem perform_statusless {α : Type} (v : α) (ds : List Deed) (p : Progress) :
    perform v (ds.filterMap Deed.statusless?) p.statusless =
      match perform v ds p with
      | .ok u q => .ok u q.statusless
      | .error f q => .error f q.statusless := by
  induction ds generalizing p with
  | nil => rfl
  | cons d ds ih =>
    have hafter := p.statusless_after d
    rw [List.filterMap_cons, perform]
    cases h : d.statusless? with
    | none =>
      rw [h] at hafter
      have hsame : (p.after d).statusless = p.statusless := hafter
      rw [Deed.fault?_of_statusless?_eq_none h, ← hsame]
      exact ih (p.after d)
    | some e =>
      rw [h] at hafter
      have hnext : (p.after d).statusless = p.statusless.after e := hafter
      have hfault : e.fault? p.statusless.room = d.fault? p.room := Deed.fault?_statusless h _
      dsimp only
      rw [perform, hfault, ← hnext]
      cases d.fault? p.room with
      | none => exact ih (p.after d)
      | some f => rfl

/-- A step that does without statuses what another does answers the same, and leaves the run where the
other does, without statuses. -/
theorem Does.statusless {α : Type} {x y : Step α} {p : Progress} {ds : List Deed} {v : α}
    (hx : Does x p ds v) (hy : Does y p.statusless (ds.filterMap Deed.statusless?) v) :
    y.answer p.statusless = x.answer p ∧ y.leaves p.statusless = (x.leaves p).statusless := by
  unfold Step.answer Step.leaves
  rw [hx, hy, perform_statusless]
  cases perform v ds p <;> exact ⟨rfl, rfl⟩

/-! ### The deeds of a run without statuses -/

/-- What records nothing about tools and calls none is the same without statuses. -/
theorem Deed.statusless?_eq_some {d : Deed} (hcall : d.call? = none)
    (hlabel : ∀ e ∈ d.event?, e.label ∉ toolLabels) : d.statusless? = some d := by
  cases d with
  | note event =>
    have hevent : event.label ∉ toolLabels := hlabel event rfl
    cases event with
    | toolFinished program status =>
      exact absurd (by simp [Event.label, Event.level, Event.message, toolLabels]) hevent
    | toolUnsuccessful program status =>
      exact absurd (by simp [Event.label, Event.level, Event.message, toolLabels]) hevent
    | _ => rfl
  | call program args answer => cases hcall
  | _ => rfl

theorem filterMap_statusless?_eq_self {ds : List Deed} (hquiet : ∀ d ∈ ds, d.Quiet)
    (hlabel : ∀ d ∈ ds, ∀ e ∈ d.event?, e.label ∉ toolLabels) :
    ds.filterMap Deed.statusless? = ds := by
  rw [List.filterMap_congr fun d hd => Deed.statusless?_eq_some (hquiet d hd).2 (hlabel d hd)]
  exact List.filterMap_some

namespace Tool

variable (tool : Tool) (host : Host) (path : Bytes)

theorem answer_succeeding : tool.answer host.succeeding.run path =
    (tool.answer host.run path).map ToolOutput.asSuccess := rfl

/-- What becomes of a tool does not hang on the status it ends with. -/
theorem outcome_succeeding (allowed : Bool) :
    tool.outcome host.succeeding.run path allowed = tool.outcome host.run path allowed := by
  unfold outcome
  rw [answer_succeeding]
  cases tool.answer host.run path <;> rfl

/-- Without statuses a tool does what it does if it succeeds. -/
theorem deeds_succeeding : (tool.deeds host.run path).filterMap Deed.statusless? =
    tool.deeds host.succeeding.run path := by
  unfold deeds callDeeds
  rw [answer_succeeding]
  rcases tool.answer host.run path with (missing | ⟨name, cause⟩) | o
  · rfl
  · rfl
  · by_cases hs : o.status = some 0 <;> by_cases he : o.stderr = "" <;>
      simp [echoDeeds, hintDeeds, hs, he, List.filterMap_cons, Deed.statusless?, Event.statusless?,
        Except.map, ToolOutput.asSuccess, ToolOutput.succeeded]

end Tool

theorem toolStepDeeds_succeeding (host : Host) (decision : Decision) (question : String)
    (tool : Tool) (path : Bytes) (replies : List Reply) :
    (toolStepDeeds host decision question tool path replies).filterMap Deed.statusless? =
      toolStepDeeds host.succeeding decision question tool path replies := by
  have hquestion : (decision.deeds question replies).filterMap Deed.statusless? =
      decision.deeds question replies := by
    cases decision <;> rfl
  unfold toolStepDeeds
  rw [List.filterMap_append, hquestion]
  cases decision.grants replies with
  | true => exact congrArg _ (tool.deeds_succeeding host path)
  | false => rfl

namespace Advisor

theorem outcome_succeeding (a : Advisor) (host : Host) (s : Session) (replies : List Reply) :
    a.outcome host.succeeding s replies = a.outcome host s replies := by
  unfold outcome
  rw [Tool.outcome_succeeding, Tool.outcome_succeeding]
  rfl

theorem runDeeds_succeeding (a : Advisor) (host : Host) (s : Session) (replies : List Reply) :
    (a.runDeeds host s replies).filterMap Deed.statusless? =
      a.runDeeds host.succeeding s replies := by
  have hopening : (a.openingDeeds host s).filterMap Deed.statusless? =
      a.openingDeeds host.succeeding s := by
    refine filterMap_statusless?_eq_self (a.quiet_openingDeeds host s) ?_
    unfold openingDeeds
    rw [List.forall_mem_append]
    exact ⟨a.label_analyzeDeeds, by simp [reportDeed, Deed.event?]⟩
  have hclosing : [a.closingDeed host s replies].filterMap Deed.statusless? =
      [a.closingDeed host.succeeding s replies] := by
    unfold closingDeed
    rw [outcome_succeeding]
    rfl
  rw [runDeeds_eq, runDeeds_eq, List.filterMap_append, List.filterMap_append, List.filterMap_append,
    hopening, hclosing, profilerDeeds, compilerDeeds, toolStepDeeds_succeeding,
    toolStepDeeds_succeeding]
  rfl

/-- **A run without statuses is the run in which all programs that run succeed.** -/
theorem run_succeeding (a : Advisor) (host : Host) (p : Progress) :
    (a.run host.succeeding).answer p.statusless = (a.run host).answer p ∧
      (a.run host.succeeding).leaves p.statusless = ((a.run host).leaves p).statusless := by
  have hsucceeding := a.does_run host.succeeding p.statusless
  rw [outcome_succeeding, ← runDeeds_succeeding] at hsucceeding
  exact (a.does_run host p).statusless hsucceeding

end Advisor

/-! ### Two runs -/

/-- Answers that differ at most in the exit status of a program that ran. -/
def SameButStatus (x y : Except ToolFault ToolOutput) : Prop :=
  ∃ status : Option Int, y = x.map fun o => { o with status }

theorem SameButStatus.map_asSuccess {x y : Except ToolFault ToolOutput} (h : SameButStatus x y) :
    y.map ToolOutput.asSuccess = x.map ToolOutput.asSuccess := by
  obtain ⟨status, rfl⟩ := h
  cases x <;> rfl

/-- **The exit statuses of tools show in the log and nowhere else**, whatever the configuration, the
files, the replies and the room for output are: a run whose tools end with other statuses, or with
none, has the same answer and session, writes, asks and calls the same, and records the same but for
the statuses and the warnings about them. -/
theorem Advisor.exit_status_shows_in_log_only (a : Advisor) (one two : Host) (p : Progress)
    (hread : two.read = one.read)
    (hrun : ∀ program args, SameButStatus (one.run program args) (two.run program args)) :
    let part (host : Host) := (a.run host).part p
    (a.run two).answer p = (a.run one).answer p ∧
    ((a.run two).leaves p).session = ((a.run one).leaves p).session ∧
    (part two).output = (part one).output ∧
    (part two).questions = (part one).questions ∧
    (part two).calls = (part one).calls ∧
    (part two).events.filterMap Event.statusless? =
      (part one).events.filterMap Event.statusless? := by
  intro part
  have hhost : two.succeeding = one.succeeding := by
    unfold Host.succeeding
    rw [hread]
    congr 1
    funext program args
    exact (hrun program args).map_asSuccess
  obtain ⟨hanswerOne, hleavesOne⟩ := a.run_succeeding one p
  obtain ⟨hanswerTwo, hleavesTwo⟩ := a.run_succeeding two p
  rw [hhost] at hanswerTwo hleavesTwo
  have hleaves : ((a.run two).leaves p).statusless = ((a.run one).leaves p).statusless :=
    hleavesTwo.symm.trans hleavesOne
  have hpart : (part two).filterMap Action.statusless? =
      (part one).filterMap Action.statusless? := by
    have htrace := congrArg Progress.trace hleaves
    simp only [Progress.statusless, (a.does_run one p).trace_leaves,
      (a.does_run two p).trace_leaves, List.filterMap_append] at htrace
    exact List.append_cancel_left htrace
  refine ⟨hanswerTwo.symm.trans hanswerOne, (Progress.mk.inj hleaves).1, ?_, ?_, ?_, ?_⟩
  · rw [← Trace.output_statusless, hpart, Trace.output_statusless]
  · rw [← Trace.questions_statusless, hpart, Trace.questions_statusless]
  · rw [← Trace.calls_statusless, hpart, Trace.calls_statusless]
  · rw [← Trace.events_statusless, hpart, Trace.events_statusless]

/-- No source, a profiler that ends with a given status, and no compiler. -/
def profilerEnding (status : Option Int) : Host where
  read := fun _ => .error .missing
  run := fun program _ =>
    if program = "vtune" then .ok ⟨"hot", "", status⟩ else .error (.notFound program)

/-- A profiler that is killed leaves all but the log as one that succeeds does, up to the write that
does not fit. -/
theorem exit_status_shows_in_log_only_killed :
    let a : Advisor := { profile := .yes, compile := .yes }
    let p : Progress := { session := { path := [0x61] }, room := some ⟨160, .other "disk full"⟩ }
    let run (status : Option Int) := a.run (profilerEnding status)
    let part (status : Option Int) := (run status).part p
    (profilerEnding none).read = (profilerEnding (some 0)).read ∧
    (∀ program args, SameButStatus ((profilerEnding (some 0)).run program args)
      ((profilerEnding none).run program args)) ∧
    (run none).answer p = (run (some 0)).answer p ∧
    (run (some 0)).answer p = .error (.failed "failed to write to output" (.other "disk full")) ∧
    (part none).output = (part (some 0)).output ∧
    (part none).calls = (part (some 0)).calls ∧
    (part none).events.filterMap Event.statusless? =
      (part (some 0)).events.filterMap Event.statusless? ∧
    .toolUnsuccessful "vtune" none ∈ (part none).events ∧
    .toolUnsuccessful "vtune" none ∉ (part (some 0)).events := by
  intro a p run part
  have hrun : ∀ program args, SameButStatus ((profilerEnding (some 0)).run program args)
      ((profilerEnding none).run program args) := by
    intro program args
    refine ⟨none, ?_⟩
    dsimp only [profilerEnding]
    split_ifs <;> rfl
  obtain ⟨hanswer, -, houtput, -, hcalls, hevents⟩ :=
    a.exit_status_shows_in_log_only (profilerEnding (some 0)) (profilerEnding none) p rfl hrun
  obtain ⟨hfull, hwarned, hsilent⟩ :
      (run (some 0)).answer p = .error (.failed "failed to write to output" (.other "disk full")) ∧
      .toolUnsuccessful "vtune" none ∈ (part none).events ∧
      .toolUnsuccessful "vtune" none ∉ (part (some 0)).events := by decide +kernel
  exact ⟨rfl, hrun, hanswer, hfull, houtput, hcalls, hevents, hwarned, hsilent⟩

end LoopAdvice
