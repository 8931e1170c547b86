import LoopAdvice.Proofs.Workflow.ToolStep

/-! # Moves and visits

An advisor is used by *moves*: it analyses, reports, runs one of the two tools, or does all of it, in
any order and any number of times. The surroundings of each move are its own, so files may change and
programs may answer otherwise from one move to the next; within one move no two calls have the same
arguments. A *visit* is the step of a tool that a move comes to.

Main statement: a visit asks its own question if nothing was decided beforehand, and no question
otherwise; it calls its tool if it has consent and its banner was written in full, once, and not
otherwise; the replies go to the questions in order; and nothing but visits asks or calls
(`calls_only_with_consent`). -/

namespace LoopAdvice

/-- The places that a run has for a tool. -/
inductive Role
  | profiler
  | compiler
  deriving DecidableEq, Repr

def Role.question : Role → String
  | .profiler => profileQuestion
  | .compiler => compileQuestion

namespace Advisor

def tool (a : Advisor) : Role → Tool
  | .profiler => a.profiler
  | .compiler => a.compiler

def decision (a : Advisor) : Role → Decision
  | .profiler => a.profile
  | .compiler => a.compile

/-- The step of the tool in a place. -/
def roleStep (a : Advisor) (host : Host) (role : Role) : Step ToolOutcome :=
  toolStep host (a.decision role) role.question (a.tool role)

end Advisor

/-- One use of an advisor. -/
inductive Move
  | analyze
  | report (loaded : Bool)
  | profile
  | compile
  | run
  deriving DecidableEq, Repr

/-- The step of the tool in a place, begun where a run stands. -/
structure Visit where
  host : Host
  role : Role
  start : Progress

namespace Visit

def step (a : Advisor) (v : Visit) : Step ToolOutcome := a.roleStep v.host v.role

def leaves (a : Advisor) (v : Visit) : Progress := (v.step a).leaves v.start

/-- What a visit adds to the trace. -/
def part (a : Advisor) (v : Visit) : Trace := (v.step a).part v.start

def asks (a : Advisor) (v : Visit) : Bool := a.decision v.role = .ask

/-- The reply that a visit finds if it asks. -/
def reply (v : Visit) : Reply := (nextReply v.start.replies).1

end Visit

namespace Move

/-- Where a move leaves a run, be it done or failed. -/
def leaves (a : Advisor) (host : Host) (p : Progress) : Move → Progress
  | .analyze => (a.analyze host).leaves p
  | .report loaded => (a.report loaded).leaves p
  | .profile => (a.runProfiler host).leaves p
  | .compile => (a.runCompiler host).leaves p
  | .run => (a.run host).leaves p

/-- The visits of a move. A whole run comes to the profiler if its source is analysed and reported,
and to the compiler if the profiler did not fail. -/
def visits (a : Advisor) (host : Host) (p : Progress) : Move → List Visit
  | .analyze => []
  | .report _ => []
  | .profile => [⟨host, .profiler, p⟩]
  | .compile => [⟨host, .compiler, p⟩]
  | .run =>
    match (a.analyze host >>= a.report).run p with
    | .error _ _ => []
    | .ok _ q =>
      ⟨host, .profiler, q⟩ ::
        match (a.runProfiler host).run q with
        | .error _ _ => []
        | .ok _ r => [⟨host, .compiler, r⟩]

end Move

namespace Advisor

/-- Where moves leave a run, each in its own surroundings. -/
def leavesAll (a : Advisor) : List (Host × Move) → Progress → Progress
  | [], p => p
  | (host, move) :: moves, p => a.leavesAll moves (move.leaves a host p)

/-- The visits of moves, in order. -/
def visits (a : Advisor) : List (Host × Move) → Progress → List Visit
  | [], _ => []
  | (host, move) :: moves, p => move.visits a host p ++ a.visits moves (move.leaves a host p)

end Advisor

/-! ### Between visits nothing is asked or called -/

/-- What a run has asked and called so far, the replies it has left, and its source. -/
structure Ledger where
  questions : List String
  calls : List (String × List String)
  replies : List Reply
  path : Bytes

def Progress.ledger (p : Progress) : Ledger :=
  ⟨p.trace.questions, p.trace.calls, p.replies, p.session.path⟩

/-- Deeds that are neither questions nor calls leave the ledger as it is. -/
theorem Does.ledger_leaves {α : Type} {x : Step α} {p : Progress} {ds : List Deed} {v : α}
    (h : Does x p ds v) (hquiet : ∀ d ∈ ds, d.Quiet) : (x.leaves p).ledger = p.ledger := by
  have hquestions : (x.leaves p).trace.questions = p.trace.questions := by
    rw [h.trace_leaves, Trace.questions_append, h.part_eq, questions_performed_of_quiet hquiet,
      List.append_nil]
  have hcalls : (x.leaves p).trace.calls = p.trace.calls := by
    rw [h.trace_leaves, Trace.calls_append, h.part_eq, calls_performed_of_quiet hquiet,
      List.append_nil]
  have hreplies : (x.leaves p).replies = p.replies := by
    rw [h.leaves_eq, p.replies_afterAll, List.countP_eq_zero.mpr fun d hd => by
      simp [d.isQuestion_eq, (hquiet d (mem_of_mem_course hd)).1], List.drop_zero]
  have hpath : (x.leaves p).session.path = p.session.path := by
    rw [h.leaves_eq, path_afterAll]
  simp only [Progress.ledger, hquestions, hcalls, hreplies, hpath]

theorem Advisor.quiet_analyzeDeeds (a : Advisor) (host : Host) (s : Session) :
    ∀ d ∈ a.analyzeDeeds host s, d.Quiet := by
  unfold analyzeDeeds Deed.Quiet
  cases host.read s.path with
  | error fault =>
    unfold missingDeed
    cases a.format <;> simp [Deed.question?, Deed.call?]
  | ok content =>
    unfold scanDeeds sayDeed
    cases a.format <;> simp [Deed.question?, Deed.call?, or_imp, forall_and]

theorem Advisor.ledger_analyze (a : Advisor) (host : Host) (p : Progress) :
    ((a.analyze host).leaves p).ledger = p.ledger :=
  (a.does_analyze host p).ledger_leaves (a.quiet_analyzeDeeds host p.session)

theorem Advisor.ledger_report (a : Advisor) (loaded : Bool) (p : Progress) :
    ((a.report loaded).leaves p).ledger = p.ledger :=
  (a.does_report loaded p).ledger_leaves
    (by simp [reportDeed, Deed.Quiet, Deed.question?, Deed.call?])

/-- From one ledger to another by visits, with nothing asked or called before, between or after
them. -/
def Follow (a : Advisor) : Ledger → List Visit → Ledger → Prop
  | l, [], m => m = l
  | l, v :: vs, m => v.start.ledger = l ∧ Follow a (v.leaves a).ledger vs m

namespace Follow

variable {a : Advisor} {l m n : Ledger} {vs ws : List Visit}

theorem append (hvs : Follow a l vs m) (hws : Follow a m ws n) : Follow a l (vs ++ ws) n := by
  induction vs generalizing l with
  | nil =>
    obtain rfl := hvs
    exact hws
  | cons v vs ih => exact ⟨hvs.1, ih hvs.2⟩

theorem trace_leaves (a : Advisor) (v : Visit) :
    (v.leaves a).trace = v.start.trace ++ v.part a :=
  (Advisor.does_toolStep v.host (a.decision v.role) v.role.question (a.tool v.role)
    v.start).trace_leaves

theorem questions (h : Follow a l vs m) :
    m.questions = l.questions ++ vs.flatMap fun v => (v.part a).questions := by
  induction vs generalizing l with
  | nil =>
    obtain rfl := h
    simp
  | cons v vs ih =>
    obtain ⟨rfl, h⟩ := h
    rw [ih h, List.flatMap_cons, ← List.append_assoc, Progress.ledger, trace_leaves,
      Trace.questions_append]
    rfl

theorem calls (h : Follow a l vs m) :
    m.calls = l.calls ++ vs.flatMap fun v => (v.part a).calls := by
  induction vs generalizing l with
  | nil =>
    obtain rfl := h
    simp
  | cons v vs ih =>
    obtain ⟨rfl, h⟩ := h
    rw [ih h, List.flatMap_cons, ← List.append_assoc, Progress.ledger, trace_leaves,
      Trace.calls_append]
    rfl

theorem path (h : Follow a l vs m) : ∀ v ∈ vs, v.start.session.path = l.path := by
  induction vs generalizing l with
  | nil => simp
  | cons v vs ih =>
    obtain ⟨rfl, h⟩ := h
    have hpath : (v.leaves a).session.path = v.start.session.path := by
      rw [Visit.leaves, Visit.step, Advisor.roleStep, (Advisor.does_toolStep ..).leaves_eq,
        path_afterAll]
    rintro w (_ | ⟨_, hw⟩)
    · rfl
    · exact (ih h w hw).trans hpath

/-- The replies go to the visits that ask, in order. -/
theorem reply (h : Follow a l vs m) {i : ℕ} {v : Visit}
    (hv : (vs.filter (Visit.asks a))[i]? = some v) : v.reply = l.replies.getD i (.ok "") := by
  induction vs generalizing l i with
  | nil => simp at hv
  | cons w vs ih =>
    obtain ⟨rfl, h⟩ := h
    have hreplies : (w.leaves a).ledger.replies =
        if w.asks a then w.start.replies.tail else w.start.replies := by
      simp only [Visit.asks, decide_eq_true_eq]
      exact replies_leaves_toolStep w.host (a.decision w.role) w.role.question (a.tool w.role)
        w.start
    cases hasks : w.asks a with
    | false =>
      rw [List.filter_cons_of_neg (by simp [hasks])] at hv
      rw [ih h hv, hreplies, hasks]
      rfl
    | true =>
      rw [List.filter_cons_of_pos hasks] at hv
      cases i with
      | zero =>
        obtain rfl : w = v := by simpa using hv
        show (nextReply w.start.replies).1 = w.start.replies.getD 0 (.ok "")
        cases w.start.replies <;> rfl
      | succ i =>
        rw [ih h (by simpa using hv), hreplies, hasks]
        show w.start.replies.tail.getD i (.ok "") = w.start.replies.getD (i + 1) (.ok "")
        cases w.start.replies <;> rfl

end Follow

theorem ledger_finish (f : Progress → Event) (g : Progress → Outcome) (p : Progress) :
    ((do let q ← get; Step.record [f q]; pure (g q) : Step Outcome).leaves p).ledger = p.ledger :=
  have hdoes : Does (do let q ← get; Step.record [f q]; pure (g q)) p [.note (f p)] (g p) :=
    .get_bind ((Does.record [_] p).seq_pure _)
  hdoes.ledger_leaves (by simp [Deed.Quiet, Deed.question?, Deed.call?])

/-- A move asks and calls by its visits only. -/
theorem Move.follow_visits (a : Advisor) (host : Host) (p : Progress) (move : Move) :
    Follow a p.ledger (move.visits a host p) (move.leaves a host p).ledger := by
  cases move with
  | analyze => exact a.ledger_analyze host p
  | report loaded => exact a.ledger_report loaded p
  | profile => exact ⟨rfl, rfl⟩
  | compile => exact ⟨rfl, rfl⟩
  | run =>
    unfold visits leaves Advisor.run
    rw [EStateM.run_bind]
    cases hx : (a.analyze host).run p with
    | error f q =>
      rw [Step.leaves_bind_of_error hx, ← Step.leaves_of_error hx]
      exact a.ledger_analyze host p
    | ok loaded q =>
      have hq : q.ledger = p.ledger := Step.leaves_of_ok hx ▸ a.ledger_analyze host p
      rw [Step.leaves_bind_of_ok hx]
      dsimp only
      cases hy : (a.report loaded).run q with
      | error f r =>
        rw [Step.leaves_bind_of_error hy, ← Step.leaves_of_error hy]
        exact (a.ledger_report loaded q).trans hq
      | ok u r =>
        have hr : r.ledger = p.ledger :=
          (Step.leaves_of_ok hy ▸ a.ledger_report loaded q).trans hq
        rw [Step.leaves_bind_of_ok hy]
        refine ⟨hr, ?_⟩
        cases hz : (a.runProfiler host).run r with
        | error f s =>
          rw [Step.leaves_bind_of_error hz, ← Step.leaves_of_error hz]
          exact rfl
        | ok profiler s =>
          rw [Step.leaves_bind_of_ok hz, ← Step.leaves_of_ok hz]
          refine ⟨rfl, ?_⟩
          cases hw : (a.runCompiler host).run ((a.runProfiler host).leaves r) with
          | error f t =>
            rw [Step.leaves_bind_of_error hw, ← Step.leaves_of_error hw]
            exact rfl
          | ok compiler t =>
            rw [Step.leaves_bind_of_ok hw, ← Step.leaves_of_ok hw]
            exact ledger_finish _ _ _

namespace Advisor

theorem follow_visits (a : Advisor) (moves : List (Host × Move)) (p : Progress) :
    Follow a p.ledger (a.visits moves p) (a.leavesAll moves p).ledger := by
  induction moves generalizing p with
  | nil => exact rfl
  | cons hostMove moves ih =>
    obtain ⟨host, move⟩ := hostMove
    exact (move.follow_visits a host p).append (ih _)

/-- **No tool is called without consent, and every reply goes to its own question**, in whatever
order an advisor is used, whatever the replies and the programs are, and wherever the writer is
full. -/
theorem calls_only_with_consent (profiler compiler output : String) (format : Format)
    (profile compile : Decision) (moves : List (Host × Move)) (p : Progress) :
    let a : Advisor := ⟨.profiler profiler, .compiler compiler output, format, profile, compile⟩
    let q := a.leavesAll moves p
    let vs := a.visits moves p
    (∀ v ∈ vs,
      (v.part a).questions = (if a.decision v.role = .ask then [v.role.question] else []) ∧
      (v.part a).calls =
        if (a.decision v.role).Consents v.reply ∧
            (a.tool v.role).bannerLine <+: (v.part a).output then
          [match v.role with
            | .profiler => (profiler, ["-collect", "hotspots", Utf8.display p.session.path])
            | .compiler => (compiler, ["-fsycl", Utf8.display p.session.path, "-o", output])]
        else []) ∧
    (∀ i v, (vs.filter (Visit.asks a))[i]? = some v → v.reply = p.replies.getD i (.ok "")) ∧
    q.trace.questions = p.trace.questions ++ (vs.flatMap fun v => (v.part a).questions) ∧
    q.trace.calls = p.trace.calls ++ vs.flatMap fun v => (v.part a).calls := by
  intro a q vs
  have hfollow : Follow a p.ledger vs q.ledger := a.follow_visits moves p
  refine ⟨fun v hv => ⟨questions_part_toolStep .., ?_⟩, fun i v => hfollow.reply,
    hfollow.questions, hfollow.calls⟩
  have hcall : (a.tool v.role).callOn v.start.session.path = match v.role with
      | .profiler => (profiler, ["-collect", "hotspots", Utf8.display p.session.path])
      | .compiler => (compiler, ["-fsycl", Utf8.display p.session.path, "-o", output]) := by
    rw [hfollow.path v hv]
    cases v.role <;> rfl
  exact hcall ▸ calls_part_toolStep ..

/-- The reply that declines the profiler does not reach the compiler. -/
example :
    let host : Host := ⟨fun _ => .error .missing, fun program _ => .error (.notFound program)⟩
    (({} : Advisor).leavesAll [(host, .profile), (host, .compile)]
      { session := ⟨[0x61], []⟩, replies := [.ok "n\n", .ok "y\n"] }).trace.calls =
        [("icpx", ["-fsycl", "a", "-o", "optimized_output.exe"])] := by
  decide +kernel

end Advisor

end LoopAdvice
