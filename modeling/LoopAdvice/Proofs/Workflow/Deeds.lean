import LoopAdvice.Proofs.Run.Deed

/-! # The deeds of the workflow

For every step of the advisor, the deeds it does, in order, as a list that is read off what the files,
the replies and the programs answer. The list of a whole run (`Advisor.runDeeds`) is: the source is
read and announced, the report is written, the question before the profiler is asked and the profiler
is run, the question before the compiler is asked and the compiler is run. Main statement: a run does
these deeds and nothing else (`does_run`). -/

namespace LoopAdvice

/-! ### The deeds of a tool -/

namespace Tool

def answer (tool : Tool) (run : Runner) (path : Bytes) : Except ToolFault ToolOutput :=
  run tool.program (tool.args path)

def callDeeds (tool : Tool) (run : Runner) (path : Bytes) : List Deed :=
  [.write toolWriting (tool.banner ++ "\n")] ++
    ([.note (.toolInvoked tool.program (tool.args path))] ++
      [.call tool.program (tool.args path) (tool.answer run path)])

/-- What is told and echoed of a program that ran, and told of one that is not installed. -/
def echoDeeds (tool : Tool) : Except ToolFault ToolOutput → List Deed
  | .ok o =>
    [.note (.toolFinished tool.program o.status)] ++
      ((if o.succeeded then [] else [.note (.toolUnsuccessful tool.program o.status)]) ++
        ([.write toolWriting (o.stdout ++ "\n")] ++
          if o.stderr = "" then []
          else [.write toolWriting (tool.errorLabel ++ " " ++ o.stderr ++ "\n")]))
  | .error (.notFound program) => [.note (.toolMissing program)]
  | .error (.failed _ _) => []

def hintDeeds (tool : Tool) : Except ToolFault ToolOutput → List Deed
  | .error (.notFound _) => [.write writing (tool.missingHint ++ "\n")]
  | _ => []

/-- The banner, the call, and what follows it. -/
def deeds (tool : Tool) (run : Runner) (path : Bytes) : List Deed :=
  tool.callDeeds run path ++ tool.echoDeeds (tool.answer run path) ++
    tool.hintDeeds (tool.answer run path)

/-- What an invocation makes of a call that fails. -/
def faultOf (tool : Tool) : ToolFault → Fault
  | .notFound program => .toolUnavailable program tool.missingHint
  | .failed program cause => .failed (ToolFault.attempt program) cause

/-- What becomes of a tool, given whether it may run. -/
def outcome (tool : Tool) (run : Runner) (path : Bytes) (allowed : Bool) : ToolOutcome :=
  if allowed then
    match tool.answer run path with
    | .ok _ => .ran
    | .error _ => .unavailable
  else .skipped

end Tool

/-! ### Questions -/

namespace Decision

def deeds (question : String) (replies : List Reply) : Decision → List Deed
  | .ask => [.ask question (nextReply replies).1]
  | _ => []

/-- Whether a tool may run, given the reply to its question if that is asked. -/
def consents (reply : String) : Decision → Bool
  | .yes => true
  | .no => false
  | .ask => accepts reply

/-- Whether a tool may run, given the replies that are left. -/
def grants (replies : List Reply) (decision : Decision) : Bool :=
  decision.consents (replyText (nextReply replies).1)

/-- The replies that are left after a question that may have been asked. -/
def repliesAfter (replies : List Reply) : Decision → List Reply
  | .ask => replies.tail
  | _ => replies

end Decision

def toolStepDeeds (host : Host) (decision : Decision) (question : String) (tool : Tool)
    (path : Bytes) (replies : List Reply) : List Deed :=
  decision.deeds question replies ++ if decision.grants replies then tool.deeds host.run path else []

/-! ### The analysis -/

def Host.loads (host : Host) (path : Bytes) : Bool := (host.read path).isOk

/-- The suggestions that an analysis adds. -/
def Host.advice (host : Host) (path : Bytes) : List Suggestion :=
  match host.read path with
  | .ok content =>
    List.replicate (Loop.candidates (Utf8.decodeLossy content)).length .parallelize ++
      [.vectorize, .memory]
  | .error _ => []

namespace Advisor

def sayDeed (a : Advisor) (line : String) : Deed :=
  match a.format with
  | .text => .write writing (line ++ "\n")
  | .json => .note (.progress line)

def missingDeed (a : Advisor) (path : Bytes) : Deed :=
  match a.format with
  | .text => .write writing ((Fault.notFound path).message ++ "\n")
  | .json => .note (.sourceMissing (Fault.notFound path).message)

/-- A scan between its two lines of progress, in a session of `size` suggestions. -/
def scanDeeds (a : Advisor) (text : List Char) (size : ℕ) : List Deed :=
  [a.sayDeed "Analyzing code..."] ++
    ((((Loop.candidates text).map .candidateFound).map .note ++ [.grow (Session.earned text)]) ++
      ([a.sayDeed "Analysis complete."] ++ ([.grow [.vectorize, .memory]] ++
        [.note (.scanFinished (Loop.candidates text).length
          (size + (Loop.candidates text).length + 2))])))

/-- The source is read, and scanned or announced as missing. -/
def analyzeDeeds (a : Advisor) (host : Host) (s : Session) : List Deed :=
  [.read s.path (host.read s.path)] ++
    match host.read s.path with
    | .ok content =>
      (SourceDocument.readEvents s.path content).map .note ++
        a.scanDeeds (Utf8.decodeLossy content) s.size
    | .error _ => [a.missingDeed s.path]

def reportDeed (a : Advisor) (s : Session) (loaded : Bool) : Deed :=
  .write writing ((Report.ofSession s loaded).render a.format)

def profilerDeeds (a : Advisor) (host : Host) (path : Bytes) (replies : List Reply) : List Deed :=
  toolStepDeeds host a.profile profileQuestion a.profiler path replies

def compilerDeeds (a : Advisor) (host : Host) (path : Bytes) (replies : List Reply) : List Deed :=
  toolStepDeeds host a.compile compileQuestion a.compiler path replies

def outcome (a : Advisor) (host : Host) (s : Session) (replies : List Reply) : Outcome where
  loaded := host.loads s.path
  suggestions := (s.add (host.advice s.path)).texts
  profiler := a.profiler.outcome host.run s.path (a.profile.grants replies)
  compiler :=
    a.compiler.outcome host.run s.path (a.compile.grants (a.profile.repliesAfter replies))

/-- The deeds of a whole run, in order: the source, the report, the profiler, the compiler. -/
def runDeeds (a : Advisor) (host : Host) (s : Session) (replies : List Reply) : List Deed :=
  a.analyzeDeeds host s ++
    ([a.reportDeed (s.add (host.advice s.path)) (host.loads s.path)] ++
      (a.profilerDeeds host s.path replies ++
        (a.compilerDeeds host s.path (a.profile.repliesAfter replies) ++
          [.note (.sessionDone s.path (host.loads s.path) (s.add (host.advice s.path)).size
            (a.outcome host s replies).profiler (a.outcome host s replies).compiler)])))

end Advisor

/-! ### Every step does its deeds -/

namespace Advisor

open Step

theorem does_say (a : Advisor) (line : String) (p : Progress) :
    Does (a.say line) p [a.sayDeed line] () := by
  unfold say sayDeed
  cases a.format with
  | text => exact .write _ _ p
  | json => exact .record [_] p

theorem does_announceMissing (a : Advisor) (path : Bytes) (p : Progress) :
    Does (a.announceMissing (.notFound path)) p [a.missingDeed path] () := by
  unfold announceMissing missingDeed
  cases a.format with
  | text => exact .write _ _ p
  | json => exact .record [_] p

theorem does_scan (text : List Char) (p : Progress) :
    Does (scan text) p
      (((Loop.candidates text).map .candidateFound).map .note ++ [.grow (Session.earned text)])
      (Loop.candidates text).length :=
  (Does.record _ p).seq ((Does.grow (Session.earned text) _).seq (.pure _ _))

@[simp] theorem growth_sayDeed (a : Advisor) (line : String) : (a.sayDeed line).growth = [] := by
  unfold sayDeed
  cases a.format <;> rfl

theorem does_suggest (p : Progress) :
    Does (modify fun p => { p with session := p.session.suggestVectorization.suggestMemory }) p
      [.grow [.vectorize, .memory]] () := by
  have h : ∀ s : Session, s.suggestVectorization.suggestMemory = s.add [.vectorize, .memory] :=
    fun s => by simp [Session.suggestVectorization, Session.suggestMemory, Session.add]
  simp only [h]
  exact .grow _ p

theorem does_finish {loops total : ℕ} {p : Progress} (h : p.session.size = total) :
    Does (do record [.scanFinished loops (← get).session.size]; pure true) p
      [.note (.scanFinished loops total)] true := by
  subst h
  exact .get_bind ((Does.record _ p).seq (.pure _ _))

theorem does_scanDocument (a : Advisor) (text : List Char) (p : Progress) :
    Does (do
        a.say "Analyzing code..."
        let loops ← scan text
        a.say "Analysis complete."
        modify fun p => { p with session := p.session.suggestVectorization.suggestMemory }
        record [.scanFinished loops (← get).session.size]
        pure true) p (a.scanDeeds text p.session.size) true := by
  refine (a.does_say _ p).seq ((does_scan text _).bind ((a.does_say _ _).seq
    ((does_suggest _).seq (does_finish ?_))))
  simp only [← Progress.afterAll_append, Progress.session_afterAll, Session.size_add,
    List.flatMap_append, Deed.flatMap_growth_map_note, List.flatMap_cons, List.flatMap_nil,
    growth_sayDeed, Deed.growth_grow, Session.earned]
  simp [Nat.add_assoc]

theorem does_analyze (a : Advisor) (host : Host) (p : Progress) :
    Does (a.analyze host) p (a.analyzeDeeds host p.session) (host.loads p.session.path) := by
  unfold analyze analyzeDeeds Host.loads
  refine .get_bind ?_
  cases h : host.read p.session.path with
  | error fault =>
    simp only [h]
    cases fault with
    | missing =>
      exact .cons rfl rfl ((Does.record [] p).bind ((a.does_announceMissing _ _).bind (.pure _ _)))
    | directory =>
      exact .cons rfl rfl ((Does.record [] p).bind ((a.does_announceMissing _ _).bind (.pure _ _)))
    | failed cause =>
      have hrecord : (Step.record []).run p = .ok () p := Does.record [] p
      refine .cons_of_fault rfl ?_ _
      simp only [SourceDocument.load, EStateM.run_bind, hrecord]
      rfl
  | ok content =>
    simp only [h, SourceDocument.load]
    refine .cons rfl rfl ((Does.record _ p).seq ?_)
    have hs : (p.afterAll ((SourceDocument.readEvents p.session.path content).map .note)).session =
        p.session := by
      rw [p.session_afterAll, Deed.flatMap_growth_map_note]
      simp [Session.add]
    have hd := a.does_scanDocument (Utf8.decodeLossy content)
      (p.afterAll ((SourceDocument.readEvents p.session.path content).map .note))
    rw [hs] at hd
    exact hd

theorem does_report (a : Advisor) (loaded : Bool) (p : Progress) :
    Does (a.report loaded) p [a.reportDeed p.session loaded] () :=
  .get_bind (.write _ _ p)

theorem does_consent (decision : Decision) (question : String) (p : Progress) :
    Does (consent decision question) p (decision.deeds question p.replies)
      (decision.grants p.replies) := by
  cases decision with
  | yes => exact .pure _ _
  | no => exact .pure _ _
  | ask => exact (Does.ask question p).bind (.pure _ _)

theorem does_echo (tool : Tool) (o : ToolOutput) (p : Progress) :
    Does (echo tool o) p (tool.echoDeeds (.ok o)) () := by
  have hstreams : ∀ q, Does (do
      writeLine toolWriting o.stdout
      if o.stderr != "" then writeLine toolWriting (tool.errorLabel ++ " " ++ o.stderr)) q
      ([.write toolWriting (o.stdout ++ "\n")] ++
        if o.stderr = "" then []
        else [.write toolWriting (tool.errorLabel ++ " " ++ o.stderr ++ "\n")]) () := by
    intro q
    refine (Does.write _ _ q).seq ?_
    by_cases he : o.stderr = ""
    · simp only [he, bne_self_eq_false, if_true]
      exact .pure _ _
    · simp only [bne_iff_ne.mpr he, he, if_true, if_false]
      exact .write _ _ _
  refine (Does.record [_] p).seq ?_
  cases o.succeeded with
  | true => exact hstreams _
  | false => exact (Does.record [_] _).seq (hstreams _)

section Invoke
variable (tool : Tool) (run : Runner) (path : Bytes) (p : Progress)

/-- An invocation of a tool that runs answers what the tool does. -/
theorem does_invoke {o : ToolOutput} (h : tool.answer run path = .ok o) :
    Does (invoke tool run path) p (tool.callDeeds run path ++ tool.echoDeeds (.ok o)) o := by
  have hcall : ∀ q, (call run tool.program (tool.args path)).run q =
      .ok (.ok o) (q.after (.call tool.program (tool.args path) (.ok o))) :=
    fun q => congrArg (fun answer => EStateM.Result.ok answer _) h
  unfold Tool.callDeeds
  rw [h, List.append_assoc, List.append_assoc]
  refine (Does.write _ _ p).seq ((Does.record [_] _).seq ?_)
  refine .cons rfl ?_ ((does_echo tool o _).seq_pure _)
  rw [EStateM.run_bind, hcall]

/-- An invocation of a tool that does not run fails. -/
theorem throws_invoke {fault : ToolFault} (h : tool.answer run path = .error fault) :
    Throws (invoke tool run path) p (tool.callDeeds run path ++ tool.echoDeeds (.error fault))
      (tool.faultOf fault) := by
  have hcall : ∀ q, (call run tool.program (tool.args path)).run q =
      .ok (.error fault) (q.after (.call tool.program (tool.args path) (.error fault))) :=
    fun q => congrArg (fun answer => EStateM.Result.ok answer _) h
  unfold Tool.callDeeds
  rw [h, List.append_assoc, List.append_assoc]
  refine (Does.write _ _ p).bind_throws ((Does.record [_] _).bind_throws ?_)
  cases fault with
  | notFound program =>
    refine .cons rfl ?_ ((Does.record [_] _).seq_throw _)
    rw [EStateM.run_bind, hcall]
    rfl
  | failed program cause =>
    refine .cons_of_fault rfl ?_ _
    rw [EStateM.run_bind, hcall]
    rfl

end Invoke

theorem recover_failed (attempt : String) (cause : Cause) :
    recover (.failed attempt cause) = throw (.failed attempt cause) := rfl

theorem does_runTool (host : Host) (tool : Tool) (p : Progress) :
    Does (runTool host tool) p (tool.deeds host.run p.session.path)
      (tool.outcome host.run p.session.path true) := by
  unfold Tool.deeds Tool.outcome
  refine .get_bind ?_
  cases h : tool.answer host.run p.session.path with
  | ok o =>
    have hhint : tool.hintDeeds (.ok o) = [] := rfl
    rw [hhint, List.append_nil]
    have hran : Does (do let _ ← invoke tool host.run p.session.path; pure .ran) p
        (tool.callDeeds host.run p.session.path ++ tool.echoDeeds (.ok o) ++ []) ToolOutcome.ran :=
      (does_invoke tool host.run p.session.path p h).bind (.pure ToolOutcome.ran _)
    rw [List.append_nil] at hran
    exact hran.tryCatch recover_failed
  | error fault =>
    refine ((throws_invoke tool host.run p.session.path p h).bind _).tryCatch recover_failed
      fun hpass => ?_
    cases fault with
    | notFound program => exact (Does.write _ _ _).seq (.pure _ _)
    | failed program cause =>
      refine absurd hpass (not_passes_of_mem (d := .call tool.program (tool.args p.session.path)
        (tool.answer host.run p.session.path)) ?_ fun room => ?_)
      · simp [Tool.callDeeds]
      · rw [h]; simp [Deed.fault?]

theorem does_toolStep (host : Host) (decision : Decision) (question : String) (tool : Tool)
    (p : Progress) :
    Does (toolStep host decision question tool) p
      (toolStepDeeds host decision question tool p.session.path p.replies)
      (tool.outcome host.run p.session.path (decision.grants p.replies)) := by
  have hs : (p.afterAll (decision.deeds question p.replies)).session = p.session := by
    cases decision <;> rfl
  refine (does_consent decision question p).bind ?_
  cases decision.grants p.replies with
  | true =>
    have h := does_runTool host tool (p.afterAll (decision.deeds question p.replies))
    rw [hs] at h
    exact h
  | false => exact .pure _ _

/-! ### The whole run -/

theorem earned_eq_replicate (text : List Char) :
    Session.earned text = List.replicate (Loop.candidates text).length .parallelize :=
  List.map_const'

theorem growth_analyzeDeeds (a : Advisor) (host : Host) (s : Session) :
    (a.analyzeDeeds host s).flatMap Deed.growth = host.advice s.path := by
  unfold analyzeDeeds Host.advice
  cases host.read s.path with
  | error fault =>
    unfold missingDeed
    cases a.format <;> rfl
  | ok content =>
    simp only [scanDeeds, List.flatMap_append, List.flatMap_cons, List.flatMap_nil,
      Deed.flatMap_growth_map_note, growth_sayDeed, Deed.growth_read, Deed.growth_grow,
      Deed.growth_note, List.nil_append, List.append_nil, earned_eq_replicate]

theorem isQuestion_analyzeDeeds (a : Advisor) (host : Host) (s : Session) :
    ∀ d ∈ a.analyzeDeeds host s, d.isQuestion = false := by
  unfold analyzeDeeds
  cases host.read s.path with
  | error fault =>
    unfold missingDeed
    cases a.format <;> simp [Deed.isQuestion]
  | ok content =>
    unfold scanDeeds sayDeed
    cases a.format <;> simp [Deed.isQuestion, or_imp, forall_and]

end Advisor

theorem Tool.quiet_deeds (tool : Tool) (run : Runner) (path : Bytes) :
    ∀ d ∈ tool.deeds run path, d.growth = [] ∧ d.isQuestion = false := by
  unfold deeds callDeeds echoDeeds hintDeeds
  rcases tool.answer run path with (program | ⟨program, cause⟩) | o
  · simp [Deed.growth, Deed.isQuestion]
  · simp [Deed.growth, Deed.isQuestion]
  · by_cases hs : o.succeeded <;> by_cases he : o.stderr = "" <;>
      simp [hs, he, Deed.growth, Deed.isQuestion]

theorem growth_toolStepDeeds {host : Host} {decision : Decision} {question : String} {tool : Tool}
    {path : Bytes} {replies : List Reply} :
    ∀ d ∈ toolStepDeeds host decision question tool path replies, d.growth = [] := by
  intro d hd
  rcases List.mem_append.mp hd with hd | hd
  · cases decision <;> simp [Decision.deeds] at hd
    subst hd
    rfl
  · split_ifs at hd
    · exact (tool.quiet_deeds host.run path d hd).1
    · cases hd

/-- The step of a tool adds no suggestion. -/
theorem session_toolStepDeeds (host : Host) (decision : Decision) (question : String) (tool : Tool)
    (path : Bytes) (replies : List Reply) (p : Progress) :
    (p.afterAll (toolStepDeeds host decision question tool path replies)).session = p.session := by
  rw [p.session_afterAll, List.flatMap_eq_nil_iff.mpr growth_toolStepDeeds]
  simp [Session.add]

/-- The step of a tool takes one reply if its question is asked. -/
theorem replies_toolStepDeeds (host : Host) (decision : Decision) (question : String) (tool : Tool)
    (path : Bytes) (p : Progress) :
    (p.afterAll (toolStepDeeds host decision question tool path p.replies)).replies =
      decision.repliesAfter p.replies := by
  have hquiet : (if decision.grants p.replies then tool.deeds host.run path else []).countP
      Deed.isQuestion = 0 := by
    rw [List.countP_eq_zero]
    intro d hd
    split_ifs at hd
    · simp [(tool.quiet_deeds host.run path d hd).2]
    · cases hd
  rw [p.replies_afterAll, toolStepDeeds, List.countP_append, hquiet]
  cases decision <;> simp [Decision.deeds, Decision.repliesAfter, Deed.isQuestion]

namespace Advisor

open Step

/-- What follows the report. -/
theorem does_tools (a : Advisor) (host : Host) (loaded : Bool) (q : Progress) :
    Does (do
        let profiler ← a.runProfiler host
        let compiler ← a.runCompiler host
        let session := (← get).session
        record [.sessionDone session.path loaded session.size profiler compiler]
        pure (⟨loaded, session.texts, profiler, compiler⟩ : Outcome)) q
      (a.profilerDeeds host q.session.path q.replies ++
        (a.compilerDeeds host q.session.path (a.profile.repliesAfter q.replies) ++
          [.note (.sessionDone q.session.path loaded q.session.size
            (a.profiler.outcome host.run q.session.path (a.profile.grants q.replies))
            (a.compiler.outcome host.run q.session.path
              (a.compile.grants (a.profile.repliesAfter q.replies))))]))
      ⟨loaded, q.session.texts,
        a.profiler.outcome host.run q.session.path (a.profile.grants q.replies),
        a.compiler.outcome host.run q.session.path
          (a.compile.grants (a.profile.repliesAfter q.replies))⟩ := by
  have hs : (q.afterAll (a.profilerDeeds host q.session.path q.replies)).session = q.session :=
    session_toolStepDeeds ..
  have hr : (q.afterAll (a.profilerDeeds host q.session.path q.replies)).replies =
      a.profile.repliesAfter q.replies :=
    replies_toolStepDeeds ..
  refine (does_toolStep host a.profile profileQuestion a.profiler q).bind ?_
  have hcompiler := does_toolStep host a.compile compileQuestion a.compiler
    (q.afterAll (a.profilerDeeds host q.session.path q.replies))
  rw [hs, hr] at hcompiler
  refine hcompiler.bind (.get_bind ?_)
  rw [session_toolStepDeeds, hs]
  exact (Does.record [_] _).seq_pure _

/-- **A run does its deeds, in order, and nothing else**, up to the first that fails. -/
theorem does_run (a : Advisor) (host : Host) (p : Progress) :
    Does (a.run host) p (a.runDeeds host p.session p.replies)
      (a.outcome host p.session p.replies) := by
  have hs : (p.afterAll (a.analyzeDeeds host p.session)).session =
      p.session.add (host.advice p.session.path) := by
    rw [p.session_afterAll, a.growth_analyzeDeeds]
  have hr : (p.afterAll (a.analyzeDeeds host p.session)).replies = p.replies := by
    rw [p.replies_afterAll, List.countP_eq_zero.mpr fun d hd => by
      simp [a.isQuestion_analyzeDeeds host p.session d hd]]
    rfl
  refine (a.does_analyze host p).bind ?_
  generalize p.afterAll (a.analyzeDeeds host p.session) = q at hs hr ⊢
  have hreport := a.does_report (host.loads p.session.path) q
  rw [hs] at hreport
  refine hreport.seq ?_
  have htools := a.does_tools host (host.loads p.session.path)
    (q.after (a.reportDeed (p.session.add (host.advice p.session.path))
      (host.loads p.session.path)))
  -- a report changes neither the session nor the replies
  rw [show (q.after (a.reportDeed _ _)).session = _ from hs,
    show (q.after (a.reportDeed _ _)).replies = _ from hr] at htools
  exact htools

end Advisor

end LoopAdvice
