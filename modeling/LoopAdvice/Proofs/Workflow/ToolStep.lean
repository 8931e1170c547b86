import LoopAdvice.Proofs.Consent.Replies
import LoopAdvice.Proofs.Run.Course

/-! # What the step of a tool asks and calls

The step of a tool asks its question if nothing was decided beforehand, and takes the next reply for
it (`questions_part_toolStep`, `replies_leaves_toolStep`). With consent it announces the tool, and it
calls the tool if its banner was written in full, once, and not otherwise (`calls_part_toolStep`). -/

namespace LoopAdvice

/-! ### The step of a tool -/

namespace Tool

def bannerLine (tool : Tool) : Bytes := Utf8.bytesOf (tool.banner ++ "\n")

/-- The call of a tool on a source file. -/
def callOn (tool : Tool) (path : Bytes) : String × List String := (tool.program, tool.args path)

theorem quiet_echoDeeds (tool : Tool) (answer : Except ToolFault ToolOutput) :
    ∀ d ∈ tool.echoDeeds answer ++ tool.hintDeeds answer, d.Quiet := by
  unfold echoDeeds hintDeeds Deed.Quiet
  rcases answer with (program | ⟨program, cause⟩) | o
  · simp [Deed.question?, Deed.call?]
  · simp
  · by_cases hs : o.succeeded <;> by_cases he : o.stderr = "" <;>
      simp [hs, he, Deed.question?, Deed.call?]

/-- The banner fits if the writer takes all of its line. -/
def BannerFits (tool : Tool) (room : Option Room) : Prop := ∀ r ∈ room, tool.bannerLine.length ≤ r.left

/-- The banner is refused exactly if it does not fit. -/
theorem fault?_banner_eq_none_iff {tool : Tool} {room : Option Room} :
    (Deed.write toolWriting (tool.banner ++ "\n")).fault? room = none ↔ tool.BannerFits room :=
  Option.map_eq_none_iff.trans refusal?_eq_none_iff

theorem deeds_eq (tool : Tool) (run : Runner) (path : Bytes) :
    tool.deeds run path = .write toolWriting (tool.banner ++ "\n") ::
      .note (.toolInvoked tool.program (tool.args path)) ::
      .call tool.program (tool.args path) (tool.answer run path) ::
      (tool.echoDeeds (tool.answer run path) ++ tool.hintDeeds (tool.answer run path)) := by
  simp only [deeds, callDeeds, List.cons_append, List.nil_append]

/-- Behind a banner that fits the call is recorded and made. -/
theorem exists_course_deeds_of_fits {tool : Tool} {room : Option Room} (h : tool.BannerFits room)
    (run : Runner) (path : Bytes) :
    ∃ room', course room (tool.deeds run path) = .write toolWriting (tool.banner ++ "\n") ::
      .note (.toolInvoked tool.program (tool.args path)) ::
      course room' (.call tool.program (tool.args path) (tool.answer run path) ::
        (tool.echoDeeds (tool.answer run path) ++ tool.hintDeeds (tool.answer run path))) := by
  have hbanner : (Deed.write toolWriting (tool.banner ++ "\n")).fault? room = none :=
    fault?_banner_eq_none_iff.mpr h
  rw [tool.deeds_eq, course_cons_of_none hbanner, course_cons_of_none rfl]
  exact ⟨_, rfl⟩

theorem course_deeds_of_fits {tool : Tool} {room : Option Room} (h : tool.BannerFits room)
    (run : Runner) (path : Bytes) :
    ∃ after, course room (tool.deeds run path) = tool.callDeeds run path ++ after ∧
      ∀ d ∈ after, d.Quiet := by
  obtain ⟨room', hcourse⟩ := exists_course_deeds_of_fits h run path
  obtain ⟨after, hafter, hmem⟩ := exists_course_cons room'
    (.call tool.program (tool.args path) (tool.answer run path))
    (tool.echoDeeds (tool.answer run path) ++ tool.hintDeeds (tool.answer run path))
  rw [hcourse, hafter]
  exact ⟨after, rfl, fun d hd => tool.quiet_echoDeeds _ d (hmem d hd)⟩

theorem course_deeds_of_not_fits {tool : Tool} {room : Option Room} (h : ¬ tool.BannerFits room)
    (run : Runner) (path : Bytes) :
    course room (tool.deeds run path) = [.write toolWriting (tool.banner ++ "\n")] := by
  obtain ⟨f, hfault⟩ := Option.ne_none_iff_exists'.mp (mt fault?_banner_eq_none_iff.mp h)
  exact course_cons_of_some hfault

theorem question?_deeds (tool : Tool) (run : Runner) (path : Bytes) :
    ∀ d ∈ tool.deeds run path, d.question? = none := by
  intro d hd
  have hquiet := (tool.quiet_deeds run path d hd).2
  rwa [d.isQuestion_eq, Option.isSome_eq_false_iff, Option.isNone_iff_eq_none] at hquiet

theorem questions_performed_deeds (tool : Tool) (room : Option Room) (run : Runner) (path : Bytes) :
    (performed room (tool.deeds run path)).questions = [] := by
  rw [questions_performed, List.filterMap_eq_nil_iff]
  exact fun d hd => tool.question?_deeds run path d (mem_of_mem_course hd)

/-- The banner is there to be seen in full if it fits, and only then. -/
theorem bannerLine_isPrefixOf_iff (tool : Tool) (room : Option Room) (run : Runner) (path : Bytes) :
    tool.bannerLine <+: (performed room (tool.deeds run path)).output ↔ tool.BannerFits room := by
  have hwrote : Trace.output ((Deed.write toolWriting (tool.banner ++ "\n")).actions room) =
      kept room tool.bannerLine := List.append_nil _
  have hdeeds : ∃ after, tool.deeds run path =
      .write toolWriting (tool.banner ++ "\n") :: after := ⟨_, rfl⟩
  obtain ⟨after, hafter⟩ := hdeeds
  rw [hafter, performed_cons, Trace.output_append, hwrote]
  by_cases h : tool.BannerFits room
  · have hkept : kept room tool.bannerLine = tool.bannerLine := by
      cases room with
      | none => rfl
      | some r => exact List.take_of_length_le (h r rfl)
    rw [hkept]
    exact iff_of_true (List.prefix_append _ _) h
  · rw [if_neg (mt fault?_banner_eq_none_iff.mp h)]
    refine iff_of_false (fun hprefix => h fun r hr => ?_) h
    obtain rfl := hr
    have hlength := hprefix.length_le
    rw [show Trace.output [] = [] from rfl, List.append_nil, kept, List.length_take] at hlength
    omega

theorem calls_performed_deeds (tool : Tool) (room : Option Room) (run : Runner) (path : Bytes) :
    (performed room (tool.deeds run path)).calls =
      if tool.bannerLine <+: (performed room (tool.deeds run path)).output then
        [tool.callOn path] else [] := by
  rw [calls_performed]
  by_cases h : tool.BannerFits room
  · rw [if_pos ((tool.bannerLine_isPrefixOf_iff room run path).mpr h)]
    obtain ⟨after, hafter, hquiet⟩ := course_deeds_of_fits h run path
    rw [hafter, List.filterMap_append,
      List.filterMap_eq_nil_iff.mpr fun d hd => (hquiet d hd).2]
    rfl
  · rw [if_neg (mt (tool.bannerLine_isPrefixOf_iff room run path).mp h),
      course_deeds_of_not_fits h]
    rfl

end Tool

/-- What is seen of the step of a tool: its question if that is asked, and then the tool if it may
run. -/
theorem performed_toolStepDeeds (room : Option Room) (host : Host) (decision : Decision)
    (question : String) (tool : Tool) (path : Bytes) (replies : List Reply) :
    performed room (toolStepDeeds host decision question tool path replies) =
      (if decision = .ask then [.asked question] else []) ++
        if decision.grants replies then performed room (tool.deeds host.run path)
        else [] := by
  unfold toolStepDeeds
  cases decision with
  | yes => rfl
  | no => rfl
  | ask =>
    simp only [Decision.deeds, List.singleton_append, if_true]
    cases hreply : (nextReply replies).1 with
    | error cause =>
      have hgrants : Decision.ask.grants replies = false := by
        rw [Decision.grants, hreply]
        rfl
      rw [hgrants, performed_cons, if_neg (by simp [Deed.fault?])]
      rfl
    | ok reply =>
      rw [performed_cons, if_pos (show (Deed.ask question (.ok reply)).fault? room = none from rfl),
        room_map_less_size rfl]
      cases Decision.ask.grants replies <;> rfl

section Question
variable (decision : Decision) (question : String)

/-! A question that may be asked is no output, calls nothing and records nothing. -/

theorem output_question :
    Trace.output (if decision = .ask then [.asked question] else []) = [] := by
  split_ifs <;> rfl

theorem calls_question : Trace.calls (if decision = .ask then [.asked question] else []) = [] := by
  split_ifs <;> rfl

end Question

/-- The step of a tool asks its question if nothing was decided beforehand. -/
theorem questions_performed_toolStepDeeds (room : Option Room) (host : Host) (decision : Decision)
    (question : String) (tool : Tool) (path : Bytes) (replies : List Reply) :
    (performed room (toolStepDeeds host decision question tool path replies)).questions =
      if decision = .ask then [question] else [] := by
  rw [performed_toolStepDeeds, Trace.questions_append]
  have hnone : Trace.questions (if decision.grants replies then
      performed room (tool.deeds host.run path) else []) = [] := by
    split_ifs
    · exact tool.questions_performed_deeds ..
    · rfl
  rw [hnone]
  split_ifs <;> rfl

section ToolStep
variable (host : Host) (decision : Decision) (question : String) (tool : Tool) (p : Progress)

theorem questions_part_toolStep :
    ((Advisor.toolStep host decision question tool).part p).questions =
      if decision = .ask then [question] else [] := by
  rw [(Advisor.does_toolStep host decision question tool p).part_eq,
    questions_performed_toolStepDeeds]

/-- The step of a tool calls it with consent and after its banner, once, and not otherwise. -/
theorem calls_part_toolStep :
    ((Advisor.toolStep host decision question tool).part p).calls =
      if decision.Consents (nextReply p.replies).1 ∧
          tool.bannerLine <+: ((Advisor.toolStep host decision question tool).part p).output
      then [tool.callOn p.session.path] else [] := by
  rw [(Advisor.does_toolStep host decision question tool p).part_eq, performed_toolStepDeeds]
  simp only [Trace.calls_append, Trace.output_append, calls_question, output_question,
    List.nil_append, ← Decision.grants_iff]
  cases decision.grants p.replies with
  | true => simpa using tool.calls_performed_deeds p.room host.run p.session.path
  | false => rfl

/-- The step of a tool takes a reply if it asks its question, whatever becomes of it. -/
theorem replies_leaves_toolStep :
    ((Advisor.toolStep host decision question tool).leaves p).replies =
      if decision = .ask then p.replies.tail else p.replies := by
  have hquestions := questions_part_toolStep host decision question tool p
  rw [(Advisor.does_toolStep host decision question tool p).part_eq,
    questions_performed] at hquestions
  have hcount : ∀ ds : List Deed,
      ds.countP Deed.isQuestion = (ds.filterMap Deed.question?).length := by
    intro ds
    rw [List.length_filterMap_eq_countP]
    exact List.countP_congr fun d _ => by rw [d.isQuestion_eq]
  rw [(Advisor.does_toolStep host decision question tool p).leaves_eq, p.replies_afterAll, hcount,
    hquestions]
  split_ifs <;> simp

end ToolStep

end LoopAdvice
