import LoopAdvice.Proofs.Run.Course
import LoopAdvice.Proofs.Workflow.Deeds

/-! # How far an analysis comes

An analysis of a source that is read has two lines of progress, and the scan stands between them. In
the text format either line can fail to be written, so a scan may be broken off before its own work or
after it (`course_scanDeeds`). What an analysis answers and what it adds to the session is a table over
what the file system answers and the room of the writer (`Advisor.analysis`). Main statements: an
analysis answers what the table says (`answer_analyze`) and leaves the session grown by what the table
says (`session_leaves_analyze`). -/

namespace LoopAdvice

namespace Advisor

/-- Whether lines of progress can all be told: they are recorded, or the writer takes them all. -/
def Tells (a : Advisor) (room : Option Room) (lines : List String) : Prop :=
  a.format = .text →
    ∀ r ∈ room, (Utf8.bytesOf (String.join (lines.map (· ++ "\n")))).length ≤ r.left

instance (a : Advisor) (room : Option Room) (lines : List String) : Decidable (a.Tells room lines) := by
  unfold Tells; infer_instance

/-- What telling lines of progress fails with, if it does: what the writer refuses them with. -/
def untold? (a : Advisor) (room : Option Room) (lines : List String) : Option Fault :=
  match a.format with
  | .json => none
  | .text => (refusal? room (Utf8.bytesOf (String.join (lines.map (· ++ "\n")))).length).map
      (.failed "failed to write to output")

/-- What an analysis answers, and the suggestions that it adds, given what the file system answers and
the room of the writer. -/
def analysis (a : Advisor) (room : Option Room) (path : Bytes) :
    Except ReadFault Bytes → Except Fault Bool × List Suggestion
  | .error (.failed cause) => (.error (.failed ("failed to read " ++ Utf8.display path) cause), [])
  | .error _ =>
    (match a.untold? room ["File " ++ Utf8.display path ++ " not found."] with
      | none => .ok false
      | some f => .error f, [])
  | .ok content =>
    let hints := List.replicate (Loop.candidates (Utf8.decodeLossy content)).length .parallelize
    (match a.untold? room ["Analyzing code...", "Analysis complete."] with
      | none => .ok true
      | some f => .error f,
      if a.Tells room ["Analyzing code...", "Analysis complete."] then
        hints ++ [.vectorize, .memory]
      else if a.Tells room ["Analyzing code..."] then hints else [])

section Lines
variable {a : Advisor} {room : Option Room}

/-- Lines are told unless the writer refuses them. -/
theorem untold?_eq_none_iff {lines : List String} :
    a.untold? room lines = none ↔ a.Tells room lines := by
  unfold untold? Tells
  cases a.format with
  | json => simp
  | text => simp [refusal?_eq_none_iff]

/-- Only a line that is written can fail. -/
theorem fault?_told (a : Advisor) (room : Option Room) (line : String) (event : Event) :
    Deed.fault? room (match a.format with
      | .text => .write writing (line ++ "\n")
      | .json => .note event) = a.untold? room [line] := by
  obtain ⟨profiler, compiler, format, profile, compile⟩ := a
  cases format <;> simp [untold?, Deed.fault?, writing]

theorem fault?_sayDeed (a : Advisor) (room : Option Room) (line : String) :
    (a.sayDeed line).fault? room = a.untold? room [line] :=
  a.fault?_told room line (.progress line)

theorem fault?_missingDeed (a : Advisor) (room : Option Room) (path : Bytes) :
    (a.missingDeed path).fault? room =
      a.untold? room ["File " ++ Utf8.display path ++ " not found."] :=
  a.fault?_told room (Fault.notFound path).message (.sourceMissing (Fault.notFound path).message)

/-- Of two lines the first is refused, or else the second. -/
theorem untold?_pair (line next : String) : a.untold? room [line, next] =
    (a.untold? room [line]).or (a.untold? (room.map (·.less (a.sayDeed line).size)) [next]) := by
  unfold untold? sayDeed
  cases a.format with
  | json => rfl
  | text =>
    have hlength : (Utf8.bytesOf (String.join ([line, next].map (· ++ "\n")))).length =
        (Utf8.bytesOf (line ++ "\n")).length + (Utf8.bytesOf (next ++ "\n")).length := by
      simp [String.append_assoc, Nat.add_assoc]
    have hone : ∀ text : String, String.join ([text].map (· ++ "\n")) = text ++ "\n" := by simp
    rw [hlength, refusal?_add, hone, hone]
    exact Option.map_or

end Lines

end Advisor

/-! ### Deeds that need nothing -/

/-- A deed that takes no room and cannot fail. -/
def Deed.Free (d : Deed) : Prop := d.size = 0 ∧ ∀ room, d.fault? room = none

namespace Deed.Free

theorem note (event : Event) : (Deed.note event).Free := ⟨rfl, fun _ => rfl⟩

theorem grow (more : List Suggestion) : (Deed.grow more).Free := ⟨rfl, fun _ => rfl⟩

variable {ds : List Deed} (h : ∀ d ∈ ds, d.Free) (room : Option Room)
include h

theorem roomAfter_eq : roomAfter room ds = room := by
  induction ds with
  | nil => rfl
  | cons d ds ih =>
    obtain ⟨⟨hsize, -⟩, hds⟩ := List.forall_mem_cons.mp h
    rw [roomAfter, List.foldl_cons, room_map_less_size hsize]
    exact ih hds

theorem failure_eq : failure room ds = none := by
  induction ds generalizing room with
  | nil => rfl
  | cons d ds ih =>
    obtain ⟨⟨-, hfault⟩, hds⟩ := List.forall_mem_cons.mp h
    rw [failure, hfault]
    exact ih hds _

/-- Deeds that need nothing are done, and what follows them finds the room that they found. -/
theorem course_append (es : List Deed) : course room (ds ++ es) = ds ++ course room es := by
  rw [LoopAdvice.course_append, if_pos (failure_eq h room), roomAfter_eq h,
    course_of_failure_eq_none (failure_eq h room)]

theorem failure_append (es : List Deed) : failure room (ds ++ es) = failure room es := by
  rw [LoopAdvice.failure_append, failure_eq h, roomAfter_eq h, Option.none_or]

end Deed.Free

namespace Advisor

/-! ### The course of an analysis -/

/-- What a scan does of itself, between the two lines of progress. -/
def foundDeeds (text : List Char) : List Deed :=
  ((Loop.candidates text).map .candidateFound).map .note ++ [.grow (Session.earned text)]

/-- What a scan does of itself after both lines. -/
def adviceDeeds (text : List Char) (size : ℕ) : List Deed :=
  [.grow [.vectorize, .memory]] ++ [.note (.scanFinished (Loop.candidates text).length
    (size + (Loop.candidates text).length + 2))]

theorem free_map_note (events : List Event) : ∀ d ∈ events.map Deed.note, d.Free :=
  List.forall_mem_map.mpr fun e _ => .note e

theorem free_foundDeeds (text : List Char) : ∀ d ∈ foundDeeds text, d.Free :=
  List.forall_mem_append.mpr ⟨free_map_note _, List.forall_mem_singleton.mpr (.grow _)⟩

theorem free_adviceDeeds (text : List Char) (size : ℕ) : ∀ d ∈ adviceDeeds text size, d.Free :=
  List.forall_mem_append.mpr
    ⟨List.forall_mem_singleton.mpr (.grow _), List.forall_mem_singleton.mpr (.note _)⟩

theorem scanDeeds_eq (a : Advisor) (text : List Char) (size : ℕ) :
    a.scanDeeds text size = a.sayDeed "Analyzing code..." ::
      (foundDeeds text ++ a.sayDeed "Analysis complete." :: adviceDeeds text size) := rfl

section Scan
variable (a : Advisor) (room : Option Room) (text : List Char) (size : ℕ)

theorem failure_scanDeeds : failure room (a.scanDeeds text size) =
    a.untold? room ["Analyzing code...", "Analysis complete."] := by
  rw [scanDeeds_eq, failure, fault?_sayDeed, untold?_pair]
  cases a.untold? room ["Analyzing code..."] with
  | some f => rfl
  | none =>
    simp only [Deed.Free.failure_append (free_foundDeeds text), failure, fault?_sayDeed,
      Deed.Free.failure_eq (free_adviceDeeds text size), Option.none_or]
    cases a.untold? _ ["Analysis complete."] <;> rfl

/-- A scan is broken off before or after its own work, or it is done. -/
theorem course_scanDeeds : course room (a.scanDeeds text size) =
    if a.Tells room ["Analyzing code...", "Analysis complete."] then a.scanDeeds text size
    else if a.Tells room ["Analyzing code..."] then
      a.sayDeed "Analyzing code..." :: (foundDeeds text ++ [a.sayDeed "Analysis complete."])
    else [a.sayDeed "Analyzing code..."] := by
  simp only [← untold?_eq_none_iff, untold?_pair, Option.or_eq_none_iff]
  rw [scanDeeds_eq, course, fault?_sayDeed]
  cases a.untold? room ["Analyzing code..."] with
  | some f => simp
  | none =>
    simp only [Deed.Free.course_append (free_foundDeeds text), course, fault?_sayDeed,
      course_of_failure_eq_none (Deed.Free.failure_eq (free_adviceDeeds text size) _), true_and,
      if_true]
    cases a.untold? _ ["Analysis complete."] <;> simp

end Scan

section Analyze
variable (a : Advisor) {host : Host} {s : Session} (room : Option Room)

/-- A source that is read is recorded before its scan. -/
theorem analyzeDeeds_of_ok {content : Bytes} (hread : host.read s.path = .ok content) :
    a.analyzeDeeds host s = .read s.path (.ok content) ::
      ((SourceDocument.readEvents s.path content).map .note ++
        a.scanDeeds (Utf8.decodeLossy content) s.size) := by
  rw [analyzeDeeds, hread]
  rfl

theorem analyzeDeeds_of_error {fault : ReadFault} (hread : host.read s.path = .error fault) :
    a.analyzeDeeds host s = [.read s.path (.error fault), a.missingDeed s.path] := by
  rw [analyzeDeeds, hread]
  rfl

theorem course_analyzeDeeds_of_ok {content : Bytes} (hread : host.read s.path = .ok content) :
    course room (a.analyzeDeeds host s) = .read s.path (.ok content) ::
      ((SourceDocument.readEvents s.path content).map .note ++
        course room (a.scanDeeds (Utf8.decodeLossy content) s.size)) := by
  rw [a.analyzeDeeds_of_ok hread, course_cons_of_none rfl, room_map_less_size rfl,
    Deed.Free.course_append (free_map_note _)]

theorem failure_singleton (d : Deed) : failure room [d] = d.fault? room := by
  rw [failure]
  cases d.fault? room <;> rfl

/-- An analysis fails as the table says. -/
theorem analysis_fst (a : Advisor) (host : Host) (s : Session) (room : Option Room) :
    (a.analysis room s.path (host.read s.path)).1 =
      match failure room (a.analyzeDeeds host s) with
      | none => .ok (host.loads s.path)
      | some f => .error f := by
  have hmissing : ∀ path, failure room [a.missingDeed path] =
      a.untold? room ["File " ++ Utf8.display path ++ " not found."] :=
    fun path => (failure_singleton room _).trans (a.fault?_missingDeed room path)
  have hroom : ∀ answer, room.map (·.less (Deed.read s.path answer).size) = room :=
    fun _ => room_map_less_size rfl room
  unfold Host.loads
  cases hread : host.read s.path with
  | error fault =>
    rw [a.analyzeDeeds_of_error hread, failure]
    cases fault with
    | failed cause => rfl
    | missing =>
      simp only [analysis, Deed.fault?, hroom, hmissing]
      rfl
    | directory =>
      simp only [analysis, Deed.fault?, hroom, hmissing]
      rfl
  | ok content =>
    rw [a.analyzeDeeds_of_ok hread, failure]
    simp only [analysis, Deed.fault?, hroom,
      Deed.Free.failure_append (free_map_note _), failure_scanDeeds]
    rfl

/-- An analysis adds what the table says, also if it fails. -/
theorem growth_course_analyzeDeeds : (course room (a.analyzeDeeds host s)).flatMap Deed.growth =
    (a.analysis room s.path (host.read s.path)).2 := by
  cases hread : host.read s.path with
  | error fault =>
    have hquiet : ∀ d ∈ course room (a.analyzeDeeds host s), d.growth = [] := by
      intro d hd
      have hmem := mem_of_mem_course hd
      rw [a.analyzeDeeds_of_error hread, missingDeed] at hmem
      cases hformat : a.format <;> simp [hformat] at hmem <;> rcases hmem with rfl | rfl <;> rfl
    rw [List.flatMap_eq_nil_iff.mpr hquiet]
    cases fault <;> rfl
  | ok content =>
    rw [a.course_analyzeDeeds_of_ok room hread, course_scanDeeds, analysis]
    simp only [scanDeeds_eq, foundDeeds, adviceDeeds, List.flatMap_cons, List.flatMap_append]
    split_ifs <;> simp [Deed.flatMap_growth_map_note, earned_eq_replicate]

/-- **An analysis answers what the table says.** -/
theorem answer_analyze (host : Host) (p : Progress) : (a.analyze host).answer p =
    (a.analysis p.room p.session.path (host.read p.session.path)).1 :=
  (a.does_analyze host p).answer_eq.trans (a.analysis_fst host p.session p.room).symm

end Analyze

end Advisor

end LoopAdvice
