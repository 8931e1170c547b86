import LoopAdvice.Proofs.Run.Deed

/-! # The course of a step

A step leaves a run somewhere whether it is done or fails (`Step.leaves`), and what it adds to the
trace is its part in it (`Step.part`). Of the deeds of a step those are set about that come before
the first failure, and the one that fails (`course`); `performed` is what is seen of these, and
`failure` is the fault. Main statements: a step that does nothing but deeds leaves a run after its
course (`Does.leaves_eq`), its part is what is seen of it (`Does.part_eq`), and it fails with its
fault (`Does.answer_eq`). -/

namespace LoopAdvice

/-! ### Where a step leaves a run -/

namespace Step

variable {α β : Type}

/-- Where a step leaves a run, be it done or failed. -/
def leaves (x : Step α) (p : Progress) : Progress :=
  match x.run p with
  | .ok _ q => q
  | .error _ q => q

/-- What a step answers, or the fault it fails with. -/
def answer (x : Step α) (p : Progress) : Except Fault α :=
  match x.run p with
  | .ok v _ => .ok v
  | .error f _ => .error f

/-- What a step adds to the trace. -/
def part (x : Step α) (p : Progress) : Trace := (x.leaves p).trace.drop p.trace.length

variable {x : Step α} {p q : Progress}

theorem leaves_of_ok {v : α} (h : x.run p = .ok v q) : x.leaves p = q := by
  rw [leaves, h]

theorem leaves_of_error {f : Fault} (h : x.run p = .error f q) : x.leaves p = q := by
  rw [leaves, h]

theorem answer_of_ok {v : α} (h : x.run p = .ok v q) : x.answer p = .ok v := by
  rw [answer, h]

theorem answer_of_error {f : Fault} (h : x.run p = .error f q) : x.answer p = .error f := by
  rw [answer, h]

/-- What comes of a step is its answer and where it leaves the run. -/
theorem run_eq (x : Step α) (p : Progress) : x.run p =
    match x.answer p with
    | .ok v => .ok v (x.leaves p)
    | .error f => .error f (x.leaves p) := by
  cases hx : x.run p with
  | ok v q => rw [answer_of_ok hx, leaves_of_ok hx]
  | error f q => rw [answer_of_error hx, leaves_of_error hx]

theorem run_of_answer_eq_ok {v : α} (h : x.answer p = .ok v) : x.run p = .ok v (x.leaves p) := by
  rw [run_eq, h]

theorem leaves_bind_of_ok {f : α → Step β} {v : α} (h : x.run p = .ok v q) :
    (x >>= f).leaves p = (f v).leaves q := by
  rw [leaves, EStateM.run_bind, h]
  rfl

theorem leaves_bind_of_error {f : α → Step β} {g : Fault} (h : x.run p = .error g q) :
    (x >>= f).leaves p = q := by
  rw [leaves, EStateM.run_bind, h]

end Step

/-! ### The deeds that are set about -/

/-- The deeds up to the first that fails, and that one. -/
def course (room : Option Room) : List Deed → List Deed
  | [] => []
  | d :: ds =>
    match d.fault? room with
    | none => d :: course (room.map (·.less d.size)) ds
    | some _ => [d]

/-- What is seen of deeds from outside, one after the other. -/
def seen (room : Option Room) : List Deed → Trace
  | [] => []
  | d :: ds => d.actions room ++ seen (room.map (·.less d.size)) ds

section Course
variable {room : Option Room} {d : Deed} {ds : List Deed}

theorem course_cons_of_none (h : d.fault? room = none) :
    course room (d :: ds) = d :: course (room.map (·.less d.size)) ds := by
  rw [course, h]

theorem course_cons_of_some {f : Fault} (h : d.fault? room = some f) :
    course room (d :: ds) = [d] := by
  rw [course, h]

/-- The course of deeds is their beginning. -/
theorem course_isPrefixOf (room : Option Room) (ds : List Deed) : course room ds <+: ds := by
  induction ds generalizing room with
  | nil => exact List.prefix_rfl
  | cons d ds ih =>
    cases h : d.fault? room with
    | none =>
      rw [course_cons_of_none h]
      exact List.cons_prefix_cons.mpr ⟨rfl, ih _⟩
    | some f =>
      rw [course_cons_of_some h]
      exact ⟨ds, rfl⟩

theorem mem_of_mem_course (h : d ∈ course room ds) : d ∈ ds :=
  (course_isPrefixOf room ds).subset h

/-- The first deed is set about in any case. -/
theorem exists_course_cons (room : Option Room) (d : Deed) (ds : List Deed) :
    ∃ es, course room (d :: ds) = d :: es ∧ ∀ e ∈ es, e ∈ ds := by
  cases h : d.fault? room with
  | none => exact ⟨_, course_cons_of_none h, fun e => mem_of_mem_course⟩
  | some f => exact ⟨[], course_cons_of_some h, fun e he => absurd he (by simp)⟩

end Course

theorem trace_afterAll_eq_seen (p : Progress) (ds : List Deed) :
    (p.afterAll ds).trace = p.trace ++ seen p.room ds := by
  induction ds generalizing p with
  | nil => simp [seen]
  | cons d ds ih =>
    rw [Progress.afterAll_cons, ih, p.trace_after, p.room_after, List.append_assoc, seen]

/-- A deed that writes nothing takes no room. -/
theorem room_map_less_size {d : Deed} (h : d.size = 0) (room : Option Room) :
    room.map (·.less d.size) = room := by
  cases room <;> simp [h]

/-- What is seen of deeds up to the first that fails. -/
def performed (room : Option Room) (ds : List Deed) : Trace := seen room (course room ds)

/-- The fault of the first deed that fails. -/
def failure (room : Option Room) : List Deed → Option Fault
  | [] => none
  | d :: ds =>
    match d.fault? room with
    | none => failure (room.map (·.less d.size)) ds
    | some f => some f

theorem performed_cons (room : Option Room) (d : Deed) (ds : List Deed) :
    performed room (d :: ds) = d.actions room ++
      if d.fault? room = none then performed (room.map (·.less d.size)) ds else [] := by
  unfold performed
  cases h : d.fault? room with
  | none => rw [course_cons_of_none h, seen, if_pos rfl]
  | some f => rw [course_cons_of_some h, seen, if_neg (by simp)]; rfl

/-- Deeds that follow others fail only if those did not. -/
theorem failure_append (room : Option Room) (ds es : List Deed) :
    failure room (ds ++ es) = (failure room ds).or (failure (roomAfter room ds) es) := by
  induction ds generalizing room with
  | nil => rfl
  | cons d ds ih =>
    rw [List.cons_append, failure, failure]
    cases d.fault? room with
    | none => exact ih _
    | some f => rfl

theorem course_of_failure_eq_none {room : Option Room} {ds : List Deed} (h : failure room ds = none) :
    course room ds = ds := by
  induction ds generalizing room with
  | nil => rfl
  | cons d ds ih =>
    rw [failure] at h
    cases hd : d.fault? room with
    | none =>
      rw [hd] at h
      rw [course_cons_of_none hd, ih h]
    | some f =>
      rw [hd] at h
      cases h

/-- Deeds that follow others are set about only if those did not fail. -/
theorem course_append (room : Option Room) (ds es : List Deed) :
    course room (ds ++ es) = course room ds ++
      if failure room ds = none then course (roomAfter room ds) es else [] := by
  induction ds generalizing room with
  | nil => rfl
  | cons d ds ih =>
    rw [List.cons_append, course, course, failure]
    cases d.fault? room with
    | none => exact congrArg (d :: ·) (ih _)
    | some f => rfl

/-- Deeds that follow others are seen only if those did not fail. -/
theorem performed_append (room : Option Room) (ds es : List Deed) :
    performed room (ds ++ es) = performed room ds ++
      if failure room ds = none then performed (roomAfter room ds) es else [] := by
  induction ds generalizing room with
  | nil => rfl
  | cons d ds ih =>
    rw [List.cons_append, performed_cons, performed_cons, failure]
    cases h : d.fault? room with
    | none =>
      rw [if_pos rfl, if_pos rfl, ih, List.append_assoc]
      rfl
    | some f => simp

section View
variable {β : Type} {view : Trace → List β} (hview : ∀ t u, view (t ++ u) = view t ++ view u)
include hview

theorem Trace.view_nil : view [] = [] := by
  simpa using hview [] []

/-- A view of the trace shows deeds that follow others only if those did not fail. -/
theorem view_performed_append (room : Option Room) (ds es : List Deed) :
    view (performed room (ds ++ es)) = view (performed room ds) ++
      if failure room ds = none then view (performed (roomAfter room ds) es) else [] := by
  rw [performed_append, hview]
  split_ifs
  · rfl
  · rw [Trace.view_nil hview]

end View

theorem questions_performed_append (room : Option Room) (ds es : List Deed) :
    (performed room (ds ++ es)).questions = (performed room ds).questions ++
      if failure room ds = none then (performed (roomAfter room ds) es).questions else [] :=
  view_performed_append Trace.questions_append room ds es

theorem calls_performed_append (room : Option Room) (ds es : List Deed) :
    (performed room (ds ++ es)).calls = (performed room ds).calls ++
      if failure room ds = none then (performed (roomAfter room ds) es).calls else [] :=
  view_performed_append Trace.calls_append room ds es

theorem output_performed_append (room : Option Room) (ds es : List Deed) :
    (performed room (ds ++ es)).output = (performed room ds).output ++
      if failure room ds = none then (performed (roomAfter room ds) es).output else [] :=
  view_performed_append Trace.output_append room ds es

/-- Deeds that do not fail on their own do not fail if there is no end to the writer. -/
theorem failure_none_eq_none {ds : List Deed} (h : ∀ d ∈ ds, d.fault? none = none) :
    failure none ds = none := by
  induction ds with
  | nil => rfl
  | cons d ds ih =>
    rw [failure, h d List.mem_cons_self]
    exact ih fun e he => h e (List.mem_cons_of_mem d he)

theorem path_afterAll (p : Progress) (ds : List Deed) :
    (p.afterAll ds).session.path = p.session.path := by
  rw [p.session_afterAll, Session.path_add]

/-- **A step that does nothing but deeds leaves a run after its course.** -/
theorem Does.leaves_eq {α : Type} {x : Step α} {p : Progress} {ds : List Deed} {v : α}
    (h : Does x p ds v) : x.leaves p = p.afterAll (course p.room ds) := by
  have hperform : ∀ (ds : List Deed) (p : Progress),
      (match perform v ds p with | .ok _ q => q | .error _ q => q) =
        p.afterAll (course p.room ds) := by
    intro ds
    induction ds with
    | nil => intro p; rfl
    | cons d ds ih =>
      intro p
      cases hf : d.fault? p.room with
      | none =>
        rw [course_cons_of_none hf, Progress.afterAll_cons, ← p.room_after, ← ih]
        simp only [perform, hf]
      | some f =>
        rw [course_cons_of_some hf]
        simp only [perform, hf, Progress.afterAll_cons, Progress.afterAll_nil]
  rw [Step.leaves, h, hperform]

theorem Does.part_eq {α : Type} {x : Step α} {p : Progress} {ds : List Deed} {v : α}
    (h : Does x p ds v) : x.part p = performed p.room ds := by
  rw [Step.part, h.leaves_eq, trace_afterAll_eq_seen, List.drop_left, performed]

/-- A step that does nothing but deeds adds its part to the trace. -/
theorem Does.trace_leaves {α : Type} {x : Step α} {p : Progress} {ds : List Deed} {v : α}
    (h : Does x p ds v) : (x.leaves p).trace = p.trace ++ x.part p := by
  rw [h.part_eq, h.leaves_eq, trace_afterAll_eq_seen, performed]

/-- A step that does nothing but deeds fails with the fault of the first that fails. -/
theorem Does.answer_eq {α : Type} {x : Step α} {p : Progress} {ds : List Deed} {v : α}
    (h : Does x p ds v) :
    x.answer p = match failure p.room ds with | none => .ok v | some f => .error f := by
  have hperform : ∀ (ds : List Deed) (p : Progress),
      (match perform v ds p with | .ok u _ => Except.ok u | .error f _ => .error f) =
        match failure p.room ds with | none => .ok v | some f => .error f := by
    intro ds
    induction ds with
    | nil => intro p; rfl
    | cons d ds ih =>
      intro p
      cases hf : d.fault? p.room with
      | none => simp only [perform, failure, hf, ← p.room_after, ih]
      | some f => simp only [perform, failure, hf]
  rw [Step.answer, h]
  exact hperform ds p

/-! ### Questions, calls and events of deeds -/

namespace Deed

def question? : Deed → Option String
  | ask question _ => some question
  | _ => none

def call? : Deed → Option (String × List String)
  | call program args _ => some (program, args)
  | _ => none

def event? : Deed → Option Event
  | note event => some event
  | _ => none

/-- Neither a question nor a call. -/
def Quiet (d : Deed) : Prop := d.question? = none ∧ d.call? = none

theorem isQuestion_eq (d : Deed) : d.isQuestion = d.question?.isSome := by
  cases d <;> rfl

theorem questions_actions (room : Option Room) (d : Deed) :
    Trace.questions (d.actions room) = d.question?.toList := by
  cases d <;> rfl

theorem calls_actions (room : Option Room) (d : Deed) :
    Trace.calls (d.actions room) = d.call?.toList := by
  cases d <;> rfl

end Deed

/-- What a view shows of deeds is what it shows of each that is set about. -/
theorem filterMap_performed {β : Type} {view : Action → Option β} {shows : Deed → Option β}
    (h : ∀ room d, (d.actions room).filterMap view = (shows d).toList) (room : Option Room)
    (ds : List Deed) :
    (performed room ds).filterMap view = (course room ds).filterMap shows := by
  unfold performed
  generalize course room ds = es
  induction es generalizing room with
  | nil => rfl
  | cons d es ih =>
    rw [seen, List.filterMap_append, ih, h]
    cases hd : shows d <;> simp [hd]

theorem questions_performed (room : Option Room) (ds : List Deed) :
    (performed room ds).questions = (course room ds).filterMap Deed.question? :=
  filterMap_performed Deed.questions_actions room ds

theorem calls_performed (room : Option Room) (ds : List Deed) :
    (performed room ds).calls = (course room ds).filterMap Deed.call? :=
  filterMap_performed Deed.calls_actions room ds

theorem questions_performed_of_quiet {ds : List Deed} (h : ∀ d ∈ ds, d.Quiet) (room : Option Room) :
    (performed room ds).questions = [] := by
  rw [questions_performed, List.filterMap_eq_nil_iff]
  exact fun d hd => (h d (mem_of_mem_course hd)).1

theorem calls_performed_of_quiet {ds : List Deed} (h : ∀ d ∈ ds, d.Quiet) (room : Option Room) :
    (performed room ds).calls = [] := by
  rw [calls_performed, List.filterMap_eq_nil_iff]
  exact fun d hd => (h d (mem_of_mem_course hd)).2

end LoopAdvice
