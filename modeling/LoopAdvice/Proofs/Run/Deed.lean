import LoopAdvice.Workflow
import Mathlib.Data.List.Basic
import Mathlib.Tactic.SplitIfs

/-! # Deeds

A *deed* is one thing a run sets out to do, with the answer its surroundings have for it. Some deeds
can fail (`Deed.fault?`): a read that is refused, a write that does not fit, a question whose reply
cannot be read, a call of a program that cannot be run. A deed leaves its mark on a run whether it
fails or not (`Progress.after`). A list of deeds is performed up to the first that fails (`perform`).

A step *does* a list of deeds if it performs them and nothing else (`Does`). The list is fixed by
what the surroundings would answer and does not depend on the room the writer has, so it also names
the deeds that a fault keeps from being done. Steps in sequence do their deeds in sequence
(`Does.bind`). A list of deeds ends in a fault exactly if one of them is the first to fail
(`perform_eq_error_iff`). A step may also fail of itself once its deeds are done (`Throws`); with a
handler for that fault it does deeds again (`Throws.tryCatch`). -/

namespace LoopAdvice

/-- One thing a run sets out to do, and what its surroundings answer. -/
inductive Deed
  | read (path : Bytes) (answer : Except ReadFault Bytes)
  | note (event : Event)
  | grow (more : List Suggestion)
  /-- `attempt` is what the fault says if the text does not fit. -/
  | write (attempt text : String)
  | ask (question : String) (reply : Reply)
  | call (program : String) (args : List String) (answer : Except ToolFault ToolOutput)

/-- The part of some bytes that a writer takes. -/
def kept (room : Option Room) (b : Bytes) : Bytes :=
  match room with
  | none => b
  | some r => b.take r.left

/-- What a writer refuses so many bytes with, if it does. -/
def refusal? (room : Option Room) (bytes : ℕ) : Option Cause :=
  room.bind fun r => if bytes ≤ r.left then none else some r.cause

@[simp] theorem refusal?_none (bytes : ℕ) : refusal? none bytes = none := rfl

/-- Bytes that fit are not refused. -/
theorem refusal?_eq_none_iff {room : Option Room} {bytes : ℕ} :
    refusal? room bytes = none ↔ ∀ r ∈ room, bytes ≤ r.left := by
  cases room <;> simp [refusal?]

theorem refusal?_of_le {r : Room} {bytes : ℕ} (h : bytes ≤ r.left) :
    refusal? (some r) bytes = none :=
  if_pos h

theorem refusal?_of_lt {r : Room} {bytes : ℕ} (h : r.left < bytes) :
    refusal? (some r) bytes = some r.cause :=
  if_neg (Nat.not_le.mpr h)

/-- Of two parts the first is refused, or else the second. -/
theorem refusal?_add (room : Option Room) (m n : ℕ) :
    refusal? room (m + n) = (refusal? room m).or (refusal? (room.map (·.less m)) n) := by
  cases room with
  | none => rfl
  | some r =>
    rw [Option.map_some]
    by_cases hm : m ≤ r.left
    · rw [refusal?_of_le hm, Option.none_or]
      by_cases hn : n ≤ (r.less m).left
      · have hfits : m + n ≤ r.left := by rw [r.left_less] at hn; omega
        rw [refusal?_of_le hfits, refusal?_of_le hn]
      · have hlong : r.left < m + n := by rw [r.left_less] at hn; omega
        rw [refusal?_of_lt hlong, refusal?_of_lt (Nat.not_le.mp hn), r.cause_less]
    · have hlong : r.left < m + n := by omega
      rw [refusal?_of_lt hlong, refusal?_of_lt (Nat.not_le.mp hm)]
      rfl

namespace Deed

def text : Deed → String
  | write _ text => text
  | _ => ""

def size (d : Deed) : ℕ := (Utf8.bytesOf d.text).length

/-- What a deed fails with, if it does, when the writer has some room. -/
def fault? (room : Option Room) : Deed → Option Fault
  | read path (.error (.failed cause)) =>
    some (.failed ("failed to read " ++ Utf8.display path) cause)
  | write attempt text =>
    (refusal? room (Utf8.bytesOf text).length).map (.failed attempt)
  | ask _ (.error cause) => some (.failed "failed to read answer" cause)
  | call _ _ (.error (.failed program cause)) => some (.failed (ToolFault.attempt program) cause)
  | _ => none

/-- What can be seen of a deed from outside. -/
def actions (room : Option Room) : Deed → Trace
  | note event => [.recorded event]
  | write _ text => [.wrote (kept room (Utf8.bytesOf text))]
  | ask question _ => [.asked question]
  | call program args _ => [.called program args]
  | _ => []

def growth : Deed → List Suggestion
  | grow more => more
  | _ => []

@[simp] theorem growth_read (path : Bytes) (answer : Except ReadFault Bytes) :
    (read path answer).growth = [] := rfl

@[simp] theorem growth_note (event : Event) : (note event).growth = [] := rfl

@[simp] theorem growth_grow (more : List Suggestion) : (grow more).growth = more := rfl

theorem flatMap_growth_map_note (l : List Event) : (l.map note).flatMap growth = [] := by
  simp [List.flatMap_map]

def isQuestion : Deed → Bool
  | ask _ _ => true
  | _ => false

end Deed

/-- A run after a deed, be it done or failed. -/
def Progress.after (p : Progress) : Deed → Progress
  | .read _ _ => p
  | .note event => { p with trace := p.trace ++ [.recorded event] }
  | .grow more => { p with session := p.session.add more }
  | .write _ text =>
    { p with
      room := p.room.map (·.less (Utf8.bytesOf text).length)
      trace := p.trace ++ [.wrote (kept p.room (Utf8.bytesOf text))] }
  | .ask question _ =>
    { p with replies := p.replies.tail, trace := p.trace ++ [.asked question] }
  | .call program args _ => { p with trace := p.trace ++ [.called program args] }

/-- A run after deeds none of which fails. -/
def Progress.afterAll (p : Progress) (ds : List Deed) : Progress := ds.foldl Progress.after p

/-- Performs deeds up to the first that fails, and answers `v`. -/
def perform {α : Type} (v : α) : List Deed → Progress → EStateM.Result Fault Progress α
  | [], p => .ok v p
  | d :: ds, p =>
    match d.fault? p.room with
    | none => perform v ds (p.after d)
    | some f => .error f (p.after d)

/-- The text of a reply; a reply that cannot be read has none. -/
def replyText : Reply → String
  | .ok reply => reply
  | .error _ => ""

/-- From `p` on, a step performs the deeds `ds` and nothing else, and answers `v`. -/
def Does {α : Type} (x : Step α) (p : Progress) (ds : List Deed) (v : α) : Prop :=
  x.run p = perform v ds p

/-- From `p` on, a step performs the deeds `ds` and nothing else, and then fails with `f`. -/
def Throws {α : Type} (x : Step α) (p : Progress) (ds : List Deed) (f : Fault) : Prop :=
  x.run p =
    match perform () ds p with
    | .ok _ q => .error f q
    | .error g q => .error g q

/-! ### What a deed changes -/

theorem Progress.trace_after (p : Progress) (d : Deed) :
    (p.after d).trace = p.trace ++ d.actions p.room := by
  cases d <;> simp [Progress.after, Deed.actions]

theorem Progress.room_after (p : Progress) (d : Deed) :
    (p.after d).room = p.room.map (·.less d.size) := by
  cases d <;> simp [Progress.after, Deed.size, Deed.text, Utf8.bytesOf, Utf8.encode]

@[simp] theorem Progress.afterAll_nil (p : Progress) : p.afterAll [] = p := rfl

@[simp] theorem Progress.afterAll_cons (p : Progress) (d : Deed) (ds : List Deed) :
    p.afterAll (d :: ds) = (p.after d).afterAll ds := rfl

@[simp] theorem Progress.afterAll_append (p : Progress) (ds es : List Deed) :
    p.afterAll (ds ++ es) = (p.afterAll ds).afterAll es :=
  List.foldl_append

theorem Progress.session_afterAll (p : Progress) (ds : List Deed) :
    (p.afterAll ds).session = p.session.add (ds.flatMap Deed.growth) := by
  induction ds generalizing p with
  | nil => simp [Session.add]
  | cons d ds ih =>
    rw [Progress.afterAll_cons, ih]
    cases d <;> simp [Progress.after, Deed.growth, Session.add]

theorem Progress.replies_after (p : Progress) (d : Deed) :
    (p.after d).replies = p.replies.drop (if d.isQuestion then 1 else 0) := by
  cases d <;> simp [Progress.after, Deed.isQuestion]

theorem Progress.replies_afterAll (p : Progress) (ds : List Deed) :
    (p.afterAll ds).replies = p.replies.drop (ds.countP Deed.isQuestion) := by
  induction ds generalizing p with
  | nil => rfl
  | cons d ds ih =>
    rw [Progress.afterAll_cons, ih, p.replies_after, List.drop_drop, List.countP_cons, Nat.add_comm]

/-- **Only unrecognized faults come from deeds.** -/
theorem Deed.exists_of_fault? {room : Option Room} {d : Deed} {f : Fault}
    (h : d.fault? room = some f) :
    ∃ attempt cause, f = .failed attempt cause := by
  unfold Deed.fault? at h
  split at h
  · cases h; exact ⟨_, _, rfl⟩
  · obtain ⟨cause, -, rfl⟩ := Option.map_eq_some_iff.mp h
    exact ⟨_, cause, rfl⟩
  · cases h; exact ⟨_, _, rfl⟩
  · cases h; exact ⟨_, _, rfl⟩
  · cases h

/-! ### Performing deeds -/

section Perform
variable {α β : Type}

theorem perform_append (v : α) (w : β) (ds es : List Deed) (p : Progress) :
    perform w (ds ++ es) p =
      match perform v ds p with
      | .ok _ q => perform w es q
      | .error f q => .error f q := by
  induction ds generalizing p with
  | nil => rfl
  | cons d ds ih =>
    simp only [List.cons_append, perform]
    cases d.fault? p.room with
    | none => exact ih (p.after d)
    | some f => rfl

/-! ### Deeds that succeed, and the first that fails -/

/-- The room that deeds leave. -/
def roomAfter (room : Option Room) (ds : List Deed) : Option Room :=
  ds.foldl (fun room d => room.map (·.less d.size)) room

@[simp] theorem roomAfter_nil (room : Option Room) : roomAfter room [] = room := rfl

theorem roomAfter_cons (p : Progress) (d : Deed) (ds : List Deed) :
    roomAfter p.room (d :: ds) = roomAfter (p.after d).room ds := by
  rw [p.room_after]
  rfl

theorem room_afterAll (p : Progress) (ds : List Deed) :
    (p.afterAll ds).room = roomAfter p.room ds := by
  induction ds generalizing p with
  | nil => simp
  | cons d ds ih => rw [Progress.afterAll_cons, ih, roomAfter_cons]

/-- Every deed succeeds, given the room that those before it leave. -/
def Passes (room : Option Room) (ds : List Deed) : Prop :=
  ∀ b e, b ++ [e] <+: ds → e.fault? (roomAfter room b) = none

theorem passes_nil (room : Option Room) : Passes room [] :=
  fun b e h => absurd h.length_le (by simp)

theorem passes_cons {p : Progress} {d : Deed} {ds : List Deed} :
    Passes p.room (d :: ds) ↔ d.fault? p.room = none ∧ Passes (p.after d).room ds := by
  constructor
  · intro h
    refine ⟨by simpa using h [] d ⟨ds, rfl⟩, fun b e hb => ?_⟩
    rw [← roomAfter_cons]
    exact h (d :: b) e (List.cons_prefix_cons.mpr ⟨rfl, hb⟩)
  · rintro ⟨hd, h⟩ b e hb
    rcases b with _ | ⟨c, b⟩
    · obtain ⟨rfl, -⟩ := List.cons_prefix_cons.mp hb
      rwa [roomAfter_nil]
    · obtain ⟨rfl, hb'⟩ := List.cons_prefix_cons.mp hb
      rw [roomAfter_cons]
      exact h b e hb'

/-- Of the deeds `ds`, those in `before` succeed and `d`, the next one, fails with `f`. -/
structure FirstFault (room : Option Room) (ds before : List Deed) (d : Deed) (f : Fault) : Prop where
  reached : before ++ [d] <+: ds
  passed : Passes room before
  fault : d.fault? (roomAfter room before) = some f

theorem firstFault_nil {room : Option Room} {before : List Deed} {d : Deed} {f : Fault} :
    ¬ FirstFault room [] before d f := fun h =>
  absurd h.reached.length_le (by simp)

theorem firstFault_cons_of_some {p : Progress} {ds before : List Deed} {d e : Deed} {f g : Fault}
    (h : d.fault? p.room = some g) :
    FirstFault p.room (d :: ds) before e f ↔ before = [] ∧ e = d ∧ f = g := by
  constructor
  · rintro ⟨hr, hp, hf⟩
    rcases before with _ | ⟨c, before⟩
    · obtain ⟨rfl, -⟩ := List.cons_prefix_cons.mp hr
      rw [roomAfter_nil, h] at hf
      exact ⟨rfl, rfl, (Option.some.inj hf).symm⟩
    · obtain ⟨rfl, -⟩ := List.cons_prefix_cons.mp hr
      rw [(passes_cons.mp hp).1] at h
      cases h
  · rintro ⟨rfl, rfl, rfl⟩
    exact ⟨⟨ds, rfl⟩, passes_nil _, by rwa [roomAfter_nil]⟩

theorem firstFault_cons_of_none {p : Progress} {ds before : List Deed} {d e : Deed} {f : Fault}
    (h : d.fault? p.room = none) :
    FirstFault p.room (d :: ds) before e f ↔
      ∃ before', before = d :: before' ∧ FirstFault (p.after d).room ds before' e f := by
  constructor
  · rintro ⟨hr, hp, hf⟩
    rcases before with _ | ⟨c, before⟩
    · obtain ⟨rfl, -⟩ := List.cons_prefix_cons.mp hr
      rw [roomAfter_nil, h] at hf
      cases hf
    · obtain ⟨rfl, hr'⟩ := List.cons_prefix_cons.mp hr
      rw [roomAfter_cons] at hf
      exact ⟨before, rfl, hr', (passes_cons.mp hp).2, hf⟩
  · rintro ⟨before, rfl, hr, hp, hf⟩
    rw [← roomAfter_cons] at hf
    exact ⟨List.cons_prefix_cons.mpr ⟨rfl, hr⟩, passes_cons.mpr ⟨h, hp⟩, hf⟩

/-- Performing deeds comes to an end exactly if they all succeed. -/
theorem perform_eq_ok_iff {v u : α} {ds : List Deed} {p q : Progress} :
    perform v ds p = .ok u q ↔ Passes p.room ds ∧ u = v ∧ q = p.afterAll ds := by
  induction ds generalizing p with
  | nil =>
    simp only [perform, EStateM.Result.ok.injEq, passes_nil, true_and, Progress.afterAll_nil,
      eq_comm]
  | cons d ds ih =>
    simp only [perform, passes_cons]
    cases hf : d.fault? p.room with
    | none => simpa using ih
    | some f => simp

theorem perform_of_passes (v : α) {ds : List Deed} {p : Progress} (h : Passes p.room ds) :
    perform v ds p = .ok v (p.afterAll ds) :=
  perform_eq_ok_iff.mpr ⟨h, rfl, rfl⟩

theorem roomAfter_none (ds : List Deed) : roomAfter none ds = none := by
  induction ds with
  | nil => rfl
  | cons d ds ih => exact ih

theorem passes_none {ds : List Deed} (h : ∀ d ∈ ds, d.fault? none = none) : Passes none ds := by
  intro b e hb
  rw [roomAfter_none]
  exact h e (hb.subset (by simp))

/-- Deeds one of which fails in any case do not all succeed. -/
theorem not_passes_of_mem {room : Option Room} {ds : List Deed} {d : Deed} (hd : d ∈ ds)
    (hf : ∀ room, d.fault? room ≠ none) : ¬ Passes room ds := by
  obtain ⟨b, c, rfl⟩ := List.append_of_mem hd
  exact fun h => hf _ (h b d ⟨c, by simp⟩)

/-- **Performing deeds ends in a fault exactly if one of them is the first to fail**, and nothing is
done after it. -/
theorem perform_eq_error_iff {v : α} {ds : List Deed} {p q : Progress} {f : Fault} :
    perform v ds p = .error f q ↔
      ∃ before d, FirstFault p.room ds before d f ∧ q = (p.afterAll before).after d := by
  induction ds generalizing p with
  | nil =>
    simp only [perform, reduceCtorEq, false_iff]
    rintro ⟨before, d, h, -⟩
    exact firstFault_nil h
  | cons d ds ih =>
    simp only [perform]
    cases hf : d.fault? p.room with
    | none =>
      simp only [ih, firstFault_cons_of_none hf]
      constructor
      · rintro ⟨before, e, h, rfl⟩
        exact ⟨d :: before, e, ⟨before, rfl, h⟩, rfl⟩
      · rintro ⟨_, e, ⟨before, rfl, h⟩, rfl⟩
        exact ⟨before, e, h, rfl⟩
    | some g =>
      simp only [firstFault_cons_of_some hf]
      constructor
      · intro h
        cases h
        exact ⟨[], d, ⟨rfl, rfl, rfl⟩, rfl⟩
      · rintro ⟨_, _, ⟨rfl, rfl, rfl⟩, rfl⟩
        rfl

theorem exists_of_perform_eq_error {v : α} {ds : List Deed} {p q : Progress} {f : Fault}
    (h : perform v ds p = .error f q) : ∃ attempt cause, f = .failed attempt cause := by
  obtain ⟨before, d, hfirst, -⟩ := perform_eq_error_iff.mp h
  exact Deed.exists_of_fault? hfirst.fault

theorem Deed.actions_of_fault?_eq_none {room : Option Room} {d : Deed} (h : d.fault? room = none) :
    d.actions room = d.actions none := by
  cases d with
  | write attempt text =>
    cases room with
    | none => rfl
    | some r =>
      have hfits : (Utf8.bytesOf text).length ≤ r.left :=
        refusal?_eq_none_iff.mp (Option.map_eq_none_iff.mp h) r rfl
      simp [Deed.actions, kept, List.take_of_length_le hfits]
  | _ => rfl

/-- Deeds that succeed are seen from outside in full. -/
theorem trace_afterAll {p : Progress} {ds : List Deed} (h : Passes p.room ds) :
    (p.afterAll ds).trace = p.trace ++ ds.flatMap (Deed.actions none) := by
  induction ds generalizing p with
  | nil => simp
  | cons d ds ih =>
    obtain ⟨hd, hds⟩ := passes_cons.mp h
    rw [Progress.afterAll_cons, ih hds, p.trace_after, Deed.actions_of_fault?_eq_none hd,
      List.flatMap_cons, List.append_assoc]

/-- The texts that deeds write, one after the other. -/
def told (ds : List Deed) : String := String.join (ds.map Deed.text)

@[simp] theorem told_nil : told [] = "" := String.join_nil

@[simp] theorem told_cons (d : Deed) (ds : List Deed) : told (d :: ds) = d.text ++ told ds := by
  simp [told]

@[simp] theorem told_append (ds es : List Deed) : told (ds ++ es) = told ds ++ told es := by
  simp [told]

theorem Deed.output_actions (d : Deed) :
    Trace.output (d.actions none) = Utf8.bytesOf d.text := by
  cases d <;>
    simp [Deed.actions, Trace.output, Action.output, kept, Deed.text, Utf8.bytesOf, Utf8.encode]

theorem output_flatMap_actions (ds : List Deed) :
    Trace.output (ds.flatMap (Deed.actions none)) = Utf8.bytesOf (told ds) := by
  induction ds with
  | nil => rfl
  | cons d ds ih =>
    rw [List.flatMap_cons, Trace.output_append, d.output_actions, ih, told_cons, Utf8.bytesOf_append]

end Perform

/-! ### Steps that do deeds -/

/-- A handler begins where the step that failed left the run. -/
theorem run_tryCatch {α : Type} (x : Step α) (handle : Fault → Step α) (p : Progress) :
    (tryCatch x handle).run p =
      match x.run p with
      | .ok v q => .ok v q
      | .error f q => (handle f).run q := by
  change EStateM.tryCatch x handle p = _
  unfold EStateM.tryCatch EStateM.run
  cases x p <;> rfl

namespace Does

variable {α β : Type} {p : Progress} {ds es : List Deed}

theorem pure (v : α) (p : Progress) : Does (Pure.pure v) p [] v := rfl

/-- What follows a step matters only if all its deeds succeed. -/
theorem bind_of_ok {x : Step α} {f : α → Step β} {v : α} {w : β} (hx : Does x p ds v)
    (hf : Passes p.room ds → Does (f v) (p.afterAll ds) es w) :
    Does (x >>= f) p (ds ++ es) w := by
  unfold Does at hx hf ⊢
  rw [EStateM.run_bind, hx, perform_append v w]
  cases hp : perform v ds p with
  | ok u q =>
    obtain ⟨hpass, rfl, rfl⟩ := perform_eq_ok_iff.mp hp
    exact hf hpass
  | error g q => rfl

/-- **Steps in sequence do their deeds in sequence.** -/
theorem bind {x : Step α} {f : α → Step β} {v : α} {w : β} (hx : Does x p ds v)
    (hf : Does (f v) (p.afterAll ds) es w) : Does (x >>= f) p (ds ++ es) w :=
  hx.bind_of_ok fun _ => hf

theorem seq {x : Step Unit} {y : Step β} {w : β} (hx : Does x p ds ())
    (hy : Does y (p.afterAll ds) es w) : Does (x >>= fun _ => y) p (ds ++ es) w :=
  hx.bind hy

theorem seq_pure {x : Step Unit} (hx : Does x p ds ()) (w : β) :
    Does (x >>= fun _ => Pure.pure w) p ds w := by
  have h := hx.seq (.pure w (p.afterAll ds))
  rwa [List.append_nil] at h

/-- A deed that succeeds, and then the rest. -/
theorem cons {x y : Step β} {d : Deed} {w : β} (hd : d.fault? p.room = none)
    (hx : x.run p = y.run (p.after d)) (hy : Does y (p.after d) ds w) : Does x p (d :: ds) w := by
  unfold Does at hy ⊢
  rw [hx, hy]
  simp only [perform, hd]

/-- A deed that fails; the rest does not matter. -/
theorem cons_of_fault {x : Step β} {d : Deed} {f : Fault} (hd : d.fault? p.room = some f)
    (hx : x.run p = .error f (p.after d)) (w : β) : Does x p (d :: ds) w := by
  unfold Does
  rw [hx]
  simp only [perform, hd]

/-- Looking at the run is no deed. -/
theorem get_bind {f : Progress → Step β} {w : β} (h : Does (f p) p ds w) :
    Does (get >>= f) p ds w := h

theorem record (events : List Event) (p : Progress) :
    Does (Step.record events) p (events.map .note) () := by
  have h : ∀ (l : List Event) (q : Progress),
      perform () (l.map .note) q = .ok () { q with trace := q.trace ++ l.map .recorded } := by
    intro l
    induction l with
    | nil => intro q; simp [perform]
    | cons e l ih => intro q; simp [perform, Deed.fault?, Progress.after, ih]
  exact (h events p).symm

theorem grow (more : List Suggestion) (p : Progress) :
    Does (modify fun p => { p with session := p.session.add more }) p [.grow more] () := rfl

theorem write (attempt text : String) (p : Progress) :
    Does (Step.write attempt text) p [.write attempt text] () := by
  obtain ⟨session, room, replies, trace⟩ := p
  unfold Does
  cases room with
  | none => rfl
  | some r =>
    by_cases h : (Utf8.bytesOf text).length ≤ r.left
    · have hkept : kept (some r) (Utf8.bytesOf text) = Utf8.bytesOf text := List.take_of_length_le h
      simp [Step.write, Step.act, perform, Deed.fault?, Progress.after, h, hkept, refusal?_of_le h]
    · have hlong : r.left < (Utf8.bytesOf text).length := Nat.not_le.mp h
      simp [Step.write, Step.act, perform, Deed.fault?, Progress.after, h, kept,
        refusal?_of_lt hlong]

theorem ask (question : String) (p : Progress) :
    Does (Step.ask question) p [.ask question (nextReply p.replies).1]
      (replyText (nextReply p.replies).1) := by
  obtain ⟨session, room, replies, trace⟩ := p
  rcases replies with _ | ⟨(cause | reply), rest⟩
  · rfl
  · rfl
  · rfl

/-- A step that succeeds before one that fails in the end. -/
theorem bind_throws {x : Step α} {f : α → Step β} {v : α} {g : Fault} (hx : Does x p ds v)
    (hf : Throws (f v) (p.afterAll ds) es g) : Throws (x >>= f) p (ds ++ es) g := by
  unfold Does at hx
  unfold Throws at hf ⊢
  rw [EStateM.run_bind, hx, perform_append v ()]
  cases hp : perform v ds p with
  | ok u q =>
    obtain ⟨-, rfl, rfl⟩ := perform_eq_ok_iff.mp hp
    exact hf
  | error g q => rfl

theorem seq_throw {x : Step Unit} (hx : Does x p ds ()) (f : Fault) :
    Throws (x >>= fun _ => throw f : Step β) p ds f := by
  have hthrow : Throws (throw f : Step β) (p.afterAll ds) [] f := rfl
  have h : Throws (x >>= fun _ => throw f) p (ds ++ []) f := hx.bind_throws hthrow
  rwa [List.append_nil] at h

/-- A handler that lets every unrecognized fault go on has no part in a step that fails only with
such faults. -/
theorem tryCatch {x : Step α} {handle : Fault → Step α} {v : α} (hx : Does x p ds v)
    (hgoesOn : ∀ attempt cause, handle (.failed attempt cause) = throw (.failed attempt cause)) :
    Does (MonadExcept.tryCatch x handle) p ds v := by
  unfold Does at hx ⊢
  rw [run_tryCatch, hx]
  cases hp : perform v ds p with
  | ok u q => rfl
  | error g q =>
    obtain ⟨attempt, cause, rfl⟩ := exists_of_perform_eq_error hp
    exact congrArg (fun y => EStateM.run y q) (hgoesOn attempt cause)

end Does

namespace Throws

variable {α β : Type} {p : Progress} {ds es : List Deed} {f : Fault}

/-- A deed that succeeds, and then the rest. -/
theorem cons {x y : Step α} {d : Deed} (hd : d.fault? p.room = none)
    (hx : x.run p = y.run (p.after d)) (hy : Throws y (p.after d) ds f) :
    Throws x p (d :: ds) f := by
  unfold Throws at hy ⊢
  rw [hx, hy]
  simp only [perform, hd]

/-- A deed that fails; neither the rest nor the last fault matters. -/
theorem cons_of_fault {x : Step α} {d : Deed} {g : Fault} (hd : d.fault? p.room = some g)
    (hx : x.run p = .error g (p.after d)) (f : Fault) : Throws x p (d :: ds) f := by
  unfold Throws
  rw [hx]
  simp only [perform, hd]

/-- What would come after a step that fails is not done. -/
theorem bind {x : Step α} (hx : Throws x p ds f) (next : α → Step β) :
    Throws (x >>= next) p ds f := by
  unfold Throws at hx ⊢
  rw [EStateM.run_bind, hx]
  cases perform () ds p <;> rfl

/-- **A fault that a step fails with in the end is handled where the step left the run.** -/
theorem tryCatch {x : Step α} {handle : Fault → Step α} {w : α} (hx : Throws x p ds f)
    (hgoesOn : ∀ attempt cause, handle (.failed attempt cause) = throw (.failed attempt cause))
    (hhandle : Passes p.room ds → Does (handle f) (p.afterAll ds) es w) :
    Does (MonadExcept.tryCatch x handle) p (ds ++ es) w := by
  unfold Throws at hx
  unfold Does at hhandle ⊢
  rw [run_tryCatch, hx, perform_append () w]
  cases hp : perform () ds p with
  | ok u q =>
    obtain ⟨hpass, -, rfl⟩ := perform_eq_ok_iff.mp hp
    exact hhandle hpass
  | error g q =>
    obtain ⟨attempt, cause, rfl⟩ := exists_of_perform_eq_error hp
    exact congrArg (fun y => EStateM.run y q) (hgoesOn attempt cause)

end Throws

end LoopAdvice
