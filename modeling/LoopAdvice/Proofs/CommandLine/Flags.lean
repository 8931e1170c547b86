import LoopAdvice.CommandLine.Parser
import LoopAdvice.Proofs.Text.RoundTrip
import Mathlib.Tactic.SplitIfs

/-! # A flag in front

A flag that is read before everything else stays turned on, and whatever follows is read as it would
be without it, unless the flag is given again. A step of the reader that has this property
(`Reader.Carries`) passes it on to what is composed of it, and in the end to the whole command line.
Main statement: `parse_cons_of_step`. -/

namespace LoopAdvice.CommandLine

/-! ### Options and their flags -/

namespace Options

def isOn (o : Options) : Flag → Bool
  | .profile => o.profile
  | .compile => o.compile
  | .noPrompt => o.noPrompt
  | .json => o.json
  | .verbose => o.verbose

def turnedOn (o : Options) : Flag → Options
  | .profile => { o with profile := true }
  | .compile => { o with compile := true }
  | .noPrompt => { o with noPrompt := true }
  | .json => { o with json := true }
  | .verbose => { o with verbose := true }

end Options

namespace Settled

/-- What was settled, with a flag turned on before it. -/
def after (f : Flag) (s : Settled) : Settled := { s with flags := s.flags ++ [f] }

theorem isOn_options (s : Settled) (f : Flag) : s.options.isOn f = s.flags.contains f := by
  cases f <;> rfl

theorem options_after (f : Flag) (s : Settled) : (s.after f).options = s.options.turnedOn f := by
  cases f <;> simp [after, options, value, Options.turnedOn]

/-- A step does the same after a flag in front, unless it turns that flag on. -/
def Carries (f : Flag) (y : Settled → Except Stop Settled) : Prop :=
  ∀ s t, y s = .ok t → f ∉ t.flags → f ∉ s.flags ∧ y (s.after f) = .ok (t.after f)

theorem carries_addValue (f : Flag) (v : Valued) (bytes : Bytes) :
    Carries f fun s => s.addValue v bytes := by
  intro s t ht hf
  unfold addValue at ht ⊢
  dsimp only [after] at ht ⊢
  by_cases hrepeated : (s.values.lookup v).isSome
  · rw [if_pos hrepeated] at ht
    cases ht
  · rw [if_neg hrepeated] at ht ⊢
    cases htext : Utf8.string? bytes with
    | none =>
      rw [htext] at ht
      cases ht
    | some text =>
      rw [htext] at ht
      obtain rfl := Except.ok.inj ht
      exact ⟨hf, rfl⟩

theorem carries_addFlag (f g : Flag) : Carries f fun s => s.addFlag g := by
  intro s t ht hf
  unfold addFlag at ht ⊢
  dsimp only [after] at ht ⊢
  by_cases hrepeated : s.flags.contains g
  · rw [if_pos hrepeated] at ht
    cases ht
  · rw [if_neg hrepeated] at ht
    obtain rfl := Except.ok.inj ht
    obtain ⟨hne, hs⟩ := not_or.mp (mt List.mem_cons.mpr hf)
    have hother : (s.flags ++ [f]).contains g = false := by
      simpa [Ne.symm hne] using hrepeated
    rw [hother]
    exact ⟨hs, rfl⟩

theorem carries_addSource (f : Flag) (path : Bytes) : Carries f fun s => s.addSource path := by
  intro s t ht hf
  unfold addSource at ht ⊢
  dsimp only [after] at ht ⊢
  by_cases hempty : path.isEmpty
  · rw [if_pos hempty] at ht
    cases ht
  · rw [if_neg hempty] at ht ⊢
    obtain rfl := Except.ok.inj ht
    exact ⟨hf, rfl⟩

end Settled

/-! ### The steps of the reader -/

namespace Reader

/-- The reader, with a flag turned on before all that was read. -/
def after (f : Flag) (r : Reader) : Reader := { r with settled := r.settled.after f }

/-- A step of the reader does the same after a flag in front, unless it turns that flag on. -/
def Carries (f : Flag) (x : Reader → Except Stop Reader) : Prop :=
  ∀ r q, x r = .ok q → f ∉ q.settled.flags → f ∉ r.settled.flags ∧ x (r.after f) = .ok (q.after f)

namespace Carries

variable {f : Flag} {x y : Reader → Except Stop Reader}

theorem bind (hx : Carries f x) (hy : Carries f y) : Carries f fun r => x r >>= y := by
  intro r q hq hf
  dsimp only at hq ⊢
  cases hr : x r with
  | error stop =>
    rw [hr] at hq
    cases hq
  | ok r' =>
    rw [hr] at hq
    obtain ⟨hf', hafter'⟩ := hy r' q hq hf
    obtain ⟨hf'', hafter⟩ := hx r r' hr hf'
    rw [hafter]
    exact ⟨hf'', hafter'⟩

theorem foldlM {α : Type} {step : Reader → α → Except Stop Reader}
    (h : ∀ arg, Carries f fun r => step r arg) (args : List α) :
    Carries f fun r => args.foldlM step r := by
  induction args with
  | nil =>
    rintro r _ ⟨⟩ hf
    exact ⟨hf, rfl⟩
  | cons arg args ih => exact (h arg).bind ih

/-- A step of what is settled is one of the reader. -/
theorem onSettled {y : Settled → Except Stop Settled} (hy : Settled.Carries f y)
    (pending : Reader → Pending) (hpending : ∀ r, pending (r.after f) = pending r) :
    Carries f fun r => (do
      let settled ← y r.settled
      pure { r with settled, pending := pending r }) := by
  intro r q hq hf
  dsimp only [after] at hq ⊢
  cases ht : y r.settled with
  | error stop =>
    rw [ht] at hq
    cases hq
  | ok t =>
    rw [ht] at hq
    obtain rfl := Except.ok.inj hq
    obtain ⟨hs, hafter⟩ := hy r.settled t ht hf
    rw [hafter]
    exact ⟨hs, congrArg (fun p => Except.ok (Reader.mk (t.after f) p r.hasSource r.escaped))
      (hpending r)⟩

/-- A step that succeeds with what it makes of the reader, if that leaves alone what is settled. -/
theorem of_ok (g : Reader → Reader) (hsettled : ∀ r, (g r).settled = r.settled)
    (hafter : ∀ r, g (r.after f) = (g r).after f) : Carries f fun r => .ok (g r) := by
  rintro r _ ⟨⟩ hf
  exact ⟨hsettled r ▸ hf, congrArg _ (hafter r)⟩

/-- A step that never succeeds carries every flag. -/
theorem of_error (h : ∀ r q, x r ≠ .ok q) : Carries f x := fun r q hq => absurd hq (h r q)

/-- A step may look at what a flag does not change. -/
theorem branch (h : ∀ r, ∃ y, Carries f y ∧ x r = y r ∧ x (r.after f) = y (r.after f)) :
    Carries f x := by
  intro r q hq hf
  obtain ⟨y, hy, hr, hafter⟩ := h r
  rw [hafter]
  exact hy r q (hr ▸ hq) hf

end Carries

variable {f : Flag}

theorem carries_complain (c : Reader → Complaint) : Carries f fun r => complain (c r) := by
  refine .of_error fun r q hq => ?_
  cases hq

theorem carries_settle : Carries f settle := by
  refine .branch fun r => ?_
  unfold settle
  cases hpending : r.pending with
  | nothing => exact ⟨_, .of_ok id (fun _ => rfl) (fun _ => rfl), rfl, by simp [after, hpending]⟩
  | wanted v => exact ⟨_, carries_complain fun _ => .valueMissing v, rfl, by simp [after, hpending]⟩
  | value v bytes =>
    exact ⟨_, .onSettled (Settled.carries_addValue f v bytes) (fun _ => .nothing) fun _ => rfl, rfl,
      by simp [after, hpending]⟩
  | source path =>
    exact ⟨_, .onSettled (Settled.carries_addSource f path) (fun _ => .nothing) fun _ => rfl, rfl,
      by simp [after, hpending]⟩

theorem carries_attached (v : Valued) (bytes : Bytes) : Carries f fun r => r.attached v bytes :=
  carries_settle.bind
    (.onSettled (Settled.carries_addValue f v bytes) (fun r => r.pending) fun _ => rfl)

theorem carries_want (v : Valued) : Carries f fun r => r.want v :=
  carries_settle.bind
    (.of_ok (fun r => { r with pending := .wanted v }) (fun _ => rfl) fun _ => rfl)

theorem carries_turnOn (g : Flag) : Carries f fun r => r.turnOn g :=
  carries_settle.bind
    (.onSettled (Settled.carries_addFlag f g) (fun r => r.pending) fun _ => rfl)

theorem carries_stop (s : Stop) : Carries f fun r => r.stop s := by
  refine .of_error fun r q => ?_
  unfold stop
  cases r.settle <;> nofun

theorem carries_long (name : Bytes) (value : Option Bytes) :
    Carries f fun r => r.long name value := by
  unfold long
  rcases (Utf8.string? name).bind ofLong? with _ | (v | g | _ | _) <;> rcases value with _ | bytes
  · exact carries_complain _
  · exact carries_complain _
  · exact carries_want v
  · exact carries_attached v bytes
  · exact carries_turnOn g
  · exact carries_complain _
  · exact carries_stop .help
  · exact carries_complain _
  · exact carries_stop .version
  · exact carries_complain _

theorem carries_short (rest : Bytes) (letters : List Char) :
    Carries f fun r => r.short rest letters := by
  induction letters with
  | nil =>
    unfold short
    split_ifs
    · exact .of_ok id (fun _ => rfl) (fun _ => rfl)
    · exact carries_complain _
  | cons c cs ih =>
    unfold short
    rcases ofShort? c with _ | (v | g | _ | _)
    · exact carries_complain _
    · dsimp only
      split_ifs
      · exact carries_want v
      · exact carries_attached v _
    · exact (carries_turnOn g).bind ih
    · exact carries_stop .help
    · exact carries_stop .version

theorem carries_plain (arg : Bytes) : Carries f fun r => r.plain arg := by
  have hplace : Carries f fun r => r.settle >>= fun r =>
      .ok { r with pending := .source arg, hasSource := true } :=
    carries_settle.bind (.of_ok (fun r => { r with pending := .source arg, hasSource := true })
      (fun _ => rfl) fun _ => rfl)
  have hsource : Carries f fun r => if r.hasSource then
      complain (.unknownArgument (Utf8.display arg)) else r.settle >>= fun r =>
        .ok { r with pending := .source arg, hasSource := true } := by
    refine .branch fun r => ?_
    by_cases hfull : r.hasSource
    · exact ⟨_, carries_complain fun _ => .unknownArgument (Utf8.display arg), if_pos hfull,
        if_pos hfull⟩
    · exact ⟨_, hplace, if_neg hfull, if_neg hfull⟩
  refine .branch fun r => ?_
  by_cases hwanted : ∃ v, r.pending = .wanted v ∧ r.escaped = false
  · obtain ⟨v, hpending, hescaped⟩ := hwanted
    exact ⟨_, .of_ok (fun r => { r with pending := .value v arg }) (fun _ => rfl) fun _ => rfl,
      by simp [plain, hpending, hescaped], by simp [plain, after, hpending, hescaped]⟩
  · have hplain : ∀ q : Reader, q.pending = r.pending → q.escaped = r.escaped → q.plain arg =
        if q.hasSource then complain (.unknownArgument (Utf8.display arg)) else
          q.settle >>= fun r => .ok { r with pending := .source arg, hasSource := true } := by
      intro q hpending hescaped
      unfold plain
      split
      · next v hv hq => exact absurd ⟨v, hpending.symm.trans hv, hescaped.symm.trans hq⟩ hwanted
      · rfl
    exact ⟨_, hsource, hplain r rfl rfl, hplain _ rfl rfl⟩

section Step
variable {r : Reader} (h : r.escaped = false)
include h

theorem step_escape : r.step [0x2D, 0x2D] = .ok { r with escaped := true } := by
  rw [step, if_neg (by simp [h])]

theorem step_long (b : UInt8) (rest : Bytes) : r.step (0x2D :: 0x2D :: b :: rest) =
    r.long (splitValue (b :: rest)).1 (splitValue (b :: rest)).2 := by
  rw [step, if_neg (by simp [h])]
  simp

theorem step_short {b : UInt8} (hb : b ≠ 0x2D) (rest : Bytes) : r.step (0x2D :: b :: rest) =
    r.short (Utf8.readablePart (b :: rest)).2 (Utf8.readablePart (b :: rest)).1 := by
  rw [step, if_neg (by simp [h])]
  all_goals simp [hb]

/-- An argument is no option if it does not start with a hyphen or is nothing but one. -/
theorem step_plain {arg : Bytes} (harg : ∀ b rest, arg ≠ 0x2D :: b :: rest) :
    r.step arg = r.plain arg := by
  rw [step, if_neg (by simp [h])]
  all_goals simp [harg]

end Step

theorem carries_step (arg : Bytes) : Carries f fun r => r.step arg := by
  have hswitch : ∃ y, Carries f y ∧ ∀ r : Reader, r.escaped = false → r.step arg = y r := by
    by_cases harg : ∀ b rest, arg ≠ 0x2D :: b :: rest
    · exact ⟨_, carries_plain arg, fun r h => step_plain h harg⟩
    · obtain ⟨b, rest, rfl⟩ : ∃ b rest, arg = 0x2D :: b :: rest := by simpa using harg
      by_cases hb : b = 0x2D
      · subst hb
        cases rest with
        | nil =>
          exact ⟨_, .of_ok (fun r => { r with escaped := true }) (fun _ => rfl) fun _ => rfl,
            fun r h => step_escape h⟩
        | cons b rest => exact ⟨_, carries_long _ _, fun r h => step_long h b rest⟩
      · exact ⟨_, carries_short _ _, fun r h => step_short h hb rest⟩
  obtain ⟨y, hy, hstep⟩ := hswitch
  refine .branch fun r => ?_
  cases hescaped : r.escaped with
  | true => exact ⟨_, carries_plain arg, if_pos hescaped, if_pos hescaped⟩
  | false => exact ⟨y, hy, hstep r hescaped, hstep _ hescaped⟩

end Reader

/-- A switch is found by the bytes of its long name. -/
theorem ofLong?_name (s : Switch) : (Utf8.string? (Utf8.bytesOf s.name)).bind ofLong? = some s := by
  rw [Utf8.string?_eq_some_iff.mpr rfl, Option.bind_some]
  rcases s with v | f | _ | _
  · cases v <;> decide
  · cases f <;> decide
  · decide
  · decide

/-- The long name of a flag turns it on. -/
theorem step_flag {r : Reader} (h : r.escaped = false) (f : Flag) :
    r.step (Utf8.bytesOf ("--" ++ f.name)) = r.turnOn f := by
  have hvalue : Reader.splitValue (Utf8.bytesOf f.name) = (Utf8.bytesOf f.name, none) := by
    cases f <;> decide
  have hstep : r.step (Utf8.bytesOf ("--" ++ f.name)) =
      r.long (Reader.splitValue (Utf8.bytesOf f.name)).1
        (Reader.splitValue (Utf8.bytesOf f.name)).2 := by
    rw [Utf8.bytesOf_append]
    cases f <;> exact Reader.step_long h _ _
  have hname : (Utf8.string? (Utf8.bytesOf f.name)).bind ofLong? = _ := ofLong?_name (.flag f)
  rw [hstep, hvalue]
  unfold Reader.long
  rw [hname]

theorem parse_eq (args : List Bytes) : parse args =
    (args.foldlM Reader.step {} >>= Reader.settle).map fun r => r.settled.options := by
  unfold parse
  cases args.foldlM Reader.step {} with
  | error stop => rfl
  | ok r =>
    change (r.settle >>= fun r => .ok r.settled.options) = r.settle.map _
    cases r.settle <;> rfl

theorem step_shortVerbose :
    Reader.step {} (Utf8.bytesOf "-v") = .ok (Reader.after .verbose {}) := rfl

/-- **A flag in front is turned on, and the rest of the command line is read as it is without it.** -/
theorem parse_cons_of_step {f : Flag} {arg : Bytes} (harg : Reader.step {} arg = .ok (.after f {}))
    {args : List Bytes} {o : Options} (h : parse args = .ok o) (hoff : o.isOn f = false) :
    parse (arg :: args) = .ok (o.turnedOn f) := by
  have hread : Reader.Carries f fun r => args.foldlM Reader.step r >>= Reader.settle :=
    (Reader.Carries.foldlM Reader.carries_step args).bind Reader.carries_settle
  rw [parse_eq] at h
  cases hq : args.foldlM Reader.step {} >>= Reader.settle with
  | error stop =>
    rw [hq] at h
    cases h
  | ok q =>
    rw [hq] at h
    obtain rfl := Except.ok.inj h
    rw [Settled.isOn_options] at hoff
    obtain ⟨-, hafter⟩ := hread {} q hq (by simpa using hoff)
    have hcons : (arg :: args).foldlM Reader.step {} =
        args.foldlM Reader.step (Reader.after f {}) := by
      rw [List.foldlM_cons, harg]
      rfl
    rw [parse_eq, hcons, show args.foldlM Reader.step (Reader.after f {}) >>= Reader.settle = _
      from hafter, ← Settled.options_after]
    rfl

theorem parse_flag_cons (f : Flag) {args : List Bytes} {o : Options} (h : parse args = .ok o)
    (hoff : o.isOn f = false) :
    parse (Utf8.bytesOf ("--" ++ f.name) :: args) = .ok (o.turnedOn f) :=
  parse_cons_of_step (step_flag rfl f) h hoff

end LoopAdvice.CommandLine
