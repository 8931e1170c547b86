import LoopAdvice.Proofs.CommandLine.Flags
import Mathlib.Data.List.Nodup

/-! # Options in any order

A command line of *tokens* gives each option with its value attached, and flags, none of them twice.
Between two tokens the reader holds the values and the flags of those it has read, in whatever order
they came (`Reader.Holds`); a token whose switch is new is added to them (`Reader.Holds.step`). A
source behind `--` may be any path. So every choice of options has its command lines, one for each
order of its tokens, and each of them is read as the choice (`parse_order`). -/

namespace LoopAdvice.CommandLine

/-! ### Tokens -/

theorem mem_switches (s : Switch) : s ∈ switches := by
  rcases s with v | f | _ | _
  · cases v <;> decide
  · cases f <;> decide
  · decide
  · decide

/-- An option with its value attached, or a flag. -/
inductive Token
  | valued (v : Valued) (value : String)
  | flag (f : Flag)
  deriving DecidableEq, Repr

namespace Token

def switch : Token → Switch
  | valued v _ => .valued v
  | flag f => .flag f

/-- How a token is written. -/
def arg : Token → Bytes
  | valued v value => Utf8.bytesOf ("--" ++ v.name ++ "=" ++ value)
  | flag f => Utf8.bytesOf ("--" ++ f.name)

end Token

/-- What a command line is to say; what is absent is left at its default. -/
structure Choice where
  source : Option Bytes := none
  value : Valued → Option String := fun _ => none
  isOn : Flag → Bool := fun _ => false

namespace Choice

def options (c : Choice) : Options where
  source := c.source.getD (Utf8.bytesOf defaultSource)
  profiler := (c.value .profiler).getD Tool.defaultProfiler
  compiler := (c.value .compiler).getD Tool.defaultCompiler
  output := (c.value .output).getD Tool.defaultOutput
  profile := c.isOn .profile
  compile := c.isOn .compile
  noPrompt := c.isOn .noPrompt
  json := c.isOn .json
  verbose := c.isOn .verbose

/-- What is given of a switch. -/
def token? (c : Choice) : Switch → Option Token
  | .valued v => (c.value v).map (.valued v)
  | .flag f => if c.isOn f then some (.flag f) else none
  | .help | .version => none

/-- The tokens of a choice, in one of their orders. -/
def tokens (c : Choice) : List Token := switches.filterMap c.token?

/-- What follows the tokens: the source, behind `--`. -/
def ending (c : Choice) : List Bytes :=
  match c.source with
  | none => []
  | some path => [Utf8.bytesOf "--", path]

variable {c : Choice}

theorem switch_of_token?_eq_some {s : Switch} {t : Token} (h : c.token? s = some t) :
    t.switch = s := by
  cases s with
  | valued v =>
    obtain ⟨value, -, rfl⟩ := Option.map_eq_some_iff.mp h
    rfl
  | flag f =>
    obtain ⟨-, ht⟩ := Option.ite_none_right_eq_some.mp h
    obtain rfl := Option.some.inj ht
    rfl
  | help => cases h
  | version => cases h

theorem mem_tokens_iff {t : Token} : t ∈ c.tokens ↔ c.token? t.switch = some t := by
  rw [tokens, List.mem_filterMap]
  constructor
  · rintro ⟨s, -, hs⟩
    rwa [switch_of_token?_eq_some hs]
  · intro h
    exact ⟨t.switch, mem_switches _, h⟩

theorem valued_mem_tokens_iff {v : Valued} {value : String} :
    .valued v value ∈ c.tokens ↔ c.value v = some value := by
  simp [mem_tokens_iff, Token.switch, token?]

theorem flag_mem_tokens_iff {f : Flag} : .flag f ∈ c.tokens ↔ c.isOn f = true := by
  simp [mem_tokens_iff, Token.switch, token?]

/-- No switch is given twice. -/
theorem nodup_tokens (c : Choice) : (c.tokens.map Token.switch).Nodup := by
  rw [tokens, List.map_filterMap]
  refine List.Nodup.filterMap (fun s s' b hs hs' => ?_) (by decide : switches.Nodup)
  obtain ⟨t, ht, rfl⟩ := Option.map_eq_some_iff.mp hs
  obtain ⟨t', ht', hsame⟩ := Option.map_eq_some_iff.mp hs'
  rw [← switch_of_token?_eq_some ht, ← hsame, switch_of_token?_eq_some ht']

end Choice

/-! ### What the reader holds -/

namespace Reader

/-- The value of a long option may be any text, since its name has no `=`. -/
theorem splitValue_append {name : Bytes} (hname : (0x3D : UInt8) ∉ name) (value : Bytes) :
    splitValue (name ++ 0x3D :: value) = (name, some value) := by
  have hpass : ∀ b ∈ name, (b != 0x3D) = true := fun b hb =>
    bne_iff_ne.mpr fun heq => hname (heq ▸ hb)
  rw [splitValue, List.dropWhile_append_of_pos hpass, List.takeWhile_append_of_pos hpass]
  simp

/-- An option with its value attached is read as that, whatever the value is. -/
theorem step_valued {r : Reader} (h : r.escaped = false) (v : Valued) (value : String) :
    r.step (Token.arg (.valued v value)) = r.attached v (Utf8.bytesOf value) := by
  have hname : (0x3D : UInt8) ∉ Utf8.bytesOf v.name := by cases v <;> decide
  have hbytes : Token.arg (.valued v value) =
      0x2D :: 0x2D :: (Utf8.bytesOf v.name ++ 0x3D :: Utf8.bytesOf value) := by
    rw [Token.arg, Utf8.bytesOf_append, Utf8.bytesOf_append, Utf8.bytesOf_append, List.append_assoc,
      List.append_assoc]
    rfl
  have hstep : r.step (Token.arg (.valued v value)) =
      r.long (splitValue (Utf8.bytesOf v.name ++ 0x3D :: Utf8.bytesOf value)).1
        (splitValue (Utf8.bytesOf v.name ++ 0x3D :: Utf8.bytesOf value)).2 := by
    rw [hbytes]
    cases v <;> exact step_long h _ _
  have hswitch : (Utf8.string? (Utf8.bytesOf v.name)).bind ofLong? = _ := ofLong?_name (.valued v)
  rw [hstep, splitValue_append hname]
  unfold long
  rw [hswitch]

/-- Between two tokens, the reader has read some tokens and nothing else. -/
structure Holds (r : Reader) (ts : List Token) : Prop where
  pending : r.pending = .nothing
  hasSource : r.hasSource = false
  escaped : r.escaped = false
  source : r.settled.source = none
  value : ∀ v value, r.settled.values.lookup v = some value ↔ .valued v value ∈ ts
  flag : ∀ f, f ∈ r.settled.flags ↔ .flag f ∈ ts

theorem holds_nil : Holds {} [] := ⟨rfl, rfl, rfl, rfl, by simp, by simp⟩

namespace Holds

variable {r : Reader} {ts : List Token} (h : r.Holds ts)
include h

theorem settle : r.settle = .ok r := by
  rw [Reader.settle, h.pending]

/-- **A token whose switch is new is added to those that the reader holds.** -/
theorem step {t : Token} (hnew : t.switch ∉ ts.map Token.switch) :
    ∃ q, r.step t.arg = .ok q ∧ q.Holds (t :: ts) := by
  cases t with
  | valued v value =>
    have hfree : ∀ x, Token.valued v x ∉ ts := fun x hx => hnew (List.mem_map.mpr ⟨_, hx, rfl⟩)
    have hlookup : r.settled.values.lookup v = none :=
      Option.eq_none_iff_forall_ne_some.mpr fun x hx => hfree x ((h.value v x).mp hx)
    have hadd : r.settled.addValue v (Utf8.bytesOf value) =
        .ok { r.settled with values := (v, value) :: r.settled.values } := by
      rw [Settled.addValue, hlookup, Utf8.string?_eq_some_iff.mpr rfl]
      rfl
    refine ⟨{ r with settled.values := (v, value) :: r.settled.values }, ?_,
      h.pending, h.hasSource, h.escaped, h.source, fun w x => ?_, fun f => ?_⟩
    · rw [step_valued h.escaped, attached, h.settle]
      exact congrArg (Except.map fun s => { r with settled := s }) hadd
    · by_cases hw : w = v
      · subst hw
        simp [hfree, eq_comm]
      · simp [List.lookup_cons, beq_false_of_ne hw, hw, h.value]
    · simp [h.flag]
  | flag f =>
    have hfree : f ∉ r.settled.flags := fun hf =>
      hnew (List.mem_map.mpr ⟨_, (h.flag f).mp hf, rfl⟩)
    have hadd : r.settled.addFlag f = .ok { r.settled with flags := f :: r.settled.flags } := by
      rw [Settled.addFlag, if_neg (by simpa using hfree)]
    refine ⟨{ r with settled.flags := f :: r.settled.flags }, ?_,
      h.pending, h.hasSource, h.escaped, h.source, fun w x => ?_, fun g => ?_⟩
    · rw [Token.arg, step_flag h.escaped, turnOn, h.settle]
      exact congrArg (Except.map fun s => { r with settled := s }) hadd
    · simp [h.value]
    · simp [h.flag]

/-- **Tokens none of whose switches is given twice are all read**, from wherever the reader has read
tokens only. -/
theorem foldlM {us : List Token} (hnew : ((us ++ ts).map Token.switch).Nodup) :
    ∃ q, (us.map Token.arg).foldlM Reader.step r = .ok q ∧ q.Holds (us.reverse ++ ts) := by
  induction us generalizing r ts with
  | nil => exact ⟨r, rfl, h⟩
  | cons t us ih =>
    obtain ⟨hfirst, -⟩ := List.nodup_cons.mp hnew
    obtain ⟨q, hq, hholds⟩ := h.step (t := t) fun ht => hfirst (by simp [List.mem_map.mp ht])
    obtain ⟨q', hq', hholds'⟩ := ih hholds (by
      rw [List.map_append, List.map_cons, List.nodup_middle]
      simpa using hnew)
    refine ⟨q', ?_, by simpa using hholds'⟩
    rw [List.map_cons, List.foldlM_cons, hq]
    exact hq'

/-- The source behind `--` is settled at the end, whatever its bytes are. -/
theorem foldlM_source {path : Bytes} (hpath : path ≠ []) :
    [Utf8.bytesOf "--", path].foldlM Reader.step r >>= Reader.settle =
      .ok ⟨{ r.settled with source := some path }, .nothing, true, true⟩ := by
  have hescape : r.step (Utf8.bytesOf "--") = .ok { r with escaped := true } :=
    step_escape h.escaped
  have hplain : Reader.step { r with escaped := true } path =
      .ok ⟨r.settled, .source path, true, true⟩ := by
    simp [Reader.step, plain, Reader.settle, h.pending, h.hasSource, bind, Except.bind, pure,
      Except.pure]
  have hadd : r.settled.addSource path = .ok { r.settled with source := some path } := by
    rw [Settled.addSource, if_neg (by simpa using hpath)]
  rw [List.foldlM_cons, hescape]
  change ([path].foldlM Reader.step { r with escaped := true } >>= Reader.settle) = _
  rw [List.foldlM_cons, hplain]
  exact congrArg (Except.map fun s => Reader.mk s .nothing true true) hadd

/-- What the reader has settled is a choice if it holds its tokens. -/
theorem options_eq {c : Choice} (hts : ∀ t, t ∈ ts ↔ t ∈ c.tokens) :
    ({ r.settled with source := c.source } : Settled).options = c.options := by
  have hvalue : ∀ v, r.settled.values.lookup v = c.value v := fun v =>
    Option.ext fun x => by rw [h.value, hts, Choice.valued_mem_tokens_iff]
  have hflag : ∀ f, r.settled.flags.contains f = c.isOn f := fun f => by
    rw [Bool.eq_iff_iff, List.contains_iff_mem, h.flag, hts, Choice.flag_mem_tokens_iff]
  simp only [Settled.options, Settled.value, Choice.options, hvalue, hflag]

end Holds

end Reader

/-! ### Whole command lines -/

/-- **A command line can say every choice of options, in any order**: the source may be any path but
the empty one, a value any text, and what is left out is at its default. -/
theorem parse_order (c : Choice) (hsource : ∀ path ∈ c.source, path ≠ []) {order : List Token}
    (horder : order.Perm c.tokens) :
    parse (order.map Token.arg ++ c.ending) = .ok c.options ∧
    c.options.profileDecision = (if .flag .profile ∈ order then .yes
      else if .flag .noPrompt ∈ order then .no else .ask) ∧
    c.options.compileDecision = (if .flag .compile ∈ order then .yes
      else if .flag .noPrompt ∈ order then .no else .ask) := by
  have hflag : ∀ f, .flag f ∈ order ↔ c.isOn f = true := fun f =>
    horder.mem_iff.trans Choice.flag_mem_tokens_iff
  refine ⟨?_, by simp only [hflag]; rfl, by simp only [hflag]; rfl⟩
  have hnodup : ((order ++ []).map Token.switch).Nodup := by
    rw [List.append_nil]
    exact (horder.map Token.switch).nodup_iff.mpr c.nodup_tokens
  obtain ⟨q, hq, hholds⟩ := Reader.holds_nil.foldlM hnodup
  have hts : ∀ t, t ∈ order.reverse ++ [] ↔ t ∈ c.tokens := by simp [horder.mem_iff]
  have hfold : (order.map Token.arg ++ c.ending).foldlM Reader.step {} >>= Reader.settle =
      c.ending.foldlM Reader.step q >>= Reader.settle := by
    rw [List.foldlM_append, hq]
    rfl
  have hoptions := hholds.options_eq hts
  rw [parse_eq, hfold, Choice.ending]
  cases hc : c.source with
  | none =>
    have hnone : ({ q.settled with source := c.source } : Settled) = q.settled := by
      rw [hc, ← hholds.source]
    have hsettle : ([] : List Bytes).foldlM Reader.step q >>= Reader.settle = .ok q :=
      hholds.settle
    rw [hsettle]
    exact congrArg Except.ok ((congrArg Settled.options hnone).symm.trans hoptions)
  | some path =>
    dsimp only
    rw [hholds.foldlM_source (hsource path hc)]
    exact congrArg Except.ok (hc ▸ hoptions)

/-- Values that look like options, and a source that looks like one and is no text. -/
def misleading : Choice where
  source := some [0x2D, 0x2D, 0x6A, 0xFF]
  value
    | .profiler => some "--json"
    | .compiler => some "a=-b"
    | .output => some ""
  isOn f := f = .profile ∨ f = .noPrompt

theorem parse_order_misleading :
    let order : List Token := [.flag .profile, .valued .output "", .valued .profiler "--json",
      .flag .noPrompt, .valued .compiler "a=-b"]
    order.map Token.arg ++ misleading.ending = [Utf8.bytesOf "--profile", Utf8.bytesOf "--output=",
      Utf8.bytesOf "--profiler=--json", Utf8.bytesOf "--no-prompt", Utf8.bytesOf "--compiler=a=-b",
      Utf8.bytesOf "--", [0x2D, 0x2D, 0x6A, 0xFF]] ∧
    (∀ path ∈ misleading.source, path ≠ []) ∧ order.Perm misleading.tokens ∧
    parse (order.map Token.arg ++ misleading.ending) = .ok {
      source := [0x2D, 0x2D, 0x6A, 0xFF], profiler := "--json", compiler := "a=-b", output := "",
      profile := true, noPrompt := true } ∧
    misleading.options.profileDecision = .yes ∧ misleading.options.compileDecision = .no := by
  intro order
  have hsource : ∀ path ∈ misleading.source, path ≠ [] := by
    rintro _ ⟨⟩
    exact List.cons_ne_nil _ _
  have horder : order.Perm misleading.tokens := by decide
  obtain ⟨hparse, hprofile, hcompile⟩ := parse_order misleading hsource horder
  exact ⟨by decide, hsource, horder, hparse, hprofile, hcompile⟩

end LoopAdvice.CommandLine
