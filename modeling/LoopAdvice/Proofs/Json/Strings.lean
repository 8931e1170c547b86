import LoopAdvice.Json.Value
import Mathlib.Data.List.Basic
import Mathlib.Tactic.SplitIfs

/-! # The strings of a rendered value

A string opens and closes at a quote, and a backslash in it takes the character after it along
(`Quoting`). A text is *neat* if it ends outside any string and no character below `U+0020`, a line
break above all, stands inside one. Main statement: a rendered value is neat (`neat_render`), so each
of its strings stays on one line. -/

namespace LoopAdvice.Json

/-- Where one is between two characters of a text: outside its strings, inside one, or inside one
after a backslash. -/
inductive Quoting
  | outside
  | inside
  | escaped
  deriving DecidableEq, Repr

def Quoting.step : Quoting → Char → Quoting
  | .outside, c => if c = '"' then .inside else .outside
  | .inside, c => if c = '"' then .outside else if c = '\\' then .escaped else .inside
  | .escaped, _ => .inside

/-- Where one is after a text. -/
def quoting (s : List Char) : Quoting := s.foldl Quoting.step .outside

/-- A text that ends outside any string and keeps the characters below `U+0020` outside as well. -/
structure Neat (s : List Char) : Prop where
  closed : quoting s = .outside
  clear : ∀ before c after, s = before ++ c :: after → c < ' ' → quoting before = .outside

namespace Neat

variable {s t : List Char}

theorem nil : Neat [] := ⟨rfl, fun _ _ _ h => absurd h (by simp)⟩

theorem quoting_append (hs : Neat s) (t : List Char) : quoting (s ++ t) = quoting t := by
  rw [quoting, List.foldl_append, show s.foldl _ _ = _ from hs.closed, quoting]

theorem append (hs : Neat s) (ht : Neat t) : Neat (s ++ t) := by
  refine ⟨by rw [hs.quoting_append, ht.closed], fun before c after h hc => ?_⟩
  rcases List.append_eq_append_iff.mp h with ⟨u, rfl, hu⟩ | ⟨u, hu, hafter⟩
  · rw [hs.quoting_append]
    exact ht.clear u c after hu hc
  · cases u with
    | nil =>
      rw [List.append_nil] at hu
      rw [← hu, hs.closed]
    | cons d u =>
      obtain ⟨rfl, -⟩ := List.cons.inj hafter
      exact hs.clear before c u hu hc

/-- Text without quotes is outside any string. -/
theorem of_not_mem (h : '"' ∉ s) : Neat s := by
  have houtside : ∀ t : List Char, '"' ∉ t → quoting t = .outside := by
    intro t ht
    induction t with
    | nil => rfl
    | cons c t ih =>
      obtain ⟨hc, ht⟩ := List.ne_and_not_mem_of_not_mem_cons ht
      rw [quoting, List.foldl_cons, Quoting.step, if_neg (Ne.symm hc)]
      exact ih ht
  refine ⟨houtside s h, fun before c after hs _ => houtside before fun hmem => h ?_⟩
  rw [hs]
  exact List.mem_append_left _ hmem

theorem cons {c : Char} (hc : c ≠ '"') (hs : Neat s) : Neat (c :: s) :=
  append (s := [c]) (.of_not_mem (by simpa using Ne.symm hc)) hs

end Neat

/-! ### Quoted strings -/

/-- Characters that keep one inside a string, none of them below `U+0020`. -/
def StaysInside (s : List Char) : Prop :=
  s.foldl Quoting.step .inside = .inside ∧ ∀ c ∈ s, ¬ c < ' '

-- The characters of the list are looked at, and not all characters there are.
instance (s : List Char) : Decidable (StaysInside s) :=
  @instDecidableAnd _ _ (inferInstanceAs (Decidable (_ = Quoting.inside)))
    (List.decidableBAll (fun c => ¬ c < ' ') s)

theorem StaysInside.append {s t : List Char} (hs : StaysInside s) (ht : StaysInside t) :
    StaysInside (s ++ t) := by
  refine ⟨by rw [List.foldl_append, hs.1, ht.1], fun c hc => ?_⟩
  rcases List.mem_append.mp hc with hc | hc
  · exact hs.2 c hc
  · exact ht.2 c hc

/-- The spelling of a character below `U+0020` by its number. -/
theorem staysInside_number : ∀ n < 32,
    StaysInside ['\\', 'u', '0', '0', Nat.digitChar (n / 16), Nat.digitChar (n % 16)] := by
  decide

theorem staysInside_escape (c : Char) : StaysInside (escape c) := by
  unfold escape
  split_ifs with hquote hslash hb ht hn hf hr hcontrol
  · decide
  · decide
  · decide
  · decide
  · decide
  · decide
  · decide
  · exact staysInside_number c.toNat hcontrol
  · exact ⟨by simp [Quoting.step, hquote, hslash], by simpa using hcontrol⟩

theorem staysInside_flatMap_escape (s : List Char) : StaysInside (s.flatMap escape) := by
  induction s with
  | nil => decide
  | cons c s ih => exact (staysInside_escape c).append ih

/-- A quoted string has no character below `U+0020` at all. -/
theorem neat_quote (s : List Char) : Neat (quote s) := by
  obtain ⟨hinside, hclear⟩ := staysInside_flatMap_escape s
  refine ⟨?_, fun before c after h hc => ?_⟩
  · rw [quoting, quote, List.cons_append, List.foldl_cons, List.foldl_append,
      show Quoting.step .outside '"' = .inside from rfl, hinside]
    rfl
  · have hmem : c ∈ quote s := h ▸ List.mem_append_right _ List.mem_cons_self
    simp only [quote, List.cons_append, List.mem_cons, List.mem_append, List.not_mem_nil,
      or_false] at hmem
    rcases hmem with rfl | hmem | rfl
    · exact absurd hc (by decide)
    · exact absurd hc (hclear c hmem)
    · exact absurd hc (by decide)

theorem neat_newline (level : Nat) : Neat (newline level) := by
  refine .of_not_mem ?_
  simp [newline, List.mem_replicate]

/-! ### Values -/

mutual

/-- **No string of a rendered value holds a character below `U+0020`.** -/
theorem neat_render : ∀ (v : Value) (level : Nat), Neat (render level v)
  | .null, _ => .of_not_mem (by simp [render])
  | .bool true, _ => .of_not_mem (by simp [render])
  | .bool false, _ => .of_not_mem (by simp [render])
  | .string s, _ => neat_quote s
  | .array [], _ => .of_not_mem (by simp [render])
  | .array (v :: vs), level => by
    rw [render]
    exact ((((neat_newline _).append (neat_render v _)).append (neat_renderItems vs _)).append
      (neat_newline _)).append (.of_not_mem (by decide)) |>.cons (by decide)
  | .object [], _ => .of_not_mem (by simp [render])
  | .object (f :: fs), level => by
    rw [render]
    exact ((((neat_newline _).append (neat_renderField f _)).append (neat_renderFields fs _)).append
      (neat_newline _)).append (.of_not_mem (by decide)) |>.cons (by decide)
termination_by v => sizeOf v

theorem neat_renderItems : ∀ (vs : List Value) (level : Nat), Neat (renderItems level vs)
  | [], _ => .nil
  | v :: vs, level => by
    rw [renderItems]
    exact (((neat_newline _).append (neat_render v _)).append (neat_renderItems vs _)).cons
      (by decide)
termination_by vs => sizeOf vs

theorem neat_renderField : ∀ (f : List Char × Value) (level : Nat), Neat (renderField level f)
  | (k, v), level => by
    rw [renderField]
    exact ((neat_quote k).append (.of_not_mem (by decide))).append (neat_render v _)
termination_by f => sizeOf f

theorem neat_renderFields : ∀ (fs : List (List Char × Value)) (level : Nat),
    Neat (renderFields level fs)
  | [], _ => .nil
  | f :: fs, level => by
    rw [renderFields]
    exact (((neat_newline _).append (neat_renderField f _)).append (neat_renderFields fs _)).cons
      (by decide)
termination_by fs => sizeOf fs

end

end LoopAdvice.Json
