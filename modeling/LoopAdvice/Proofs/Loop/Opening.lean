import LoopAdvice.Loop.Header
import Mathlib.Data.List.Infix
import Mathlib.Data.List.TakeWhile
import Mathlib.Tactic.SplitIfs

/-! # Keywords and openings

A *keyword* is `for` and blanks after it (`IsKeyword`). An *opening* is a keyword, a parenthesis and
a clause without line breaks (`IsOpening`): a header that only lacks its end. Both are decidable, and
for both it is said when a text with one more character is one. The *leftmost* suffix of a text with
a property is the first one that a search from left to right meets (`leftmost_some`); appending a
character to all suffixes keeps their order (`leftmost_concat`), and text in front matters only if
the property starts in it (`leftmost_append_of_not`). -/

namespace LoopAdvice.Loop

/-! ### Keywords and openings -/

/-- The letters of the keyword. -/
def letters : List Char := ['f', 'o', 'r']

/-- The keyword and any blanks. -/
def IsKeyword (u : List Char) : Prop := ∃ w, u = letters ++ w ∧ ∀ c ∈ w, isBlank c = true

/-- The keyword, any blanks, an opening parenthesis and a clause without line breaks. -/
def IsOpening (u : List Char) : Prop :=
  ∃ w b, u = letters ++ w ++ '(' :: b ∧ (∀ c ∈ w, isBlank c = true) ∧ '\n' ∉ b

theorem isKeyword_iff {u : List Char} :
    IsKeyword u ↔ letters <+: u ∧ (u.drop 3).all isBlank = true := by
  rw [List.all_eq_true]
  constructor
  · rintro ⟨w, rfl, hw⟩
    exact ⟨List.prefix_append _ _, hw⟩
  · rintro ⟨⟨w, rfl⟩, hw⟩
    exact ⟨w, rfl, hw⟩

/-- The blanks of an opening end where its parenthesis is. -/
theorem dropWhile_blanks {w : List Char} (hw : ∀ c ∈ w, isBlank c = true) (b : List Char) :
    (w ++ '(' :: b).dropWhile isBlank = '(' :: b := by
  rw [List.dropWhile_append_of_pos hw, List.dropWhile_cons_of_neg (by simp [isBlank_open])]

theorem isOpening_iff {u : List Char} :
    IsOpening u ↔ letters <+: u ∧ ((u.drop 3).dropWhile isBlank).head? = some '(' ∧
      '\n' ∉ ((u.drop 3).dropWhile isBlank).tail := by
  constructor
  · rintro ⟨w, b, rfl, hw, hb⟩
    have hd : (letters ++ w ++ '(' :: b).drop 3 = w ++ '(' :: b := by simp [letters]
    rw [hd, dropWhile_blanks hw]
    exact ⟨by simp, rfl, hb⟩
  · rintro ⟨⟨v, rfl⟩, hhead, hb⟩
    have hd : (letters ++ v).drop 3 = v := by simp [letters]
    rw [hd] at hhead hb
    obtain ⟨b, hv⟩ := List.head?_eq_some_iff.mp hhead
    rw [hv] at hb
    refine ⟨v.takeWhile isBlank, b, ?_, fun c hc => List.mem_takeWhile_imp hc, hb⟩
    rw [← hv, List.append_assoc, List.takeWhile_append_dropWhile]

instance : DecidablePred IsKeyword := fun _ => decidable_of_iff _ isKeyword_iff.symm

instance : DecidablePred IsOpening := fun _ => decidable_of_iff _ isOpening_iff.symm

/-- The first character of an opening is the `f` of its keyword. -/
theorem IsOpening.exists_cons {u : List Char} (h : IsOpening u) : ∃ v, u = 'f' :: v := by
  obtain ⟨w, b, rfl, -, -⟩ := h
  exact ⟨_, rfl⟩

theorem IsOpening.head?_eq {u : List Char} (h : IsOpening u) : u.head? = some 'f' := by
  obtain ⟨v, rfl⟩ := h.exists_cons
  rfl

/-- Nothing inside a keyword opens a header. -/
theorem IsKeyword.not_isOpening_of_suffix {d : Char} {s v : List Char} (h : IsKeyword (d :: s))
    (hv : v <:+ s) : ¬ IsOpening v := by
  intro ho
  obtain ⟨w, hw, hb⟩ := h
  obtain ⟨v, rfl⟩ := ho.exists_cons
  obtain ⟨-, rfl⟩ := List.cons.inj hw
  have hf : 'f' ∈ ['o', 'r'] ++ w := hv.subset (by simp)
  rcases List.mem_append.mp hf with hf | hf
  · simp at hf
  · exact absurd (hb _ hf) (by decide)

/-! ### One more character -/

theorem isKeyword_concat_iff {c : Char} {u : List Char} :
    IsKeyword (u ++ [c]) ↔ (isBlank c = true ∧ IsKeyword u) ∨ (c = 'r' ∧ u = ['f', 'o']) := by
  constructor
  · rintro ⟨w, hw, hb⟩
    rcases List.eq_nil_or_concat' w with rfl | ⟨w, d, rfl⟩
    · have hw' : u ++ [c] = ['f', 'o'] ++ ['r'] := hw
      obtain ⟨hu, hcr⟩ := List.append_inj' hw' rfl
      exact Or.inr ⟨List.singleton_inj.mp hcr, hu⟩
    · rw [← List.append_assoc] at hw
      obtain ⟨hu, hcd⟩ := List.append_inj' hw rfl
      rw [List.singleton_inj.mp hcd]
      exact Or.inl ⟨hb d (by simp), w, hu, fun e he => hb e (by simp [he])⟩
  · rintro (⟨hc, w, rfl, hb⟩ | ⟨rfl, rfl⟩)
    · refine ⟨w ++ [c], by rw [List.append_assoc], fun e he => ?_⟩
      rcases List.mem_append.mp he with he | he
      · exact hb e he
      · rw [List.mem_singleton.mp he]; exact hc
    · exact ⟨[], rfl, by simp⟩

theorem isOpening_concat_iff {c : Char} {u : List Char} :
    IsOpening (u ++ [c]) ↔ (c ≠ '\n' ∧ IsOpening u) ∨ (c = '(' ∧ IsKeyword u) := by
  constructor
  · rintro ⟨w, b, hu, hw, hb⟩
    rcases List.eq_nil_or_concat' b with rfl | ⟨b, d, rfl⟩
    · obtain ⟨hu, hc⟩ := List.append_inj' hu rfl
      exact Or.inr ⟨List.singleton_inj.mp hc, w, hu, hw⟩
    · rw [← List.cons_append, ← List.append_assoc] at hu
      obtain ⟨hu, hc⟩ := List.append_inj' hu rfl
      rw [← List.singleton_inj.mp hc] at hb
      exact Or.inl ⟨fun h => hb (by simp [h]), w, b, hu, hw, fun h => hb (by simp [h])⟩
  · rintro (⟨hc, w, b, rfl, hw, hb⟩ | ⟨rfl, w, rfl, hw⟩)
    · exact ⟨w, b ++ [c], by simp, hw, by simp [hb, Ne.symm hc]⟩
    · exact ⟨w, [], by simp, hw, by simp⟩

/-! ### The leftmost suffix with a property -/

/-- The longest suffix of `s` with the property `P`. -/
def leftmost (P : List Char → Prop) [DecidablePred P] (s : List Char) : Option (List Char) :=
  s.tails.find? fun u => P u

section Leftmost
variable (P Q : List Char → Prop) [DecidablePred P] [DecidablePred Q]

theorem leftmost_nil : leftmost P [] = if P [] then some [] else none := by
  unfold leftmost
  by_cases h : P [] <;> simp [h]

theorem leftmost_cons (c : Char) (s : List Char) :
    leftmost P (c :: s) = if P (c :: s) then some (c :: s) else leftmost P s := by
  unfold leftmost
  by_cases h : P (c :: s) <;> simp [h]

theorem leftmost_eq_none_iff {s : List Char} : leftmost P s = none ↔ ∀ u, u <:+ s → ¬ P u := by
  simp [leftmost]

variable {P Q}

theorem leftmost_some {s u : List Char} (h : leftmost P s = some u) :
    P u ∧ ∃ p, s = p ++ u ∧ ∀ i < p.length, ¬ P (s.drop i) := by
  induction s with
  | nil =>
    rw [leftmost_nil] at h
    split_ifs at h with hP
    cases h
    exact ⟨hP, [], rfl, by simp⟩
  | cons c s ih =>
    rw [leftmost_cons] at h
    split_ifs at h with hP
    · cases h
      exact ⟨hP, [], rfl, by simp⟩
    · obtain ⟨hu, p, rfl, hp⟩ := ih h
      refine ⟨hu, c :: p, rfl, fun i hi => ?_⟩
      rcases i with _ | i
      · exact hP
      · exact hp i (by simpa using hi)

/-- **Appending a character to all suffixes keeps the leftmost one leftmost.** -/
theorem leftmost_concat {c : Char} (h0 : ¬ P []) (h : ∀ u, P (u ++ [c]) ↔ Q u) (s : List Char) :
    leftmost P (s ++ [c]) = (leftmost Q s).map (· ++ [c]) := by
  induction s with
  | nil =>
    rw [List.nil_append, leftmost_cons, leftmost_nil, leftmost_nil, if_neg h0]
    have hc := h []
    rw [List.nil_append] at hc
    by_cases hQ : Q []
    · rw [if_pos (hc.mpr hQ), if_pos hQ]; rfl
    · rw [if_neg (fun hP => hQ (hc.mp hP)), if_neg hQ]; rfl
  | cons d s ih =>
    rw [List.cons_append, leftmost_cons, leftmost_cons, ih]
    have hd := h (d :: s)
    rw [List.cons_append] at hd
    by_cases hQ : Q (d :: s)
    · rw [if_pos (hd.mpr hQ), if_pos hQ]; rfl
    · rw [if_neg (fun hP => hQ (hd.mp hP)), if_neg hQ]

/-! ### Text before a text -/

/-- Text in which the property starts nowhere can be left out. -/
theorem leftmost_append_of_not {r s : List Char} (h : ∀ v, v <:+ r → v ≠ [] → ¬ P (v ++ s)) :
    leftmost P (r ++ s) = leftmost P s := by
  induction r with
  | nil => rfl
  | cons c r ih =>
    have hc : ¬ P (c :: (r ++ s)) := h (c :: r) List.suffix_rfl (List.cons_ne_nil c r)
    rw [List.cons_append, leftmost_cons, if_neg hc]
    exact ih fun v hv => h v (hv.trans (List.suffix_cons c r))

/-- Text without the character that the property starts with can be left out. -/
theorem leftmost_append_of_not_mem {a : Char} (hP : ∀ u, P u → u.head? = some a) {r : List Char}
    (hr : a ∉ r) (s : List Char) : leftmost P (r ++ s) = leftmost P s := by
  refine leftmost_append_of_not fun v hv hne hvs => ?_
  obtain ⟨c, v, rfl⟩ := List.exists_cons_of_ne_nil hne
  obtain rfl : c = a := Option.some.inj (hP _ hvs)
  exact hr (hv.subset List.mem_cons_self)

/-- More text in front can only lengthen the leftmost suffix. -/
theorem leftmost_append {s u : List Char} (r : List Char) (h : leftmost P s = some u) :
    ∃ v, leftmost P (r ++ s) = some v ∧ u <:+ v := by
  induction r with
  | nil => exact ⟨u, h, List.suffix_rfl⟩
  | cons c r ih =>
    rw [List.cons_append, leftmost_cons]
    by_cases hc : P (c :: (r ++ s))
    · obtain ⟨-, p, rfl, -⟩ := leftmost_some h
      exact ⟨_, if_pos hc, c :: (r ++ p), by simp⟩
    · rw [if_neg hc]
      exact ih

end Leftmost

end LoopAdvice.Loop
