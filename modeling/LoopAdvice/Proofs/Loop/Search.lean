import LoopAdvice.Proofs.Loop.Opening

/-! # What the search knows about the text before it

After the characters `s` since the last closing parenthesis, the search holds two suffixes of `s` and
no more: the one that is a keyword, and the leftmost one that is an opening (`Search.Reads`). Each
character takes what it holds after `s` to what it holds after `s` and the character
(`Search.Reads.step`). So a segment up to its closing parenthesis gives at most one header, and what
follows is searched afresh (`headers_append_close`). -/

namespace LoopAdvice.Loop

/-! ### The state after a text -/

theorem last_of_suffix {u s : List Char} {c : Char} (h : u <:+ s) (hu : u.getLast? = some c) :
    s.getLast? = some c := by
  obtain ⟨p, rfl⟩ := h
  rw [List.getLast?_append, hu]; rfl

theorem suffix_one_iff {a c : Char} {s : List Char} : [a] <:+ s ++ [c] ↔ a = c := by
  constructor
  · intro h
    have := last_of_suffix h (c := a) rfl
    simpa [eq_comm] using this
  · rintro rfl
    exact List.suffix_append s [a]

theorem suffix_two_iff {a b c : Char} {s : List Char} :
    [a, b] <:+ s ++ [c] ↔ b = c ∧ [a] <:+ s := by
  rw [List.suffix_concat_iff]
  constructor
  · rintro (h | ⟨t, ht, hs⟩)
    · simp at h
    · obtain ⟨rfl, h⟩ := List.append_inj' (show [a] ++ [b] = t ++ [c] from ht) rfl
      exact ⟨List.singleton_inj.mp h, hs⟩
  · rintro ⟨rfl, hs⟩
    exact Or.inr ⟨[a], rfl, hs⟩

/-- A keyword ends with its last letter or with a blank. -/
theorem IsKeyword.last {u : List Char} (h : IsKeyword u) :
    ∃ c, u.getLast? = some c ∧ (c = 'r' ∨ isBlank c = true) := by
  obtain ⟨w, rfl, hb⟩ := h
  rcases List.eq_nil_or_concat' w with rfl | ⟨w, d, rfl⟩
  · exact ⟨'r', rfl, Or.inl rfl⟩
  · exact ⟨d, by simp, Or.inr (hb d (by simp))⟩

/-- A text that ends with another character does not end with a keyword. -/
theorem leftmost_isKeyword_eq_none {s : List Char} {c : Char} (hs : s.getLast? = some c)
    (hr : c ≠ 'r') (hb : isBlank c = false) : leftmost IsKeyword s = none := by
  refine (leftmost_eq_none_iff _).mpr fun u hu hk => ?_
  obtain ⟨d, hd, hd'⟩ := hk.last
  have hcd : some c = some d := hs.symm.trans (last_of_suffix hu hd)
  obtain rfl := Option.some.inj hcd
  rcases hd' with rfl | hd'
  · exact hr rfl
  · rw [hb] at hd'; cases hd'

/-- A blank makes a keyword longer. -/
theorem leftmost_isKeyword_concat {c : Char} (hc : isBlank c = true) (s : List Char) :
    leftmost IsKeyword (s ++ [c]) = (leftmost IsKeyword s).map (· ++ [c]) := by
  have hr : c ≠ 'r' := fun h => by rw [h] at hc; exact absurd hc (by decide)
  refine leftmost_concat (by decide) (fun u => ?_) s
  rw [isKeyword_concat_iff]
  simp [hc, hr]

/-- The last letter completes the keyword. -/
theorem leftmost_isKeyword_complete {s : List Char} (h : ['f', 'o'] <:+ s) :
    leftmost IsKeyword (s ++ ['r']) = some letters := by
  have hQ : leftmost (fun u => u = ['f', 'o']) s = some ['f', 'o'] := by
    cases hl : leftmost (fun u => u = ['f', 'o']) s with
    | none => exact absurd rfl ((leftmost_eq_none_iff _).mp hl _ h)
    | some u => rw [(leftmost_some hl).1]
  rw [leftmost_concat (Q := fun u => u = ['f', 'o']) (by decide) (fun u => ?_) s, hQ]
  · rfl
  · rw [isKeyword_concat_iff]
    simp [show isBlank 'r' = false by decide]

/-- Nothing else ends a keyword. -/
theorem leftmost_isKeyword_concat_eq_none {c : Char} {s : List Char} (hc : isBlank c = false)
    (h : c = 'r' → ¬ ['f', 'o'] <:+ s) : leftmost IsKeyword (s ++ [c]) = none := by
  refine (leftmost_eq_none_iff _).mpr fun u hu hk => ?_
  rcases List.suffix_concat_iff.mp hu with rfl | ⟨v, rfl, hv⟩
  · exact absurd hk (by decide)
  · rcases isKeyword_concat_iff.mp hk with ⟨hb, -⟩ | ⟨hr, rfl⟩
    · rw [hc] at hb; cases hb
    · exact h hr hv

/-- How much of an opening a text ends with. -/
inductive Opening.Reads : Opening → List Char → Prop
  | f {s} : ['f'] <:+ s → Reads .f s
  | fo {s} : ['f', 'o'] <:+ s → Reads .fo s
  | keyword {s u} : leftmost IsKeyword s = some u → Reads (.keyword u.reverse) s
  | nothing {s} : leftmost IsKeyword s = none → ¬ ['f', 'o'] <:+ s → ¬ ['f'] <:+ s →
      Reads .nothing s

theorem not_suffix_of_suffix {u v s : List Char} {c d : Char} (hu : u <:+ s)
    (hc : u.getLast? = some c) (hd : v.getLast? = some d) (hne : c ≠ d) : ¬ v <:+ s := fun hv =>
  hne (Option.some.inj ((last_of_suffix hu hc).symm.trans (last_of_suffix hv hd)))

theorem Opening.reads_nothing_concat {c : Char} {s : List Char} (hf : c ≠ 'f')
    (ho : c = 'o' → ¬ ['f'] <:+ s) (hr : c = 'r' → ¬ ['f', 'o'] <:+ s)
    (hb : isBlank c = true → leftmost IsKeyword s = none) : Reads .nothing (s ++ [c]) := by
  refine .nothing ?_ (fun h => ?_) (fun h => hf (suffix_one_iff.mp h).symm)
  · cases hc : isBlank c
    · exact leftmost_isKeyword_concat_eq_none hc hr
    · rw [leftmost_isKeyword_concat hc, hb hc]; rfl
  · obtain ⟨hoc, hs⟩ := suffix_two_iff.mp h
    exact ho hoc.symm hs

theorem Opening.Reads.step {o : Opening} {s : List Char} (h : o.Reads s) (c : Char) :
    (o.step c).Reads (s ++ [c]) := by
  unfold Opening.step
  by_cases hf : c = 'f'
  · rw [if_pos hf, hf]
    exact .f (suffix_one_iff.mpr rfl)
  rw [if_neg hf]
  cases h with
  | f hs =>
    by_cases ho : c = 'o'
    · simp only [ho, if_true]
      exact .fo (suffix_two_iff.mpr ⟨rfl, hs⟩)
    · simp only [ho, if_false]
      exact reads_nothing_concat hf (fun h => absurd h ho)
        (fun _ => not_suffix_of_suffix hs (c := 'f') (d := 'o') rfl rfl (by decide))
        fun _ => leftmost_isKeyword_eq_none (last_of_suffix hs rfl) (by decide) (by decide)
  | fo hs =>
    by_cases hr : c = 'r'
    · simp only [hr, if_true]
      exact .keyword (leftmost_isKeyword_complete hs)
    · simp only [hr, if_false]
      exact reads_nothing_concat hf
        (fun _ => not_suffix_of_suffix hs (c := 'o') (d := 'f') rfl rfl (by decide))
        (fun h => absurd h hr)
        fun _ => leftmost_isKeyword_eq_none (last_of_suffix hs rfl) (by decide) (by decide)
  | @keyword _ u hu =>
    cases hb : isBlank c with
    | true =>
      have hu' : leftmost IsKeyword (s ++ [c]) = some (u ++ [c]) := by
        rw [leftmost_isKeyword_concat hb, hu]; rfl
      simpa using Opening.Reads.keyword hu'
    | false =>
      have hends : ∀ d, s.getLast? = some d → d ≠ 'r' → isBlank d = true := fun d hd hr => by
        by_contra hbd
        rw [leftmost_isKeyword_eq_none hd hr (by simpa using hbd)] at hu
        cases hu
      refine reads_nothing_concat hf (fun _ h => ?_) (fun _ h => ?_) (fun h => ?_)
      · exact absurd (hends 'f' (last_of_suffix h rfl) (by decide)) (by decide)
      · exact absurd (hends 'o' (last_of_suffix h rfl) (by decide)) (by decide)
      · rw [hb] at h; cases h
  | nothing hk hfo hs =>
    exact reads_nothing_concat hf (fun _ => hs) (fun _ => hfo) fun _ => hk

/-! ### The open clause -/

/-- Where a keyword starts, no header has been opened later. -/
theorem leftmost_or (s : List Char) :
    leftmost (fun u => IsOpening u ∨ IsKeyword u) s =
      (leftmost IsOpening s).or (leftmost IsKeyword s) := by
  induction s with
  | nil => decide
  | cons d s ih =>
    rw [leftmost_cons, leftmost_cons, leftmost_cons, ih]
    by_cases ho : IsOpening (d :: s)
    · rw [if_pos (Or.inl ho), if_pos ho]; rfl
    · rw [if_neg ho]
      by_cases hk : IsKeyword (d :: s)
      · have hnone : leftmost IsOpening s = none :=
          (leftmost_eq_none_iff _).mpr fun v hv => hk.not_isOpening_of_suffix hv
        rw [if_pos (Or.inr hk), if_pos hk, hnone]; rfl
      · rw [if_neg (not_or.mpr ⟨ho, hk⟩), if_neg hk]

/-- What the search holds after the text `s` since the last closing parenthesis. -/
structure Search.Reads (st : Search) (found : List (List Char)) (s : List Char) : Prop where
  opening : st.opening.Reads s
  clause : st.clause = (leftmost IsOpening s).map List.reverse
  found : st.found = found

theorem leftmost_isOpening_newline (s : List Char) : leftmost IsOpening (s ++ ['\n']) = none := by
  refine (leftmost_eq_none_iff _).mpr fun u hu ho => ?_
  rcases List.suffix_concat_iff.mp hu with rfl | ⟨v, rfl, -⟩
  · exact absurd ho (by decide)
  · rcases isOpening_concat_iff.mp ho with ⟨h, -⟩ | ⟨h, -⟩ <;> simp at h

theorem leftmost_isOpening_paren (s : List Char) :
    leftmost IsOpening (s ++ ['(']) =
      ((leftmost IsOpening s).or (leftmost IsKeyword s)).map (· ++ ['(']) := by
  rw [← leftmost_or]
  refine leftmost_concat (by decide) (fun u => ?_) s
  rw [isOpening_concat_iff]
  simp

theorem leftmost_isOpening_concat {c : Char} (hn : c ≠ '\n') (hp : c ≠ '(') (s : List Char) :
    leftmost IsOpening (s ++ [c]) = (leftmost IsOpening s).map (· ++ [c]) := by
  refine leftmost_concat (by decide) (fun u => ?_) s
  rw [isOpening_concat_iff]
  simp [hn, hp]

/-- The keyword that a parenthesis would make an opening, last character first. -/
def Opening.read? : Opening → Option (List Char)
  | .keyword read => some read
  | _ => none

theorem Opening.Reads.read? {o : Opening} {s : List Char} (h : o.Reads s) :
    o.read? = (leftmost IsKeyword s).map List.reverse := by
  cases h with
  | f hs => rw [leftmost_isKeyword_eq_none (last_of_suffix hs rfl) (by decide) (by decide)]; rfl
  | fo hs => rw [leftmost_isKeyword_eq_none (last_of_suffix hs rfl) (by decide) (by decide)]; rfl
  | keyword hu => rw [hu]; rfl
  | nothing hk => rw [hk]; rfl

/-- A header is open after a parenthesis if one was open before it, or a keyword stands there. -/
theorem Search.extend_paren (st : Search) :
    st.extend '(' = (st.clause.or st.opening.read?).map ('(' :: ·) := by
  obtain ⟨o, clause, found⟩ := st
  cases clause <;> cases o <;> rfl

theorem Search.extend_of_ne {c : Char} (hn : c ≠ '\n') (hp : c ≠ '(') (st : Search) :
    st.extend c = st.clause.map (c :: ·) := by
  obtain ⟨o, clause, found⟩ := st
  cases clause <;> cases o <;> simp [Search.extend, hn, hp]

theorem Search.Reads.clause_extend {st : Search} {found : List (List Char)} {s : List Char}
    (h : st.Reads found s) (c : Char) :
    st.extend c = (leftmost IsOpening (s ++ [c])).map List.reverse := by
  by_cases hn : c = '\n'
  · rw [hn, leftmost_isOpening_newline]; rfl
  by_cases hp : c = '('
  · rw [hp, Search.extend_paren, leftmost_isOpening_paren, h.clause, h.opening.read?, ← Option.map_or,
      Option.map_map, Option.map_map]
    congr 1
    funext u
    simp
  · rw [Search.extend_of_ne hn hp, leftmost_isOpening_concat hn hp, h.clause, Option.map_map,
      Option.map_map]
    congr 1
    funext u
    simp

/-- **One character takes what the search holds after `s` to what it holds after `s` and the
character.** -/
theorem Search.Reads.step {st : Search} {found : List (List Char)} {s : List Char} {c : Char}
    (h : st.Reads found s) (hc : c ≠ ')') : (st.step c).Reads found (s ++ [c]) := by
  unfold Search.step
  rw [if_neg hc]
  exact ⟨h.opening.step c, h.clause_extend c, h.found⟩

theorem Search.Reads.foldl_step {found : List (List Char)} : ∀ {t s : List Char} {st : Search},
    st.Reads found s → ')' ∉ t → (t.foldl Search.step st).Reads found (s ++ t)
  | [], s, st, h, _ => by simpa using h
  | c :: t, s, st, h, ht => by
    have hc : c ≠ ')' := fun hc => ht (by simp [hc])
    have ih := (h.step hc).foldl_step (t := t) (fun h' => ht (by simp [h']))
    simpa using ih

/-- The state at the start of a segment. -/
theorem Search.reads_nil (found : List (List Char)) :
    (⟨.nothing, none, found⟩ : Search).Reads found [] :=
  ⟨.nothing (by decide) (by decide) (by decide), rfl, rfl⟩

/-! ### Segments -/

theorem Search.foldl_found (found : List (List Char)) : ∀ (t : List Char) (st : Search),
    (t.foldl Search.step { st with found := st.found ++ found }).found =
      (t.foldl Search.step st).found ++ found
  | [], _ => rfl
  | c :: t, st => by
    have hstep : Search.step { st with found := st.found ++ found } c =
        { st.step c with found := (st.step c).found ++ found } := by
      unfold Search.step
      split_ifs
      · simp
      · rfl
    rw [List.foldl_cons, List.foldl_cons, hstep, foldl_found found t]

/-- The header that a closing parenthesis after `s` ends, if there is one. -/
def closed? (s : List Char) : Option (List Char) := (leftmost IsOpening s).map (· ++ [')'])

/-- A text without a closing parenthesis has no headers. -/
theorem headers_of_not_mem {s : List Char} (h : ')' ∉ s) : headers s = [] := by
  have hs := (Search.reads_nil []).foldl_step h
  unfold headers
  rw [show ({} : Search) = ⟨.nothing, none, []⟩ from rfl, hs.found]; rfl

/-- **The first closing parenthesis ends at most one header, and what follows is searched
afresh.** -/
theorem headers_append_close {s : List Char} (h : ')' ∉ s) (t : List Char) :
    headers (s ++ ')' :: t) = (closed? s).toList ++ headers t := by
  have hs := (Search.reads_nil []).foldl_step h
  unfold headers
  rw [show ({} : Search) = ⟨.nothing, none, []⟩ from rfl, List.foldl_append, List.foldl_cons]
  set st := s.foldl Search.step ⟨.nothing, none, []⟩ with hst
  have hclose : st.step ')' = ⟨.nothing, none, [] ++ (closed? s).toList⟩ := by
    unfold Search.step closed?
    rw [if_pos rfl, hs.clause, hs.found, List.nil_append, Option.map_map]
    cases leftmost IsOpening s with
    | none => rfl
    | some u => simp
  rw [hclose, Search.foldl_found _ t ⟨.nothing, none, []⟩, List.reverse_append]
  cases closed? s <;> rfl

/-- Every text is free of closing parentheses, or a segment, its closing parenthesis and a text. -/
theorem close_induction {motive : List Char → Prop} (last : ∀ s, ')' ∉ s → motive s)
    (close : ∀ s t, ')' ∉ s → motive t → motive (s ++ ')' :: t)) (t : List Char) : motive t := by
  by_cases h : ')' ∈ t
  · obtain ⟨s, r, rfl, hs⟩ := List.eq_append_cons_of_mem h
    exact close s r hs (close_induction last close r)
  · exact last t h
termination_by t.length

/-- **A closing parenthesis separates the searches before and after it.** -/
theorem headers_append_of_close (a b : List Char) :
    headers (a ++ ')' :: b) = headers (a ++ [')']) ++ headers b := by
  induction a using close_induction with
  | last s hs =>
    rw [headers_append_close hs b, headers_append_close hs [], headers_of_not_mem (s := []) (by simp),
      List.append_nil]
  | close s a hs ih =>
    rw [List.append_assoc, List.append_assoc, List.cons_append, List.cons_append,
      headers_append_close hs, headers_append_close hs, ih, List.append_assoc]

end LoopAdvice.Loop
