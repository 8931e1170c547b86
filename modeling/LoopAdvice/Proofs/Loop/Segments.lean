import LoopAdvice.Proofs.Loop.Search

/-! # Headers by segments

The closing parentheses of a text cut it into segments. Every segment but the last is looked at on
its own: the leftmost position from which its rest is an opening (`openingAt?`), if there is one,
gives one header, which runs to the parenthesis that ends the segment. These are the headers of the
text, in order (`headers_eq_segments`). -/

namespace LoopAdvice.Loop

/-- The leftmost position of a segment from which the rest is an opening. -/
def openingAt? (s : List Char) : Option ℕ :=
  (List.range s.length).find? fun i => IsOpening (s.drop i)

/-- The header that the parenthesis after a segment ends. -/
def headerOfSegment? (s : List Char) : Option (List Char) :=
  (openingAt? s).map fun i => s.drop i ++ [')']

theorem openingAt?_eq_none {s : List Char} (h : leftmost IsOpening s = none) :
    openingAt? s = none := by
  refine List.find?_eq_none.mpr fun i _ => ?_
  have := (leftmost_eq_none_iff _).mp h (s.drop i) (List.drop_suffix i s)
  simpa using this

theorem openingAt?_eq_some {s u : List Char} (h : leftmost IsOpening s = some u) :
    ∃ i, openingAt? s = some i ∧ s.drop i = u := by
  obtain ⟨hu, p, rfl, hp⟩ := leftmost_some h
  refine ⟨p.length, ?_, List.drop_left⟩
  have hpos : 0 < u.length := by
    obtain ⟨v, rfl⟩ := hu.exists_cons
    simp
  refine List.find?_range_eq_some.mpr ⟨by simpa using hu, by simp; omega, fun i hi => ?_⟩
  simpa using hp i hi

/-- The search and the position agree on a segment. -/
theorem closed?_eq_headerOfSegment? (s : List Char) : closed? s = headerOfSegment? s := by
  unfold closed? headerOfSegment?
  cases h : leftmost IsOpening s with
  | none => rw [openingAt?_eq_none h]; rfl
  | some u =>
    obtain ⟨i, hi, rfl⟩ := openingAt?_eq_some h
    rw [hi]; rfl

theorem headers_eq_filterMap (t : List Char) :
    headers t = (t.splitOn ')').dropLast.filterMap headerOfSegment? := by
  induction t using close_induction with
  | last s hs => rw [headers_of_not_mem hs, List.splitOn_eq_singleton hs]; rfl
  | close s t hs ih =>
    rw [headers_append_close hs, List.splitOn_append_cons_self_of_not_mem hs,
      List.dropLast_cons_of_ne_nil (List.splitOn_ne_nil _ _), List.filterMap_cons, ih,
      closed?_eq_headerOfSegment?]
    cases headerOfSegment? s <;> rfl

/-- There are no more headers than closing parentheses. -/
theorem length_headers_le (t : List Char) : (headers t).length ≤ t.count ')' := by
  induction t using close_induction with
  | last s hs => simp [headers_of_not_mem hs]
  | close s t hs ih =>
    have h1 : (closed? s).toList.length ≤ 1 := by cases closed? s <;> simp
    rw [headers_append_close hs, List.length_append, List.count_append, List.count_cons_self]
    omega

/-- **The headers of a text are read off its segments one by one**: no header crosses a closing
parenthesis, each parenthesis ends at most one, and no segment has a say in another. -/
theorem headers_eq_segments (t : List Char) :
    headers t = (t.splitOn ')').dropLast.filterMap headerOfSegment? ∧
      (headers t).length ≤ t.count ')' ∧
      ∀ a b : List Char, headers (a ++ ')' :: b) = headers (a ++ [')']) ++ headers b :=
  ⟨headers_eq_filterMap t, length_headers_le t, headers_append_of_close⟩

/-- A header that fails at a line break does not hide the next one, and one that is open hides those
inside it. -/
example : headers "for (a\nfor (int i<2) forfor(for (b) )".toList =
    ["for (int i<2)".toList, "for(for (b)".toList] := by decide

end LoopAdvice.Loop
