import LoopAdvice.Workflow
import LoopAdvice.Proofs.Run.Course
import LoopAdvice.Proofs.Loop.Appending
import LoopAdvice.Proofs.Loop.Division

/-! # Where two texts meet

The remainder of the first text has a say in one header of the second only, the one that the first
closing parenthesis ends (`headers_prepend`). A header that runs across the seam ends there too, so
it takes in the header that was there, as its own end (`closed?_append`), and is a candidate if that
one was. Hence the seam gains one header at most, and loses none (`counts_append`).

Nothing runs across the seam after a closing parenthesis, nor after a line break that is not among
the blanks of a keyword: there the headers of the two texts are those of the texts taken apart
(`headers_append_of_safe`). -/

namespace LoopAdvice.Loop

/-! ### The first closing parenthesis -/

/-- What stands before a text has a say in the first closing parenthesis only. -/
theorem headers_prepend {r : List Char} (hr : ')' ∉ r) (b : List Char) :
    (headers (r ++ b) = [] ∧ headers b = []) ∨
      ∃ s t, headers (r ++ b) = (closed? (r ++ s)).toList ++ headers t ∧
        headers b = (closed? s).toList ++ headers t := by
  by_cases hb : ')' ∈ b
  · obtain ⟨s, t, rfl, hs⟩ := List.eq_append_cons_of_mem hb
    have hrs : ')' ∉ r ++ s := by simp [hr, hs]
    refine Or.inr ⟨s, t, ?_, headers_append_close hs t⟩
    rw [← List.append_assoc, headers_append_close hrs]
  · have hrb : ')' ∉ r ++ b := by simp [hr, hb]
    exact Or.inl ⟨headers_of_not_mem hrb, headers_of_not_mem hb⟩

/-- A header that is open already takes in the one that is opened later. -/
theorem closed?_append {s h : List Char} (r : List Char) (hs : closed? s = some h) :
    ∃ k, closed? (r ++ s) = some k ∧ h <:+ k := by
  unfold closed? at hs ⊢
  obtain ⟨u, hu, rfl⟩ := Option.map_eq_some_iff.mp hs
  obtain ⟨v, hv, p, rfl⟩ := leftmost_append r hu
  rw [hv]
  exact ⟨_, rfl, p, by simp⟩

/-- What ends with a candidate mentions `int` and has a `<`. -/
theorem isCandidate_of_suffix {h k : List Char} (hk : h <:+ k) (hh : isCandidate h = true) :
    isCandidate k = true := by
  rw [isCandidate_iff] at hh ⊢
  exact ⟨hh.1.trans hk.isInfix, hk.subset hh.2⟩

/-! ### Counting -/

section Counting
variable {q : List Char → Bool} (hq : ∀ {h k : List Char}, h <:+ k → q h = true → q k = true)
include hq

theorem countP_closed?_le (r s : List Char) :
    (closed? s).toList.countP q ≤ (closed? (r ++ s)).toList.countP q := by
  cases hs : closed? s with
  | none => simp
  | some h =>
    obtain ⟨k, hk, hhk⟩ := closed?_append r hs
    rw [hk, Option.toList_some, Option.toList_some, List.countP_singleton, List.countP_singleton]
    by_cases hh : q h = true
    · rw [if_pos hh, if_pos (hq hhk hh)]
    · rw [if_neg hh]
      exact Nat.zero_le _

/-- Text without a closing parenthesis in front gains one header at most, and loses none. -/
theorem countP_headers_prepend {r : List Char} (hr : ')' ∉ r) (b : List Char) :
    (headers b).countP q ≤ (headers (r ++ b)).countP q ∧
      (headers (r ++ b)).countP q ≤ (headers b).countP q + 1 := by
  rcases headers_prepend hr b with ⟨hrb, hb⟩ | ⟨s, t, hrb, hb⟩
  · rw [hrb, hb]
    exact ⟨le_rfl, Nat.zero_le _⟩
  · have hle := countP_closed?_le hq r s
    have hone : (closed? (r ++ s)).toList.countP q ≤ 1 :=
      List.countP_le_length.trans (Option.length_toList_le)
    rw [hrb, hb, List.countP_append, List.countP_append]
    omega

/-- **A property that goes over to all that ends with it is found in two texts together as often as
in them apart, or once more.** -/
theorem countP_headers_append (a b : List Char) :
    (headers a).countP q + (headers b).countP q ≤ (headers (a ++ b)).countP q ∧
      (headers (a ++ b)).countP q ≤ (headers a).countP q + (headers b).countP q + 1 := by
  obtain ⟨hle, hge⟩ := countP_headers_prepend hq (close_notMem_remainder a) b
  rw [headers_append, List.countP_append]
  omega

end Counting

/-- **Two texts together have as many headers as apart, or one more, and so it is with the candidates,
which are what a scan answers.** -/
theorem counts_append (a b : List Char) :
    ((headers a).length + (headers b).length ≤ (headers (a ++ b)).length ∧
      (headers (a ++ b)).length ≤ (headers a).length + (headers b).length + 1) ∧
    ((candidates a).length + (candidates b).length ≤ (candidates (a ++ b)).length ∧
      (candidates (a ++ b)).length ≤ (candidates a).length + (candidates b).length + 1) ∧
    ∀ (t : List Char) (p : Progress), (Advisor.scan t).answer p = .ok (candidates t).length := by
  refine ⟨?_, ?_, fun t p => rfl⟩
  · have h := countP_headers_append (q := fun _ => true) (fun _ _ => rfl) a b
    simpa only [List.countP_true] using h
  · have h := countP_headers_append isCandidate_of_suffix a b
    simpa only [candidates, ← List.countP_eq_length_filter] using h

/-- The header across the seam hides the one of the second text or is a new one. -/
example :
    candidates ("for (int i ".toList ++ "for (int j < n)".toList) =
      ["for (int i for (int j < n)".toList] ∧
    candidates ("for (int i ".toList ++ "< n)".toList) = ["for (int i < n)".toList] := by decide

/-! ### Safe seams -/

/-- Text that never has a say in the leftmost opening can be left out. -/
theorem headers_append_of_leftmost {r : List Char} (hr : ')' ∉ r)
    (h : ∀ s, leftmost IsOpening (r ++ s) = leftmost IsOpening s) (b : List Char) :
    headers (r ++ b) = headers b := by
  rcases headers_prepend hr b with ⟨hrb, hb⟩ | ⟨s, t, hrb, hb⟩
  · rw [hrb, hb]
  · rw [hrb, hb]
    unfold closed?
    rw [h s]

/-- The letters of a keyword hold no line break, so what is cut off behind one is blank. -/
theorem IsKeyword.of_append {v s : List Char} (h : IsKeyword (v ++ s)) (hv : '\n' ∈ v) :
    IsKeyword v := by
  induction s using List.reverseRecOn with
  | nil => simpa using h
  | append_singleton s c ih =>
    rw [← List.append_assoc, isKeyword_concat_iff] at h
    rcases h with ⟨-, h⟩ | ⟨-, h⟩
    · exact ih h
    · have hmem : '\n' ∈ ['f', 'o'] := h ▸ List.mem_append_left s hv
      exact absurd hmem (by decide)

/-- A line break in an opening is among the blanks of its keyword. -/
theorem IsOpening.isKeyword_of_newline {v s : List Char} (h : IsOpening (v ++ ['\n'] ++ s)) :
    IsKeyword (v ++ ['\n']) := by
  induction s using List.reverseRecOn with
  | nil =>
    rw [List.append_nil, isOpening_concat_iff] at h
    rcases h with ⟨hne, -⟩ | ⟨hparen, -⟩
    · exact absurd rfl hne
    · exact absurd hparen (by decide)
  | append_singleton s c ih =>
    rw [← List.append_assoc, isOpening_concat_iff] at h
    rcases h with ⟨-, h⟩ | ⟨-, h⟩
    · exact ih h
    · exact h.of_append (by simp)

theorem rdropWhile_blanks {w : List Char} (hw : ∀ c ∈ w, isBlank c = true) (a : List Char) :
    (a ++ w).rdropWhile isBlank = a.rdropWhile isBlank := by
  unfold List.rdropWhile
  rw [List.reverse_append, List.dropWhile_append_of_pos (by simpa using hw)]

/-- A text that ends with a keyword ends with its letters once the blanks at its end are gone. -/
theorem IsKeyword.letters_suffix {u a : List Char} (h : IsKeyword u) (hu : u <:+ a) :
    letters <:+ a.rdropWhile isBlank := by
  obtain ⟨w, rfl, hw⟩ := h
  obtain ⟨p, rfl⟩ := hu
  have hsplit : p ++ letters = p ++ ['f', 'o'] ++ ['r'] := by simp [letters]
  have hlast : (p ++ ['f', 'o'] ++ ['r']).rdropWhile isBlank = p ++ ['f', 'o'] ++ ['r'] :=
    List.rdropWhile_concat_neg _ _ _ (by decide)
  rw [← List.append_assoc, rdropWhile_blanks hw, hsplit, hlast, ← hsplit]
  exact List.suffix_append p letters

/-- **After a closing parenthesis, and after a line break that follows no keyword, the search starts
afresh.** -/
theorem headers_append_of_safe (a b : List Char)
    (h : a.getLast? = some ')' ∨
      a.getLast? = some '\n' ∧ ¬ letters <:+ a.rdropWhile isBlank) :
    headers (a ++ b) = headers a ++ headers b ∧
      candidates (a ++ b) = candidates a ++ candidates b := by
  have hheaders : headers (a ++ b) = headers a ++ headers b := by
    rcases h with hclose | ⟨hnewline, hkeyword⟩
    · obtain ⟨a, rfl⟩ := List.getLast?_eq_some_iff.mp hclose
      rw [List.append_assoc]
      exact headers_append_of_close a b
    · obtain ⟨a, rfl⟩ := List.getLast?_eq_some_iff.mp hnewline
      rw [headers_append]
      congr 1
      refine headers_append_of_leftmost (close_notMem_remainder _) (fun s => ?_) b
      -- an opening that starts before the line break is a keyword up to there
      refine leftmost_append_of_not fun v hv hne ho => ?_
      have hva : v <:+ a ++ ['\n'] := hv.trans (List.rtakeWhile_suffix _ _)
      rcases List.suffix_concat_iff.mp hva with rfl | ⟨v, rfl, -⟩
      · exact hne rfl
      · exact hkeyword (ho.isKeyword_of_newline.letters_suffix hva)
  exact ⟨hheaders, candidates_of_headers hheaders⟩

/-- A header that is broken off by a line break does not reach into what follows. -/
theorem headers_append_of_safe_brokenOff :
    let a := "for (int i < n) for (k\n \n".toList
    let b := "(x) for (int j < n)".toList
    (a.getLast? = some ')' ∨ a.getLast? = some '\n' ∧ ¬ letters <:+ a.rdropWhile isBlank) ∧
      headers (a ++ b) = headers a ++ headers b ∧
      candidates (a ++ b) = ["for (int i < n)".toList, "for (int j < n)".toList] := by
  intro a b
  have hsafe : a.getLast? = some ')' ∨
      a.getLast? = some '\n' ∧ ¬ letters <:+ a.rdropWhile isBlank := by decide
  obtain ⟨hheaders, hcandidates⟩ := headers_append_of_safe a b hsafe
  exact ⟨hsafe, hheaders, hcandidates.trans (by decide)⟩

/-- After a keyword a line break is no safe seam. -/
example : headers ("for \n".toList ++ "(i)".toList) = ["for \n(i)".toList] ∧
    headers "for \n".toList = [] ∧ headers "(i)".toList = [] := by decide

end LoopAdvice.Loop
