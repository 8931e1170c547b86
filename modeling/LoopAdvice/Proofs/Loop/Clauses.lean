import LoopAdvice.Proofs.Loop.Rescanning
import Mathlib.Algebra.Group.Action.Defs
import Mathlib.Algebra.Order.BigOperators.Group.List
import Mathlib.Algebra.Order.Ring.Nat
import Mathlib.Data.List.Flatten
import Mathlib.Data.List.Perm.Subperm

/-! # Clauses of headers

The clause of a header stands between its first opening parenthesis and the closing one at its end
(`IsHeader.exists_eq_clause`). Whether a header is a candidate is tested on the whole of it, but it is
its clause that decides (`IsHeader.isCandidate_iff_clause`): nothing that a candidate must mention
stands in a keyword or among blanks, and a parenthesis is no part of it.

So a candidate has nine characters at least. As the headers of a text do not overlap
(`flatten_headers_sublist`), there are no more candidates than a text has room for. Main statement:
`clause_decides`. -/

namespace LoopAdvice.Loop

/-! ### The clause -/

/-- The text between the first opening parenthesis of a header and the closing one at its end. -/
def clause (h : List Char) : List Char := ((h.dropWhile (· ≠ '(')).drop 1).dropLast

/-- What is neither a letter of the keyword nor blank does not stand before the first parenthesis. -/
theorem notMem_letters_append {w : List Char} (hw : ∀ c ∈ w, isBlank c = true) {c : Char}
    (hletters : c ∉ letters) (hblank : isBlank c = false) : c ∉ letters ++ w := by
  intro hc
  rcases List.mem_append.mp hc with hc | hc
  · exact hletters hc
  · rw [hw c hc] at hblank
    cases hblank

/-- Before the clause stand the keyword and its blanks, and a parenthesis on either side. -/
theorem IsHeader.exists_eq_clause {h : List Char} (hh : IsHeader h) :
    ∃ w, h = letters ++ w ++ '(' :: (clause h ++ [')']) ∧ ∀ c ∈ w, isBlank c = true := by
  obtain ⟨w, b, rfl, hw, -, -⟩ := hh
  refine ⟨w, ?_, hw⟩
  have hparen : '(' ∉ letters ++ w := notMem_letters_append hw (by decide) isBlank_open
  have hfront : ∀ c ∈ letters ++ w, decide (c ≠ '(') = true := by
    intro c hc
    rw [decide_eq_true_eq]
    rintro rfl
    exact hparen hc
  have hclause : clause (letters ++ w ++ '(' :: (b ++ [')'])) = b := by
    unfold clause
    rw [List.dropWhile_append_of_pos hfront, List.dropWhile_cons_of_neg (by decide), List.drop_one,
      List.tail_cons, List.dropLast_concat]
  rw [hclause]

/-- What does not hold a character is found on one side of it. -/
theorem infix_append_cons_iff {m p q : List Char} {c : Char} (hc : c ∉ m) :
    m <:+: p ++ c :: q ↔ m <:+: p ∨ m <:+: q := by
  have hnil : ∀ {v : List Char}, v <+: c :: q → c ∉ v → v = [] := by
    intro v hv hcv
    rcases List.prefix_cons_iff.mp hv with rfl | ⟨v, rfl, -⟩
    · rfl
    · exact absurd List.mem_cons_self hcv
  constructor
  · intro h
    rcases List.infix_append_iff.mp h with h | h | ⟨u, v, rfl, hu, hv⟩
    · exact Or.inl h
    · rcases List.infix_cons_iff.mp h with h | h
      · rw [hnil h hc]
        exact Or.inl List.nil_infix
      · exact Or.inr h
    · rw [hnil hv fun hcv => hc (List.mem_append_right u hcv), List.append_nil]
      exact Or.inl hu.isInfix
  · rintro (h | h)
    · exact h.trans (List.prefix_append p _).isInfix
    · exact h.trans ((List.suffix_cons c q).trans (List.suffix_append p _)).isInfix

/-- **A header is a candidate exactly if its clause mentions `int` and has a `<`.** -/
theorem IsHeader.isCandidate_iff_clause {h : List Char} (hh : IsHeader h) :
    isCandidate h = true ↔ ['i', 'n', 't'] <:+: clause h ∧ '<' ∈ clause h := by
  obtain ⟨w, heq, hw⟩ := hh.exists_eq_clause
  have hi : 'i' ∉ letters ++ w := notMem_letters_append hw (by decide) (by decide)
  have hless : '<' ∉ letters ++ w := notMem_letters_append hw (by decide) (by decide)
  have hint : ¬ ['i', 'n', 't'] <:+: letters ++ w := fun hm => hi (hm.subset List.mem_cons_self)
  have hnone : ¬ ['i', 'n', 't'] <:+: [] := by decide
  have hmem : '<' ∈ h ↔ '<' ∈ clause h := by
    conv_lhs => rw [heq]
    rw [List.mem_append, or_iff_right hless]
    simp
  have hinfix : ['i', 'n', 't'] <:+: h ↔ ['i', 'n', 't'] <:+: clause h := by
    conv_lhs => rw [heq]
    rw [infix_append_cons_iff (by decide), infix_append_cons_iff (by decide), or_iff_right hint,
      or_iff_left hnone]
  rw [isCandidate_iff, hmem, hinfix]

/-! ### Room for candidates -/

/-- The keyword, the two parentheses and the four characters that are tested for. -/
theorem IsHeader.nine_le_length {h : List Char} (hh : IsHeader h) (hc : isCandidate h = true) :
    9 ≤ h.length := by
  obtain ⟨hint, hless⟩ := hh.isCandidate_iff_clause.mp hc
  obtain ⟨w, heq, -⟩ := hh.exists_eq_clause
  have hsubset : ['<', 'i', 'n', 't'] ⊆ clause h := List.cons_subset.mpr ⟨hless, hint.subset⟩
  have hfour : 4 ≤ (clause h).length := (List.subperm_of_subset (by decide) hsubset).length_le
  have hlength := congrArg List.length heq
  simp only [List.length_append, List.length_cons, List.length_nil, letters] at hlength
  omega

/-- The headers of a text stand in it one after the other. -/
theorem flatten_headers_sublist (t : List Char) : (headers t).flatten.Sublist t := by
  induction t using close_induction with
  | last s hs =>
    rw [headers_of_not_mem hs]
    exact List.nil_sublist s
  | close s t hs ih =>
    have hone : (closed? s).toList.flatten.Sublist (s ++ [')']) := by
      unfold closed?
      cases hl : leftmost IsOpening s with
      | none => exact List.nil_sublist _
      | some u =>
        obtain ⟨-, p, rfl, -⟩ := leftmost_some hl
        simp
    rw [headers_append_close hs, List.flatten_append, List.append_cons]
    exact hone.append ih

/-- Texts that stand in a text one after the other are no more than it has room for. -/
theorem mul_length_le_of_flatten_sublist {hs : List (List Char)} {t : List Char} {k : ℕ}
    (hsub : hs.flatten.Sublist t) (hk : ∀ h ∈ hs, k ≤ h.length) : k * hs.length ≤ t.length := by
  have hsum : (hs.map List.length).length • k ≤ (hs.map List.length).sum := by
    refine List.card_nsmul_le_sum _ k fun n hn => ?_
    obtain ⟨h, hh, rfl⟩ := List.mem_map.mp hn
    exact hk h hh
  calc k * hs.length = (hs.map List.length).length • k := by
        rw [List.length_map, smul_eq_mul, Nat.mul_comm]
    _ ≤ (hs.map List.length).sum := hsum
    _ = hs.flatten.length := List.length_flatten.symm
    _ ≤ t.length := hsub.length_le

/-- **Whether a header is a candidate is decided by its clause**, which stands between its first
opening parenthesis and the closing one at its end. So candidates have nine characters at least, and
nine times the number that a scan answers is no more than the text has. -/
theorem clause_decides (t : List Char) :
    (∀ h ∈ headers t,
      (∃ k, h = k ++ '(' :: (clause h ++ [')']) ∧ '(' ∉ k) ∧
        (isCandidate h = true ↔ ['i', 'n', 't'] <:+: clause h ∧ '<' ∈ clause h)) ∧
    (∀ h ∈ candidates t, 9 ≤ h.length) ∧
    ∃ n, (∀ p : Progress, (Advisor.scan t).answer p = .ok n) ∧ 9 * n ≤ t.length := by
  have hnine : ∀ h ∈ candidates t, 9 ≤ h.length := by
    intro h hh
    obtain ⟨hmem, hc⟩ := List.mem_filter.mp hh
    exact (isHeader_of_mem_headers hmem).nine_le_length hc
  refine ⟨fun h hmem => ?_, hnine, (candidates t).length, fun p => rfl, ?_⟩
  · have hh := isHeader_of_mem_headers hmem
    obtain ⟨w, heq, hw⟩ := hh.exists_eq_clause
    exact ⟨⟨letters ++ w, heq, notMem_letters_append hw (by decide) (by decide)⟩,
      hh.isCandidate_iff_clause⟩
  · have hsub : (candidates t).flatten.Sublist (headers t).flatten := List.filter_sublist.flatten
    exact mul_length_le_of_flatten_sublist (hsub.trans (flatten_headers_sublist t)) hnine

/-- A second keyword in a clause counts for nothing, and the second header is as short as a candidate
can be. -/
theorem clause_decides_nested :
    let t := "for(<for\t(print)for(int<)".toList
    let h := "for(<for\t(print)".toList
    h ∈ headers t ∧ clause h = "<for\t(print".toList ∧
      (isCandidate h = true ↔ ['i', 'n', 't'] <:+: clause h ∧ '<' ∈ clause h) ∧
      candidates t = [h, "for(int<)".toList] ∧
      9 ≤ "for(int<)".toList.length ∧ 9 * 2 ≤ t.length := by
  intro t h
  have hmem : h ∈ headers t := by decide
  have hcandidates : candidates t = [h, "for(int<)".toList] := by decide
  obtain ⟨hdecides, hnine, n, hn, hroom⟩ := clause_decides t
  obtain ⟨-, hiff⟩ := hdecides h hmem
  have hshort : "for(int<)".toList ∈ candidates t := by
    rw [hcandidates]
    exact List.mem_cons_of_mem h List.mem_cons_self
  have hcount : (candidates t).length = n := Except.ok.inj (hn { session := { path := [] } })
  rw [hcandidates] at hcount
  obtain rfl : 2 = n := hcount
  exact ⟨hmem, by decide, hiff, hcandidates, hnine _ hshort, hroom⟩

end LoopAdvice.Loop
