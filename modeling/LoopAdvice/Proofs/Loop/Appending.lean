import LoopAdvice.Proofs.Loop.Search
import Mathlib.Data.List.DropRight

/-! # Text that is appended

What is found in a text does not hang on what comes after it. The *remainder* of a text, the
characters after its last closing parenthesis, holds no header yet, but one may be open in it. When
more text is appended, all headers that are new are headers of the remainder and the new text
together, and they come after those that were there before (`headers_append`). Main statement:
`headers_isPrefixOf_append`. -/

namespace LoopAdvice.Loop

/-- The characters after the last closing parenthesis. -/
def remainder (a : List Char) : List Char := a.rtakeWhile fun c => c ≠ ')'

theorem close_notMem_remainder (a : List Char) : ')' ∉ remainder a := fun h => by
  simpa using List.mem_rtakeWhile_imp h

theorem headers_remainder (a : List Char) : headers (remainder a) = [] :=
  headers_of_not_mem (close_notMem_remainder a)

theorem remainder_of_not_mem {s : List Char} (h : ')' ∉ s) : remainder s = s := by
  refine List.rtakeWhile_eq_self_iff.mpr fun c hc => ?_
  have hne : c ≠ ')' := fun hclose => h (hclose ▸ hc)
  simpa using hne

/-- What comes up to a closing parenthesis has no part in the remainder. -/
theorem remainder_append_close (s t : List Char) : remainder (s ++ ')' :: t) = remainder t := by
  induction t using List.reverseRecOn with
  | nil => exact List.rtakeWhile_concat_neg _ _ _ (by simp)
  | append_singleton t c ih =>
    rw [← List.cons_append, ← List.append_assoc]
    unfold remainder at ih ⊢
    by_cases hc : c = ')'
    · rw [List.rtakeWhile_concat_neg _ _ _ (by simp [hc]),
        List.rtakeWhile_concat_neg _ _ _ (by simp [hc])]
    · rw [List.rtakeWhile_concat_pos _ _ _ (by simp [hc]),
        List.rtakeWhile_concat_pos _ _ _ (by simp [hc]), ih]

/-- **New headers are found in the remainder and the appended text.** -/
theorem headers_append (a b : List Char) :
    headers (a ++ b) = headers a ++ headers (remainder a ++ b) := by
  induction a using close_induction with
  | last s hs => rw [headers_of_not_mem hs, remainder_of_not_mem hs, List.nil_append]
  | close s t hs ih =>
    rw [List.append_assoc, List.cons_append, headers_append_close hs, headers_append_close hs, ih,
      remainder_append_close, List.append_assoc]

/-- Where the headers of one text are those of two, so are the candidates. -/
theorem candidates_of_headers {a b c : List Char} (h : headers c = headers a ++ headers b) :
    candidates c = candidates a ++ candidates b := by
  unfold candidates
  rw [h, List.filter_append]

theorem candidates_append (a b : List Char) :
    candidates (a ++ b) = candidates a ++ candidates (remainder a ++ b) :=
  candidates_of_headers (headers_append a b)

/-- **Appending text never disturbs what was found before**: the headers and the candidates of a text
are the first ones of the longer text, unchanged and in their order, also if the text ends inside a
header. -/
theorem headers_isPrefixOf_append (a b : List Char) :
    headers a <+: headers (a ++ b) ∧ candidates a <+: candidates (a ++ b) ∧
      headers (a ++ b) = headers a ++ headers (remainder a ++ b) ∧ headers (remainder a) = [] := by
  refine ⟨?_, ?_, headers_append a b, headers_remainder a⟩
  · rw [headers_append]
    exact List.prefix_append _ _
  · rw [candidates_append]
    exact List.prefix_append _ _

/-- A header that is open at the end of a text takes up what is appended, and nothing before it. -/
example : headers ("for(a) for(b ".toList ++ "for(int<) for(c)".toList) =
    headers "for(a) for(b ".toList ++ ["for(b for(int<)".toList, "for(c)".toList] := by decide

end LoopAdvice.Loop
