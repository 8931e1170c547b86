import LoopAdvice.Proofs.Workflow.Deeds

/-! # Replies that consent

Of all texts eight are consent: `y` in either case, alone or before a carriage return, a line feed, or
both (`accepts_iff`). A tool may run if that was decided beforehand, or if its question was asked and
one of the eight came back (`Decision.Consents`); this is what the step of a tool goes by
(`grants_iff`). -/

namespace LoopAdvice

/-- The replies that consent. -/
def yesReplies : List String := ["y", "y\r", "y\n", "y\r\n", "Y", "Y\r", "Y\n", "Y\r\n"]

/-! ### What is left without an end -/

/-- A list without one given element at its end. -/
def withoutEnd {α : Type} [DecidableEq α] (c : α) (s : List α) : List α :=
  if s.getLast? = some c then s.dropLast else s

section WithoutEnd
variable {α : Type} [DecidableEq α]

theorem withoutEnd_eq_iff {c : α} {s t : List α} :
    withoutEnd c s = t ↔ s = t ++ [c] ∨ s = t ∧ t.getLast? ≠ some c := by
  unfold withoutEnd
  split_ifs with h
  · have hs : s.dropLast ++ [c] = s := List.dropLast_append_getLast? c h
    constructor
    · rintro rfl
      exact .inl hs.symm
    · rintro (rfl | ⟨rfl, hne⟩)
      · exact List.dropLast_concat
      · exact absurd h hne
  · constructor
    · rintro rfl
      exact .inr ⟨rfl, h⟩
    · rintro (rfl | ⟨rfl, -⟩)
      · exact absurd List.getLast?_concat h
      · rfl

/-- The lists that are one given element less a line ending. -/
theorem withoutEnding_eq_iff {c r n : α} (hr : c ≠ r) (hn : c ≠ n) (hrn : r ≠ n) {s : List α} :
    withoutEnd r (withoutEnd n s) = [c] ↔
      s = [c] ∨ s = [c, r] ∨ s = [c, n] ∨ s = [c, r, n] := by
  rw [withoutEnd_eq_iff, List.singleton_append, withoutEnd_eq_iff, withoutEnd_eq_iff]
  simp only [List.cons_append, List.nil_append, List.getLast?_singleton, List.getLast?_cons_cons,
    ne_eq, Option.some.injEq, hr, hn, hrn, not_false_eq_true, and_true, or_assoc, or_comm,
    or_left_comm]

end WithoutEnd

/-! ### Consent -/

theorem toList_eq_iff {s : String} {l : List Char} : s.toList = l ↔ s = String.ofList l := by
  rw [← String.toList_inj, String.toList_ofList]

/-- **Eight texts are consent, and no other.** -/
theorem accepts_iff {reply : String} : accepts reply = true ↔ reply ∈ yesReplies := by
  have hdrop : ∀ c s, dropOneAtEnd c s = withoutEnd c s := fun _ _ => rfl
  simp only [accepts, hdrop, Bool.or_eq_true, beq_iff_eq,
    withoutEnding_eq_iff (c := 'y') (r := '\r') (n := '\n') (by decide) (by decide) (by decide),
    withoutEnding_eq_iff (c := 'Y') (r := '\r') (n := '\n') (by decide) (by decide) (by decide),
    toList_eq_iff, yesReplies, List.mem_cons, List.not_mem_nil, or_false, or_assoc]

/-- Whether a tool may run: so decided, or asked and consented to. -/
def Decision.Consents (reply : Reply) : Decision → Prop
  | .yes => True
  | .no => False
  | .ask => ∃ text ∈ yesReplies, reply = .ok text

instance (reply : Reply) : (decision : Decision) → Decidable (decision.Consents reply)
  | .yes => .isTrue trivial
  | .no => .isFalse id
  | .ask => inferInstanceAs (Decidable (∃ text ∈ yesReplies, reply = .ok text))

/-- The step of a tool goes by consent. -/
theorem Decision.grants_iff {decision : Decision} {replies : List Reply} :
    decision.grants replies = true ↔ decision.Consents (nextReply replies).1 := by
  unfold grants consents Consents
  cases decision with
  | yes => simp
  | no => simp
  | ask =>
    simp only [accepts_iff]
    cases (nextReply replies).1 with
    | ok text => simp [replyText]
    | error cause => simp [replyText, yesReplies]

end LoopAdvice
