import LoopAdvice.Proofs.Consent.Replies
import LoopAdvice.Proofs.Text.RoundTrip

/-! # Lines of an input

An input is cut after each line feed; after its last line every line is empty (`lineAt`). The reply
to each question is the next line (`nextReply_drop_repliesOfInput`). A line that is not the UTF-8 form
of a text cannot be read; any other is consent exactly if it is `y` or `Y` without a line feed at its
end and then without a carriage return there (`accepts_iff_isYes`). -/

namespace LoopAdvice

/-! ### Cutting an input into lines -/

/-- The bytes up to the first line feed, and the line feed. -/
def firstLine (input : Bytes) : Bytes :=
  input.takeWhile (· != 0x0A) ++ (input.dropWhile (· != 0x0A)).take 1

/-- The bytes after the first line. -/
def afterLine (input : Bytes) : Bytes := (input.dropWhile (· != 0x0A)).drop 1

/-- The lines of an input by number. After the last one every line is empty. -/
def lineAt (input : Bytes) : ℕ → Bytes
  | 0 => firstLine input
  | i + 1 => lineAt (afterLine input) i

/-- Bytes with no line feed among them belong to the first line. -/
theorem firstLine_append {line : Bytes} (h : 0x0A ∉ line) (rest : Bytes) :
    firstLine (line ++ rest) = line ++ firstLine rest ∧
      afterLine (line ++ rest) = afterLine rest := by
  have hall : ∀ b ∈ line, (b != 0x0A) = true := fun b hb => by
    rw [bne_iff_ne]
    rintro rfl
    exact h hb
  unfold firstLine afterLine
  rw [List.takeWhile_append_of_pos hall, List.dropWhile_append_of_pos hall, List.append_assoc]
  exact ⟨rfl, rfl⟩

theorem firstLine_newline (rest : Bytes) :
    firstLine (0x0A :: rest) = [0x0A] ∧ afterLine (0x0A :: rest) = rest := ⟨rfl, rfl⟩

/-! ### Reading an input by lines -/

namespace LineReader

/-- Bytes with no line feed among them extend the unfinished line. -/
theorem foldl_step_of_not_mem {line : Bytes} (h : 0x0A ∉ line) (r : LineReader) :
    line.foldl step r = ⟨r.lines, line.reverse ++ r.unfinished⟩ := by
  induction line generalizing r with
  | nil => rfl
  | cons b line ih =>
    obtain ⟨hb, hline⟩ := not_or.mp (mt List.mem_cons.mpr h)
    rw [List.foldl_cons, ih hline, step, if_neg (Ne.symm hb)]
    simp

/-- The lines read before do not matter. -/
theorem foldl_step_lines (input unfinished : Bytes) (lines more : List Bytes) :
    input.foldl step ⟨lines ++ more, unfinished⟩ =
      ⟨(input.foldl step ⟨lines, unfinished⟩).lines ++ more,
        (input.foldl step ⟨lines, unfinished⟩).unfinished⟩ := by
  induction input generalizing lines unfinished with
  | nil => rfl
  | cons b input ih =>
    rw [List.foldl_cons, List.foldl_cons, step, step]
    split_ifs
    · exact ih [] ((b :: unfinished).reverse :: lines)
    · exact ih (b :: unfinished) lines

end LineReader

theorem inputLines_nil : inputLines [] = [] := rfl

theorem inputLines_cons {input : Bytes} (h : input ≠ []) :
    inputLines input = firstLine input :: inputLines (afterLine input) := by
  by_cases hmem : 0x0A ∈ input
  · obtain ⟨line, rest, rfl, hline⟩ := List.eq_append_cons_of_mem hmem
    -- after the line feed the rest is read as an input of its own
    have hread : (line ++ 0x0A :: rest).foldl LineReader.step {} =
        rest.foldl LineReader.step ⟨[] ++ [line ++ [0x0A]], []⟩ := by
      rw [List.foldl_append, LineReader.foldl_step_of_not_mem hline, List.foldl_cons,
        LineReader.step, if_pos rfl]
      simp
    rw [(firstLine_append hline _).1, (firstLine_append hline _).2, (firstLine_newline rest).1,
      (firstLine_newline rest).2, inputLines, hread, LineReader.foldl_step_lines]
    unfold inputLines
    dsimp only
    split_ifs <;> simp
  · have hcut := firstLine_append hmem []
    rw [List.append_nil] at hcut
    rw [hcut.1, hcut.2, inputLines, LineReader.foldl_step_of_not_mem hmem]
    simp [h, inputLines_nil, firstLine, afterLine]

/-- The reply to a question is the first line, and the other lines are left. -/
theorem nextReply_repliesOfInput (input : Bytes) :
    nextReply (repliesOfInput input) =
      (replyOfLine (firstLine input), repliesOfInput (afterLine input)) := by
  by_cases h : input = []
  · rw [h]
    rfl
  · rw [repliesOfInput, inputLines_cons h]
    rfl

/-- **The reply to each question is the next line.** -/
theorem nextReply_drop_repliesOfInput (input : Bytes) (i : ℕ) :
    (nextReply ((repliesOfInput input).drop i)).1 = replyOfLine (lineAt input i) := by
  induction i generalizing input with
  | zero => rw [List.drop_zero, nextReply_repliesOfInput, lineAt]
  | succ i ih =>
    have htail : ∀ replies : List Reply, (nextReply replies).2 = replies.drop 1 := fun replies => by
      cases replies <;> rfl
    rw [Nat.add_comm, ← List.drop_drop, ← htail, nextReply_repliesOfInput, Nat.add_comm, lineAt, ih]

/-- An input of two lines, the second without a line feed. -/
example : (List.range 3).map (lineAt (Utf8.bytesOf "y\nno")) =
    ["y\n", "no", ""].map Utf8.bytesOf := by
  decide

/-! ### Lines that can be read, and lines that consent -/

/-- A line that is the UTF-8 form of a text. -/
def IsText (line : Bytes) : Prop := ∃ text : String, Utf8.bytesOf text = line

theorem isText_iff {line : Bytes} : IsText line ↔ (Utf8.string? line).isSome = true := by
  simp only [Option.isSome_iff_exists, Utf8.string?_eq_some_iff, IsText]

instance (line : Bytes) : Decidable (IsText line) := decidable_of_iff _ isText_iff.symm

/-- A line that is `y` or `Y` less its ending. -/
def IsYes (line : Bytes) : Prop := withoutEnd 0x0D (withoutEnd 0x0A line) ∈ [[0x79], [0x59]]

instance (line : Bytes) : Decidable (IsYes line) :=
  inferInstanceAs (Decidable (withoutEnd 0x0D (withoutEnd 0x0A line) ∈ [[0x79], [0x59]]))

theorem bytesOf_injective {s t : String} (h : Utf8.bytesOf s = Utf8.bytesOf t) : s = t :=
  Option.some.inj <| (Utf8.string?_eq_some_iff.mpr h).symm.trans (Utf8.string?_eq_some_iff.mpr rfl)

theorem isYes_iff {line : Bytes} : IsYes line ↔ line ∈ yesReplies.map Utf8.bytesOf := by
  have hbytes : yesReplies.map Utf8.bytesOf =
      [[0x79], [0x79, 0x0D], [0x79, 0x0A], [0x79, 0x0D, 0x0A],
        [0x59], [0x59, 0x0D], [0x59, 0x0A], [0x59, 0x0D, 0x0A]] := by decide
  simp only [IsYes, hbytes, List.mem_cons, List.not_mem_nil, or_false,
    withoutEnding_eq_iff (c := (0x79 : UInt8)) (r := 0x0D) (n := 0x0A) (by decide) (by decide)
      (by decide),
    withoutEnding_eq_iff (c := (0x59 : UInt8)) (r := 0x0D) (n := 0x0A) (by decide) (by decide)
      (by decide), or_assoc]

/-- **A text is consent exactly if the line it stands on is.** -/
theorem accepts_iff_isYes {text : String} : accepts text = true ↔ IsYes (Utf8.bytesOf text) := by
  rw [accepts_iff, isYes_iff, List.mem_map]
  constructor
  · intro h
    exact ⟨text, h, rfl⟩
  · rintro ⟨reply, hreply, heq⟩
    exact bytesOf_injective heq ▸ hreply

theorem replyOfLine_eq_error {line : Bytes} {cause : Cause} (h : replyOfLine line = .error cause) :
    cause = .invalidText := by
  unfold replyOfLine at h
  split at h
  · cases h
  · cases h
    rfl

namespace Decision

/-- What is heard about a tool, given the line that is read if its question is asked: whether the tool
may run, or nothing if the line cannot be read. -/
def heard (line : Bytes) : Decision → Option Bool
  | .yes => some true
  | .no => some false
  | .ask => if IsText line then some (decide (IsYes line)) else none

variable {decision : Decision} {line : Bytes} {replies : List Reply}

theorem heard_eq_none_iff :
    decision.heard line = none ↔ decision = .ask ∧ replyOfLine line = .error .invalidText := by
  unfold heard replyOfLine
  cases decision with
  | yes => simp
  | no => simp
  | ask =>
    simp only [isText_iff, ite_eq_right_iff, reduceCtorEq, imp_false, true_and]
    cases Utf8.string? line <;> simp

/-- The step of a tool goes by the line that is read. -/
theorem grants_eq_of_heard {allowed : Bool} (hreply : (nextReply replies).1 = replyOfLine line)
    (h : decision.heard line = some allowed) : decision.grants replies = allowed := by
  unfold grants consents
  unfold heard at h
  cases decision with
  | yes => exact Option.some.inj h
  | no => exact Option.some.inj h
  | ask =>
    dsimp only at h ⊢
    split_ifs at h with htext
    obtain ⟨text, rfl⟩ := htext
    rw [hreply, replyOfLine, Utf8.string?_eq_some_iff.mpr rfl, ← Option.some.inj h]
    exact Bool.eq_iff_iff.mpr (accepts_iff_isYes.trans decide_eq_true_iff.symm)

end Decision

end LoopAdvice
