import LoopAdvice.Text.Wrap
import Mathlib.Data.String.Basic
import Mathlib.Tactic.SplitIfs

/-! # What wrapping keeps

A text that is wrapped is set in lines behind two indentations, and nothing of it is lost but blanks
and line feeds. Each stage keeps the characters it is given: the words of a line are the line
(`LineBreak.flatten_words`), a word is cut behind hyphens and where it is too wide without a loss, and
the words of a line are set one behind the other. Main statement: `Wrap.isSetIn_fill`. -/

namespace LoopAdvice

/-! ### Splitting at line feeds -/

section Split
open String

theorem atEnd_ofList_iff (l r : List Char) :
    Pos.Raw.atEnd (ofList (l ++ r)) ⟨utf8Len l⟩ = true ↔ r = [] := by
  rw [atEnd_iff, rawEndPos_ofList, utf8Len_append, Pos.Raw.mk_le_mk, ← utf8Len_eq_zero]
  omega

/-- The line goes on of which `m` was read, after `l`. -/
theorem splitOnAux_newline (l m r : List Char) (acc : List String) :
    splitOnAux (ofList (l ++ m ++ r)) "\n" ⟨utf8Len l⟩ ⟨utf8Len (l ++ m)⟩ 0 acc =
      acc.reverse ++ (List.splitOnPPrepend (· == '\n') r m.reverse).map ofList := by
  induction r generalizing l m acc with
  | nil =>
    unfold splitOnAux
    rw [if_pos ((atEnd_ofList_iff (l ++ m) []).mpr rfl), utf8Len_append, extract_of_valid l m []]
    simp
  | cons c r ih =>
    have hnext : (⟨utf8Len (l ++ m) + c.utf8Size⟩ : Pos.Raw) = ⟨utf8Len (l ++ m ++ [c])⟩ := by
      simp [Nat.add_assoc]
    unfold splitOnAux
    rw [if_neg (mt (atEnd_ofList_iff (l ++ m) (c :: r)).mp (List.cons_ne_nil c r)),
      get_of_valid (l ++ m) (c :: r), List.headD_cons, List.splitOnPPrepend_cons_eq_if,
      show Pos.Raw.get "\n" 0 = '\n' by decide, next_of_valid (l ++ m) c r, hnext,
      show Pos.Raw.next "\n" 0 = ⟨1⟩ by decide]
    by_cases hc : c = '\n'
    · subst hc
      have hline : (⟨utf8Len (l ++ m ++ ['\n'])⟩ : Pos.Raw).unoffsetBy ⟨1⟩ =
          ⟨utf8Len l + utf8Len m⟩ := by
        rw [utf8Len_append, utf8Len_append]
        rfl
      have hrest := ih (l ++ m ++ ['\n']) [] (ofList m :: acc)
      rw [List.append_nil, List.append_assoc _ _ r] at hrest
      simp only [beq_self_eq_true, if_true]
      rw [if_pos (by decide), hline, extract_of_valid l m ('\n' :: r)]
      exact hrest.trans (by simp)
    · have hstay : (⟨utf8Len (l ++ m)⟩ : Pos.Raw).unoffsetBy 0 = ⟨utf8Len (l ++ m)⟩ := rfl
      have hrest := ih l (m ++ [c]) acc
      rw [← List.append_assoc, List.append_assoc _ _ r] at hrest
      rw [if_neg (by simpa using hc), if_neg (by simpa using hc), hstay,
        next_of_valid (l ++ m) c r, hnext]
      exact hrest.trans (by simp)

/-- A text is split at its line feeds. -/
theorem splitOn_newline (s : String) :
    s.splitOn "\n" = (s.toList.splitOn '\n').map String.ofList := by
  have h := splitOnAux_newline [] [] s.toList []
  simpa [splitOn, List.splitOn] using h

end Split

/-- The lines of a text are the text less its line feeds. -/
theorem flatten_splitOn_newline (s : List Char) :
    (s.splitOn '\n').flatten = s.filter (· ≠ '\n') := by
  induction s with
  | nil => rfl
  | cons c s ih =>
    obtain ⟨line, lines, hlines⟩ := List.exists_cons_of_ne_nil (List.splitOn_ne_nil '\n' s)
    rw [hlines] at ih
    rw [List.splitOn_cons_eq_if_modifyHead, hlines, List.filter_cons]
    by_cases hc : c = '\n'
    · simpa [hc] using ih
    · simpa [hc] using ih

/-! ### Words -/

namespace LineBreak

/-- What was read so far. -/
def Reader.read (r : Reader) : List Char := r.words.reverse.flatten ++ r.word.reverse

theorem Reader.read_extend (r : Reader) (c : Char) (before : CharClass) (spaced : Bool) :
    (r.extend c before spaced).read = r.read ++ [c] := by
  simp [extend, read]

theorem Reader.read_next (r : Reader) (c : Char) (before : CharClass) :
    (r.next c before).read = r.read ++ [c] := by
  unfold next
  split_ifs
  · exact r.read_extend c before false
  · simp [read]

theorem Reader.read_step (r : Reader) (c : Char) : (r.step c).read = r.read ++ [c] := by
  unfold step
  split
  · split_ifs
    · exact r.read_next ..
    · exact r.read_extend ..
  · split_ifs
    · exact r.read_extend ..
    · exact r.read_next ..
    · exact r.read_extend ..
  · split_ifs
    · exact r.read_next ..
    · exact r.read_extend ..

/-- Together the words of a line are the line. -/
theorem flatten_words (line : List Char) : (words line).flatten = line := by
  have hread : ∀ r : Reader, (line.foldl Reader.step r).read = r.read ++ line := by
    induction line with
    | nil => simp
    | cons c line ih =>
      intro r
      rw [List.foldl_cons, ih, r.read_step, List.append_assoc, List.singleton_append]
  have hwords : (words line).flatten = (line.foldl Reader.step {}).read := by
    unfold words Reader.read
    dsimp only
    split_ifs with hempty
    · simp [List.isEmpty_iff.mp hempty]
    · simp
  rw [hwords, hread]
  rfl

end LineBreak

/-! ### Lines -/

namespace Wrap

/-- A text without its blanks. -/
def dense (s : List Char) : List Char := s.filter (· ≠ ' ')

@[simp] theorem dense_append (s t : List Char) : dense (s ++ t) = dense s ++ dense t :=
  List.filter_append ..

@[simp] theorem dense_replicate (n : ℕ) : dense (List.replicate n ' ') = [] := by
  simp [dense]

theorem dense_flatMap {α : Type} (f : α → List Char) (l : List α) :
    dense (l.flatMap f) = l.flatMap fun x => dense (f x) :=
  List.filter_flatMap ..

theorem dense_flatten (l : List (List Char)) : dense l.flatten = l.flatMap dense := by
  rw [List.flatten_eq_flatMap, dense_flatMap]
  rfl

/-- The characters of words, without blanks. -/
def inked (ws : List Word) : List Char := ws.flatMap fun w => dense w.text

@[simp] theorem inked_append (ws vs : List Word) : inked (ws ++ vs) = inked ws ++ inked vs :=
  List.flatMap_append

/-- Only blanks are taken off the end of a word. -/
theorem dense_ofText (s : List Char) : dense (Word.ofText s).text = dense s := by
  have hblank : dense (s.reverse.takeWhile (· = ' ')).reverse = [] := by
    rw [dense, List.filter_eq_nil_iff]
    intro c hc
    have hc := List.all_eq_true.mp List.all_takeWhile c (List.mem_reverse.mp hc)
    simpa using hc
  have hs : s = (s.reverse.dropWhile (· = ' ')).reverse ++
      (s.reverse.takeWhile (· = ' ')).reverse := by
    rw [← List.reverse_append, List.takeWhile_append_dropWhile, List.reverse_reverse]
  conv_rhs => rw [hs, dense_append, hblank, List.append_nil]
  rfl

theorem flatten_cutAtHyphens (current : List Char) (before : Bool) (s : List Char) :
    (cutAtHyphens current before s).flatten = current.reverse ++ s := by
  fun_induction cutAtHyphens current before s <;> simp_all

/-- Pieces, of which the last has the blanks of the word, are inked as the pieces are. -/
theorem inked_pieces (front : List (List Char)) (last : List Char) (blanks : ℕ) :
    inked (front.map (⟨·, 0⟩) ++ [⟨last, blanks⟩]) = dense (front.flatten ++ last) := by
  simp [inked, dense_flatten, List.flatMap_map]

theorem inked_splitHyphens (w : Word) : inked (splitHyphens w) = dense w.text := by
  have hcut := flatten_cutAtHyphens [] false w.text
  unfold splitHyphens
  cases h : (cutAtHyphens [] false w.text).reverse with
  | nil => simp [inked]
  | cons last front =>
    rw [List.reverse_eq_cons_iff.mp h, List.flatten_append, List.flatten_singleton] at hcut
    rw [inked_pieces, hcut]
    rfl

/-- What was cut so far. -/
def Cutter.read (k : Cutter) : List Char := k.pieces.reverse.flatten ++ k.piece.reverse

theorem Cutter.read_step (limit : ℕ) (k : Cutter) (c : Char) :
    (k.step limit c).read = k.read ++ [c] := by
  unfold step read
  split_ifs <;> simp

theorem Cutter.read_foldl (limit : ℕ) (k : Cutter) (s : List Char) :
    (s.foldl (Cutter.step limit) k).read = k.read ++ s := by
  induction s generalizing k with
  | nil => simp
  | cons c s ih => rw [List.foldl_cons, ih, k.read_step, List.append_assoc, List.singleton_append]

theorem inked_splitWide (limit : ℕ) (w : Word) : inked (splitWide limit w) = dense w.text := by
  unfold splitWide
  split_ifs
  · simp [inked]
  · dsimp only
    rw [inked_pieces]
    exact congrArg dense (Cutter.read_foldl limit {} w.text)

/-- The words that were set so far. -/
def Setter.words (t : Setter) : List Word := (t.line :: t.lines).reverse.flatMap List.reverse

theorem Setter.words_step (limit : ℕ) (t : Setter) (w : Word) :
    (t.step limit w).words = t.words ++ [w] := by
  unfold step words
  split_ifs <;> simp

theorem Setter.words_foldl (limit : ℕ) (t : Setter) (ws : List Word) :
    (ws.foldl (Setter.step limit) t).words = t.words ++ ws := by
  induction ws generalizing t with
  | nil => simp
  | cons w ws ih => rw [List.foldl_cons, ih, t.words_step, List.append_assoc, List.singleton_append]

theorem dense_lineText (ws : List Word) : dense (lineText ws) = inked ws.reverse := by
  cases ws with
  | nil => rfl
  | cons last front =>
    rw [lineText, dense_append, dense_flatMap, List.reverse_cons, inked_append]
    simp [inked]

theorem inked_flatMap {α : Type} (f : α → List Word) (l : List α) :
    inked (l.flatMap f) = l.flatMap fun x => inked (f x) :=
  List.flatMap_assoc

/-- Words may be cut if none of them loses anything. -/
theorem inked_flatMap_eq_self {cut : Word → List Word} (h : ∀ w, inked (cut w) = dense w.text)
    (ws : List Word) : inked (ws.flatMap cut) = inked ws := by
  simp only [inked_flatMap, h]
  rfl

/-- The lines that were set have the ink of their words. -/
theorem Setter.flatMap_dense_lineText (t : Setter) :
    ((t.line :: t.lines).reverse.map lineText).flatMap dense = inked t.words := by
  simp only [List.flatMap_map, dense_lineText, words, inked_flatMap]

/-- **A line that is laid out loses nothing but blanks.** -/
theorem dense_layOut (limit : ℕ) (line : List Char) :
    (layOut limit line).flatMap dense = dense line := by
  have hwords : inked ((LineBreak.words line).map Word.ofText) = dense line := by
    simp only [inked, List.flatMap_map, dense_ofText]
    rw [← dense_flatten, LineBreak.flatten_words]
  have hempty : inked (Setter.words { line := [⟨[], 0⟩] }) = [] := rfl
  unfold layOut
  dsimp only
  rw [Setter.flatMap_dense_lineText, Setter.words_foldl, inked_append, hempty, List.nil_append,
    inked_flatMap_eq_self (inked_splitWide limit), inked_flatMap_eq_self inked_splitHyphens, hwords]

/-- A text is set in lines, the first behind one indentation and all others behind another, and
nothing of it is lost but blanks and line feeds. -/
def IsSetIn (first others text laid : String) : Prop :=
  ∃ line lines, laid = "\n".intercalate ((first ++ line) :: lines.map (others ++ ·)) ∧
    (line :: lines).flatMap (fun l => dense l.toList) = dense (text.toList.filter (· ≠ '\n'))

/-- **Wrapping loses nothing but blanks and line feeds.** -/
theorem isSetIn_fill (limit : ℕ) (first others text : String) :
    IsSetIn first others text (fill limit first others text) := by
  have hkept : ((text.splitOn "\n").flatMap fun line => layOut limit line.toList).flatMap dense =
      dense (text.toList.filter (· ≠ '\n')) := by
    rw [splitOn_newline, List.flatMap_assoc]
    simp only [dense_layOut, List.flatMap_map, String.toList_ofList]
    rw [← dense_flatten, flatten_splitOn_newline]
  unfold fill
  cases hlines : (text.splitOn "\n").flatMap fun line => layOut limit line.toList with
  | nil =>
    rw [hlines] at hkept
    exact ⟨"", [], by simp, hkept⟩
  | cons line lines =>
    rw [hlines] at hkept
    refine ⟨String.ofList line, lines.map String.ofList, ?_, ?_⟩
    · simp only [List.map_map]
      rfl
    · simpa [List.flatMap_map] using hkept

end Wrap

end LoopAdvice
