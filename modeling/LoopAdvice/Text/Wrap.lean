import LoopAdvice.Text.Alphanumeric
import LoopAdvice.Text.LineBreak

/-! # Wrapped text

A text laid out in lines of a given number of columns. The words of each line of the text are set one
behind the other, and a word that does not fit begins a new line; blanks at the end of a line are
dropped. A word may also be cut behind a hyphen between letters or digits, and one that is wider than
a whole line is cut where it has to be. -/

namespace LoopAdvice.Wrap

/-- A word and the number of blanks behind it. -/
structure Word where
  text : List Char
  blanks : Nat
  deriving DecidableEq, Repr

def Word.width (w : Word) : Nat := textColumns w.text

def Word.ofText (s : List Char) : Word :=
  let text := (s.reverse.dropWhile (· = ' ')).reverse
  ⟨text, s.length - text.length⟩

/-- The parts of a word that are cut off behind its hyphens: the characters between two hyphens that
both allow a cut stay together. `before` says whether a letter or digit comes before. -/
def cutAtHyphens (current : List Char) (before : Bool) : List Char → List (List Char)
  | [] => [current.reverse]
  | '-' :: c :: rest =>
    if before && isAlphanumeric c then
      ('-' :: current).reverse :: cutAtHyphens [] false (c :: rest)
    else cutAtHyphens ('-' :: current) false (c :: rest)
  | c :: rest => cutAtHyphens (c :: current) (isAlphanumeric c) rest

/-- A word as the words it may be cut into behind hyphens. -/
def splitHyphens (w : Word) : List Word :=
  match (cutAtHyphens [] false w.text).reverse with
  | [] => [w]
  | last :: front => front.reverse.map (⟨·, 0⟩) ++ [⟨last, w.blanks⟩]

/-- The pieces cut so far and the current one, all last first, and its columns. -/
structure Cutter where
  pieces : List (List Char) := []
  piece : List Char := []
  width : Nat := 0

/-- One more character of a word that is cut at a width. -/
def Cutter.step (limit : Nat) (k : Cutter) (c : Char) : Cutter :=
  if 0 < k.width && limit < k.width + columns c then
    ⟨k.piece.reverse :: k.pieces, [c], columns c⟩
  else ⟨k.pieces, c :: k.piece, k.width + columns c⟩

/-- A word as pieces that are no wider than a line. -/
def splitWide (limit : Nat) (w : Word) : List Word :=
  if w.width ≤ limit then [w]
  else
    let k := w.text.foldl (Cutter.step limit) {}
    k.pieces.reverse.map (⟨·, 0⟩) ++ [⟨k.piece.reverse, w.blanks⟩]

/-- The lines set so far and the current one, all last first, and the columns it takes. -/
structure Setter where
  lines : List (List Word) := []
  line : List Word
  width : Nat := 0

def Setter.step (limit : Nat) (t : Setter) (w : Word) : Setter :=
  if limit < t.width + w.width then ⟨t.line :: t.lines, [w], w.width + w.blanks⟩
  else ⟨t.lines, w :: t.line, t.width + w.width + w.blanks⟩

/-- A line of words, given last first, without the blanks at its end. -/
def lineText : List Word → List Char
  | [] => []
  | last :: front =>
    (front.reverse.flatMap fun w => w.text ++ List.replicate w.blanks ' ') ++ last.text

/-- A single line of text laid out in lines of so many columns. The empty word in front lets a first
word that does not fit move to the second line. -/
def layOut (limit : Nat) (line : List Char) : List (List Char) :=
  let words := ((LineBreak.words line).map Word.ofText).flatMap splitHyphens
  let t := (words.flatMap (splitWide limit)).foldl (Setter.step limit) { line := [⟨[], 0⟩] }
  (t.line :: t.lines).reverse.map lineText

/-- A text laid out in lines of so many columns, with one indentation for the first line and one for
all others. -/
def fill (limit : Nat) (first others text : String) : String :=
  match (text.splitOn "\n").flatMap fun line => layOut limit line.toList with
  | [] => first
  | line :: lines =>
    "\n".intercalate
      ((first ++ String.ofList line) :: lines.map fun l => others ++ String.ofList l)

end LoopAdvice.Wrap
