import LoopAdvice.Text.Width

/-! # Where a line may break

The places in a line where a new line may begin: after blanks, after a slash before a letter, between
two ideographs, and so on. Characters fall into classes, and a rule on two classes, with or without
blanks between, says whether a break is allowed there. A hyphen never allows one by itself. -/

namespace LoopAdvice.LineBreak

inductive CharClass
  | letter
  | digit
  | ideograph
  | space
  | lineEnd
  /-- An invisible place to break. -/
  | zeroWidthSpace
  /-- Joins the character before it. -/
  | combining
  /-- Forbids a break on both sides, even next to blanks. -/
  | wordJoiner
  /-- A blank or a mark that forbids a break on both sides. -/
  | glue
  | opening
  | closing
  | closingParenthesis
  | quotation
  | exclamation
  /-- Full stops, commas, colons. -/
  | separator
  | slash
  | hyphen
  | breakAfter
  /-- What stands before a number, such as a currency sign. -/
  | numberPrefix
  /-- What stands after a number, such as a percent sign. -/
  | numberPostfix
  deriving DecidableEq, Repr

def asciiClass (c : Char) : CharClass :=
  if c.isAlpha then .letter
  else if c.isDigit then .digit
  else match c with
    | ' ' => .space
    | '\t' | '|' => .breakAfter
    | '\n' | '\x0b' | '\x0c' | '\r' => .lineEnd
    | '!' | '?' => .exclamation
    | '"' | '\'' => .quotation
    | '$' | '+' | '\\' => .numberPrefix
    | '%' => .numberPostfix
    | '(' | '[' | '\x7b' => .opening
    | ')' | ']' => .closingParenthesis
    | '\x7d' => .closing
    | ',' | '.' | ':' | ';' => .separator
    | '-' => .hyphen
    | '/' => .slash
    | _ => if c < ' ' || c = '\x7f' then .combining else .letter

def classOf (c : Char) : CharClass :=
  if c ≤ '\x7f' then asciiClass c
  else if c = '\u0085' || c = '\u2028' || c = '\u2029' then .lineEnd
  else if c = '\u200B' then .zeroWidthSpace
  else if c = '\u2060' || c = '\uFEFF' then .wordJoiner
  else if c = '\u00A0' || c = '\u202F' || c = '\u2007' || c = '\u2011' then .glue
  else if c = '\u00AD' || c = '\u3000' || c = '\u1680' || c = '\u205F' ||
    ('\u2000' ≤ c && c ≤ '\u200A') || c = '\u2010' || c = '\u2012' || c = '\u2013' then .breakAfter
  else if c = '\u3001' || c = '\u3002' || c = '\uFF0C' || c = '\uFF0E' then .closing
  else if c < '\u00A0' || isColumnless c then .combining
  else if isWide c then .ideograph
  else .letter

/-- Whether blanks before a class do not help: no line begins with it. -/
def neverFirst : CharClass → Bool
  | .closing | .closingParenthesis | .exclamation | .separator | .slash => true
  | _ => false

/-- Whether two classes that touch stay together. -/
def touching : CharClass → CharClass → Bool
  | .quotation, _ | _, .quotation => true
  | _, .breakAfter | _, .hyphen => true
  | .letter, .letter | .letter, .digit | .digit, .letter | .digit, .digit => true
  | .numberPrefix, .ideograph | .ideograph, .numberPostfix => true
  | .numberPrefix, .letter | .numberPostfix, .letter => true
  | .letter, .numberPrefix | .letter, .numberPostfix => true
  | .closing, .numberPostfix | .closing, .numberPrefix => true
  | .closingParenthesis, .numberPostfix | .closingParenthesis, .numberPrefix => true
  | .digit, .numberPostfix | .digit, .numberPrefix => true
  | .numberPostfix, .opening | .numberPostfix, .digit => true
  | .numberPrefix, .opening | .numberPrefix, .digit => true
  | .hyphen, .digit | .separator, .digit | .slash, .digit => true
  | .separator, .letter => true
  | .letter, .opening | .digit, .opening => true
  | .closingParenthesis, .letter | .closingParenthesis, .digit => true
  | _, _ => false

/-- Whether a line may break between two classes; `spaced` says whether blanks stand between. -/
def mayBreak (before : CharClass) (spaced : Bool) (next : CharClass) : Bool :=
  if before = .lineEnd then true
  else if next = .lineEnd || next = .space || next = .zeroWidthSpace then false
  else if before = .zeroWidthSpace then true
  else if next = .wordJoiner || (before = .wordJoiner && !spaced) then false
  else if before = .glue && !spaced then false
  else if next = .glue && !spaced && before != .breakAfter && before != .hyphen then false
  else if neverFirst next || before = .opening then false
  else if before = .quotation && next = .opening then false
  else spaced || !touching before next

/-- The reader between two characters: the finished words and the current one, all last first, the
class that stands before the blanks, whether there are blanks, and the last character. -/
structure Reader where
  words : List (List Char) := []
  word : List Char := []
  before : CharClass := .wordJoiner
  spaced : Bool := false
  last : Char := ' '
  deriving DecidableEq, Repr

/-- The word goes on with a character. -/
def Reader.extend (r : Reader) (c : Char) (before : CharClass) (spaced : Bool) : Reader :=
  ⟨r.words, c :: r.word, before, spaced, c⟩

/-- A new word begins with a character, unless the one before ends in a hyphen. -/
def Reader.next (r : Reader) (c : Char) (before : CharClass) : Reader :=
  if r.last = '-' || r.last = '\u00AD' then r.extend c before false
  else ⟨r.word.reverse :: r.words, [c], before, false, c⟩

def Reader.step (r : Reader) (c : Char) : Reader :=
  match classOf c with
  | .space => if mayBreak r.before r.spaced .space then r.next c .space else r.extend c r.before true
  | .combining =>
    if !r.word.isEmpty && !r.spaced && r.before != .lineEnd && r.before != .zeroWidthSpace then
      r.extend c r.before false
    else if mayBreak r.before r.spaced .letter then r.next c .letter
    else r.extend c .letter false
  | k =>
    if r.last != '\u200D' && mayBreak r.before r.spaced k then r.next c k else r.extend c k false

/-- The words of a line, each with the blanks behind it; together they are the line. -/
def words (line : List Char) : List (List Char) :=
  let r := line.foldl Reader.step {}
  (if r.word.isEmpty then r.words else r.word.reverse :: r.words).reverse

end LoopAdvice.LineBreak
