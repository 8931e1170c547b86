/-! # Text without terminal sequences

What is left of a text when the sequences that a terminal obeys are taken out, and with them every
control character that is no white space. A sequence starts with the escape character. A short one
ends with its first character that is not among those from the space to `/`; one that starts with `[`
ends with a character from `@` to `~`; one that carries a text of its own runs on until the next
escape or cancel character. White space inside a sequence without a text shows and ends it. -/

namespace LoopAdvice.Terminal

/-- Where in a sequence a character stands. -/
inductive State
  | outside
  /-- Right behind the escape character. -/
  | escape
  /-- In a short sequence. -/
  | short
  /-- In a sequence that starts with `[`. -/
  | control
  /-- In a sequence with a text, which the bell character ends too. -/
  | command
  /-- In any other sequence with a text. -/
  | text
  deriving DecidableEq, Repr

def isWhiteControl (c : Char) : Bool := c = '\t' || c = '\n' || c = '\x0c' || c = '\r'

def shows (c : Char) : Bool := (' ' ≤ c && c ≤ '~') || '\x7f' < c || isWhiteControl c

/-- The state after a visible ASCII character of a sequence. -/
def State.next (s : State) (c : Char) : State :=
  match s with
  | .outside => .outside
  | .escape =>
    if c ≤ '/' then .short
    else if c = '[' then .control
    else if c = ']' then .command
    else if c = 'P' || c = 'X' || c = '^' || c = '_' then .text
    else .outside
  | .short => if c ≤ '/' then .short else .outside
  | .control => if c ≤ '?' then .control else .outside
  | .command => .command
  | .text => .text

/-- The reader between two characters: what shows, last first, and the state. -/
structure Reader where
  shown : List Char := []
  state : State := .outside
  deriving DecidableEq, Repr

def Reader.step (r : Reader) (c : Char) : Reader :=
  if c = '\x1b' then ⟨r.shown, .escape⟩
  else if c = '\x18' || c = '\x1a' || (c = '\x07' && r.state = .command) then ⟨r.shown, .outside⟩
  else if r.state = .outside then ⟨if shows c then c :: r.shown else r.shown, .outside⟩
  else if '\x7f' < c then ⟨c :: r.shown, .outside⟩
  else if isWhiteControl c && r.state != .command && r.state != .text then
    ⟨c :: r.shown, .outside⟩
  else if c < ' ' || c = '\x7f' then r
  else ⟨r.shown, r.state.next c⟩

/-- A text without the sequences that a terminal obeys. -/
def plain (s : List Char) : List Char := (s.foldl Reader.step {}).shown.reverse

end LoopAdvice.Terminal
