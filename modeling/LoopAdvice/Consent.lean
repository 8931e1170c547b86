import LoopAdvice.Fault

/-! # Consent

Whether a tool may run: decided beforehand, or asked. Only a lone `y`, in either case, is consent; a
line ending after it does not count, but blanks do. Replies come as a queue; standard input is the
queue of its lines, and a queue that is used up answers every question with the empty reply. -/

namespace LoopAdvice

inductive Decision
  | ask
  | yes
  | no
  deriving DecidableEq, Repr

/-- A text without one given character at its end. -/
def dropOneAtEnd (c : Char) (s : List Char) : List Char :=
  if s.getLast? = some c then s.dropLast else s

def accepts (reply : String) : Bool :=
  let line := dropOneAtEnd '\r' (dropOneAtEnd '\n' reply.toList)
  line == ['y'] || line == ['Y']

abbrev Reply := Except Cause String

/-- The first reply of a queue and the queue after it. -/
def nextReply : List Reply → Reply × List Reply
  | [] => (.ok "", [])
  | r :: rest => (r, rest)

/-- The lines read so far, last first, and the bytes of the unfinished one, last first. -/
structure LineReader where
  lines : List Bytes := []
  unfinished : Bytes := []
  deriving DecidableEq, Repr

def LineReader.step (r : LineReader) (b : UInt8) : LineReader :=
  if b = 0x0A then ⟨(b :: r.unfinished).reverse :: r.lines, []⟩ else ⟨r.lines, b :: r.unfinished⟩

/-- The lines of an input, each with its line feed; the last one may lack it but is not empty. -/
def inputLines (input : Bytes) : List Bytes :=
  let r := input.foldl LineReader.step {}
  (if r.unfinished.isEmpty then r.lines else r.unfinished.reverse :: r.lines).reverse

def replyOfLine (line : Bytes) : Reply :=
  match Utf8.string? line with
  | some s => .ok s
  | none => .error .invalidText

def repliesOfInput (input : Bytes) : List Reply := (inputLines input).map replyOfLine

end LoopAdvice
