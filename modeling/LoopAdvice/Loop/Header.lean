import LoopAdvice.Text.Blank

/-! # Loop headers in a text

A loop header is the keyword `for`, blanks (line breaks included), an opening parenthesis, and a
clause without line breaks up to the first closing parenthesis. The search goes over the text once,
from left to right. Between two characters it knows two things (`Search`): how much of an opening
(the keyword, the blanks) the last characters spell, and which header is open. A line break ends an
open header without a result but not the blanks of an opening; a closing parenthesis ends both, and
is the only character that yields a header. When openings nest, the first one counts. -/

namespace LoopAdvice.Loop

/-- How much of an opening the last characters spell. -/
inductive Opening
  | nothing
  | f
  | fo
  /-- The whole keyword, and any blanks after it; `read` holds the characters, last first. -/
  | keyword (read : List Char)
  deriving DecidableEq, Repr

def Opening.step (o : Opening) (c : Char) : Opening :=
  if c = 'f' then .f
  else match o with
    | .f => if c = 'o' then .fo else .nothing
    | .fo => if c = 'r' then .keyword ['r', 'o', 'f'] else .nothing
    | .keyword read => if isBlank c then .keyword (c :: read) else .nothing
    | .nothing => .nothing

/-- The search between two characters. -/
structure Search where
  opening : Opening := .nothing
  /-- The header that is open, from its keyword on, last character first. -/
  clause : Option (List Char) := none
  /-- The headers found, last first. -/
  found : List (List Char) := []
  deriving DecidableEq, Repr

/-- The open header after one more character that does not close it. -/
def Search.extend (s : Search) (c : Char) : Option (List Char) :=
  if c = '\n' then none
  else match s.clause, s.opening with
    | some clause, _ => some (c :: clause)
    | none, .keyword read => if c = '(' then some (c :: read) else none
    | none, _ => none

def Search.step (s : Search) (c : Char) : Search :=
  if c = ')' then
    ⟨.nothing, none, (s.clause.map fun clause => (c :: clause).reverse).toList ++ s.found⟩
  else ⟨s.opening.step c, s.extend c, s.found⟩

/-- All loop headers of a text, from left to right, without overlap. -/
def headers (text : List Char) : List (List Char) :=
  (text.foldl Search.step {}).found.reverse

/-! ### Candidates -/

def mentionsInt : List Char → Bool
  | 'i' :: 'n' :: 't' :: _ => true
  | _ :: rest => mentionsInt rest
  | [] => false

/-- Whether a header looks like a counted loop over integers: it mentions `int` and has a `<`. -/
def isCandidate (header : List Char) : Bool := mentionsInt header && header.contains '<'

/-- The headers that earn a hint to parallelize, in order of appearance. -/
def candidates (text : List Char) : List (List Char) := (headers text).filter isCandidate

end LoopAdvice.Loop
