import LoopAdvice.Loop.Header
import LoopAdvice.Suggestion
import LoopAdvice.Text.Utf8

/-! # Sessions

The suggestions gathered for one source file. A session only grows: every operation appends, and
nothing is removed, reordered or merged. -/

namespace LoopAdvice

/-- A source file and the suggestions for it, oldest first. -/
structure Session where
  path : Bytes
  suggestions : List Suggestion := []
  deriving DecidableEq, Repr

namespace Session

def add (s : Session) (more : List Suggestion) : Session :=
  { s with suggestions := s.suggestions ++ more }

@[simp] theorem path_add (s : Session) (more : List Suggestion) : (s.add more).path = s.path := rfl

@[simp] theorem suggestions_add (s : Session) (more : List Suggestion) :
    (s.add more).suggestions = s.suggestions ++ more := rfl

/-- The suggestions a text earns: one to parallelize for every candidate loop. -/
def earned (text : List Char) : List Suggestion :=
  (Loop.candidates text).map fun _ => .parallelize

def scan (s : Session) (text : List Char) : Session := s.add (earned text)

def suggestVectorization (s : Session) : Session := s.add [.vectorize]

def suggestMemory (s : Session) : Session := s.add [.memory]

def texts (s : Session) : List String := s.suggestions.map Suggestion.text

def size (s : Session) : Nat := s.suggestions.length

@[simp] theorem size_add (s : Session) (more : List Suggestion) :
    (s.add more).size = s.size + more.length :=
  List.length_append

def isEmpty (s : Session) : Bool := s.suggestions.isEmpty

end Session

end LoopAdvice
