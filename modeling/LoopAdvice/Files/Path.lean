import LoopAdvice.Fault

/-! # Paths

A path is a byte string. Its parts are separated by slashes; a path that starts with a slash starts
at the root, and a path that ends with one names a directory, as if it ended with the part `.`. -/

namespace LoopAdvice

abbrev Path := Bytes

abbrev Name := Bytes

/-- Where a file is: the names from the root down to it. -/
abbrev Place := List Name

namespace Path

def slash : UInt8 := 0x2F

/-- The part for the directory itself. -/
def here : Name := [0x2E]

/-- The part for the directory above. -/
def above : Name := [0x2E, 0x2E]

/-- The parts read so far, last first, and the bytes of the unfinished one, last first. -/
structure Splitter where
  parts : List Name := []
  unfinished : Name := []
  deriving DecidableEq, Repr

def Splitter.step (s : Splitter) (b : UInt8) : Splitter :=
  if b = slash then ⟨s.unfinished.reverse :: s.parts, []⟩ else ⟨s.parts, b :: s.unfinished⟩

def split (p : Path) : List Name :=
  let s := p.foldl Splitter.step {}
  (s.unfinished.reverse :: s.parts).reverse

def isAbsolute (p : Path) : Bool := p.head? == some slash

def parts (p : Path) : List Name :=
  (split p).filter (!·.isEmpty) ++ if p.getLast? = some slash then [here] else []

/-- The longest path the system takes, in bytes. -/
def maxLength : Nat := 4095

/-- The longest part the system takes, in bytes. -/
def maxPartLength : Nat := 255

end Path

end LoopAdvice
