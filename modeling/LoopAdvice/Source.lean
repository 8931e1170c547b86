import LoopAdvice.Event.Basic

/-! # Source files

The text of the file under review. It is read once. Bytes that are not UTF-8 are replaced, not
refused, and the replacement is recorded. A missing file, or a directory in its place, is told apart
from every other failure to read. -/

namespace LoopAdvice

structure SourceDocument where
  path : Bytes
  text : List Char
  deriving DecidableEq, Repr

inductive ReadFault
  | missing
  | directory
  | failed (cause : Cause)
  deriving DecidableEq, Repr

/-- What the system's reason for not opening a file means. -/
def ReadFault.ofSystem : SystemError → ReadFault
  | .noEntry => .missing
  | e => .failed (.system e)

namespace SourceDocument

def isEmpty (d : SourceDocument) : Bool := d.text.isEmpty

/-- The document whose file holds given bytes. -/
def ofBytes (path content : Bytes) : SourceDocument := ⟨path, Utf8.decodeLossy content⟩

/-- What is recorded when a file that holds given bytes is read. -/
def readEvents (path content : Bytes) : List Event :=
  (if Utf8.isValid content then [] else [.decodedLossily path]) ++
    [.sourceLoaded path (Utf8.encode (Utf8.decodeLossy content)).length]

/-- What is recorded and what comes of reading a path, given what the file system answers. -/
def load (path : Bytes) : Except ReadFault Bytes → List Event × Except Fault SourceDocument
  | .ok content => (readEvents path content, .ok (ofBytes path content))
  | .error .missing => ([], .error (.notFound path))
  | .error .directory => ([], .error (.notFound path))
  | .error (.failed cause) =>
    ([], .error (.failed ("failed to read " ++ Utf8.display path) cause))

end SourceDocument

end LoopAdvice
