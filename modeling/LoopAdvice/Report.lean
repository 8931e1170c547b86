import LoopAdvice.Json.Value
import LoopAdvice.Session

/-! # Reports

What is told about a session: the file, whether it was read, and the suggestions. The text form is a
blank line, a heading and one line for each suggestion; the JSON form is one indented document and a
line break. -/

namespace LoopAdvice

def reportSchema : String := "optadvise.report.v1"

/-- A report; `input` is the path as it is displayed. -/
structure Report where
  input : String
  loaded : Bool
  suggestions : List Suggestion
  deriving DecidableEq, Repr

inductive Format
  | text
  | json
  deriving DecidableEq, Repr

namespace Report

def ofSession (s : Session) (loaded : Bool) : Report :=
  ⟨Utf8.display s.path, loaded, s.suggestions⟩

def line (s : Suggestion) : String := " - " ++ s.text ++ "\n"

def toText (r : Report) : String :=
  "\nOptimization suggestions:\n" ++ String.join (r.suggestions.map line)

def suggestionValue (s : Suggestion) : Json.Value :=
  .object [("kind".toList, .string s.kind.word.toList), ("text".toList, .string s.text.toList)]

def toValue (r : Report) : Json.Value :=
  .object [("schema".toList, .string reportSchema.toList), ("input".toList, .string r.input.toList),
    ("loaded".toList, .bool r.loaded), ("suggestions".toList, .array (r.suggestions.map suggestionValue))]

def toJson (r : Report) : String := String.ofList (Json.render 0 r.toValue) ++ "\n"

def render (r : Report) : Format → String
  | .text => r.toText
  | .json => r.toJson

end Report

end LoopAdvice
