import LoopAdvice.Text.Quoted
import LoopAdvice.Tool

/-! # Events

What a run records about itself. An event is one of a fixed list; its level, its target, its message
and its fields are read off it. Fields have a plain form and the form of a log line, which differ
only for words, which a line puts in quotes. -/

namespace LoopAdvice

/-- How much an event matters, most first. -/
inductive Level
  | error
  | warn
  | info
  | debug
  | trace
  deriving DecidableEq, Repr

def Level.name : Level → String
  | .error => "ERROR"
  | .warn => "WARN"
  | .info => "INFO"
  | .debug => "DEBUG"
  | .trace => "TRACE"

/-- How detailed a level is: `error` is 1 and `trace` is 5. -/
def Level.detail : Level → Nat
  | .error => 1
  | .warn => 2
  | .info => 3
  | .debug => 4
  | .trace => 5

inductive FieldValue
  /-- Text that is shown as it stands. -/
  | text (s : String)
  /-- Text that a log line puts in quotes. -/
  | word (s : String)
  | words (l : List String)
  | number (n : Nat)
  | status (s : Option Int)
  | flag (b : Bool)
  deriving DecidableEq, Repr

def FieldValue.plain : FieldValue → String
  | .text s => s
  | .word s => s
  | .words l => Quoted.strings l
  | .number n => toString n
  | .status s => Quoted.optional s
  | .flag b => toString b

def FieldValue.inLine : FieldValue → String
  | .word s => Quoted.string s
  | v => v.plain

/-- What a run records. -/
inductive Event
  | decodedLossily (path : Bytes)
  /-- The source was read; `size` is the length of its text in bytes. -/
  | sourceLoaded (path : Bytes) (size : Nat)
  | candidateFound (header : List Char)
  | scanFinished (loops total : Nat)
  /-- A line of progress that is kept off the output. -/
  | progress (message : String)
  /-- The notice of a missing source, kept off the output. -/
  | sourceMissing (message : String)
  | toolInvoked (program : String) (args : List String)
  | toolMissing (program : String)
  | toolFinished (program : String) (status : Option Int)
  | toolUnsuccessful (program : String) (status : Option Int)
  | sessionDone (path : Bytes) (loaded : Bool) (suggestions : Nat) (profiler compiler : ToolOutcome)
  deriving DecidableEq, Repr

namespace Event

def level : Event → Level
  | decodedLossily _ => .warn
  | sourceLoaded _ _ => .debug
  | candidateFound _ => .debug
  | scanFinished _ _ => .debug
  | progress _ => .info
  | sourceMissing _ => .warn
  | toolInvoked _ _ => .debug
  | toolMissing _ => .warn
  | toolFinished _ _ => .info
  | toolUnsuccessful _ _ => .warn
  | sessionDone _ _ _ _ _ => .info

/-- The part of the program an event comes from, by which log filters select. -/
def target : Event → String
  | decodedLossily _ | sourceLoaded _ _ => "optadvise_core::source"
  | candidateFound _ => "optadvise_core::session"
  | toolInvoked _ _ | toolMissing _ | toolFinished _ _ | toolUnsuccessful _ _ =>
    "optadvise_tools::invoke"
  | scanFinished _ _ | progress _ | sourceMissing _ | sessionDone _ _ _ _ _ => "optadvise::workflow"

def message : Event → String
  | decodedLossily _ => "source is not valid UTF-8; decoding lossily"
  | sourceLoaded _ _ => "loaded source"
  | candidateFound _ => "parallelizable loop candidate"
  | scanFinished _ _ => "scan finished"
  | progress message => message
  | sourceMissing message => message
  | toolInvoked _ _ => "invoking external tool"
  | toolMissing _ => "external tool not found"
  | toolFinished _ _ => "external tool finished"
  | toolUnsuccessful _ _ => "external tool exited unsuccessfully"
  | sessionDone _ _ _ _ _ => "session done"

def fields : Event → List (String × FieldValue)
  | decodedLossily path => [("path", .text (Utf8.display path))]
  | sourceLoaded path size => [("path", .text (Utf8.display path)), ("bytes", .number size)]
  | candidateFound header => [("header", .text (String.ofList header))]
  | scanFinished loops total => [("loops", .number loops), ("total", .number total)]
  | progress _ => []
  | sourceMissing _ => []
  | toolInvoked program args => [("program", .word program), ("args", .words args)]
  | toolMissing program => [("program", .text program)]
  | toolFinished program status => [("program", .word program), ("status", .status status)]
  | toolUnsuccessful program status => [("program", .word program), ("status", .status status)]
  | sessionDone path loaded suggestions profiler compiler =>
    [("source", .text (Utf8.display path)), ("loaded", .flag loaded),
      ("suggestions", .number suggestions), ("profiler", .text profiler.word),
      ("compiler", .text compiler.word)]

end Event

end LoopAdvice
