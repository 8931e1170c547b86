import LoopAdvice.CommandLine.Options
import LoopAdvice.Text.Terminal

/-! # Complaints about a command line

Why a command line does not start a run: it asks for the help text or the version, or something is
wrong with it. A complaint is one paragraph; text from the command line that stands in it is shown
without the sequences a terminal would obey. -/

namespace LoopAdvice.CommandLine

inductive Complaint
  /-- An argument that is no option and has no place left; it is given as it is displayed. -/
  | unknownArgument (shown : String)
  | valueMissing (v : Valued)
  | sourceMissing
  /-- A value for a switch that takes none. -/
  | unexpectedValue (value : String) (s : Switch)
  | repeated (s : Switch)
  /-- A value that has to be text and is not. -/
  | invalidText
  deriving DecidableEq, Repr

/-- Why a command line does not start a run. -/
inductive Stop
  | help
  | version
  | complaint (c : Complaint)
  deriving DecidableEq, Repr

def Complaint.words : Complaint → String
  | .unknownArgument shown => "unexpected argument '" ++ shown ++ "' found"
  | .valueMissing v => "a value is required for '" ++ v.shown ++ "' but none was supplied"
  | .sourceMissing => "a value is required for '[FILE]' but none was supplied"
  | .unexpectedValue value s =>
    "unexpected value '" ++ value ++ "' for '" ++ s.shown ++ "' found; no more were expected"
  | .repeated s => "the argument '" ++ s.shown ++ "' cannot be used multiple times"
  | .invalidText => "invalid UTF-8 was detected in one or more arguments"

def firstParagraph (s : String) : String :=
  "\n".intercalate ((s.splitOn "\n").takeWhile (· != ""))

/-- A complaint as the user reads it. -/
def Complaint.paragraph (c : Complaint) : String :=
  firstParagraph (String.ofList (Terminal.plain ("error: " ++ c.words).toList))

def helpText : String :=
  "Loop scan and optimization hints for C++ sources\n" ++
  "\n" ++
  "Usage: optadvise [OPTIONS] [FILE]\n" ++
  "\n" ++
  "Arguments:\n" ++
  "  [FILE]  Source file to scan [default: " ++ defaultSource ++ "]\n" ++
  "\n" ++
  "Options:\n" ++
  "      --profiler <EXE>  Profiler executable [default: " ++ Tool.defaultProfiler ++ "]\n" ++
  "      --compiler <EXE>  Compiler executable [default: " ++ Tool.defaultCompiler ++ "]\n" ++
  "  -o, --output <NAME>   Name of the compiled binary (relative to the working directory) " ++
    "[default: " ++ Tool.defaultOutput ++ "]\n" ++
  "      --profile         Run the profiler without asking\n" ++
  "      --compile         Run the compiler without asking\n" ++
  "      --no-prompt       Answer \"no\" to any prompt not already answered by a flag\n" ++
  "      --json            Print the suggestion report as JSON\n" ++
  "  -v, --verbose         Enable debug logging on stderr\n" ++
  "  -h, --help            Print help\n" ++
  "  -V, --version         Print version\n"

def versionText : String := "optadvise 0.1.0\n"

namespace Stop

/-- What is printed instead of a run. -/
def message : Stop → String
  | .help => helpText
  | .version => versionText
  | .complaint c => c.paragraph

def exitCode : Stop → Nat
  | .complaint _ => 2
  | _ => 0

/-- Whether the message goes to the error stream. -/
def usesErrorStream : Stop → Bool
  | .complaint _ => true
  | _ => false

end Stop

end LoopAdvice.CommandLine
