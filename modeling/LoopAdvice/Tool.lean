import LoopAdvice.Fault

/-! # External tools

The two programs the advisor can call on a source file, what it says around a call, and what a call
can answer. -/

namespace LoopAdvice

inductive Tool
  /-- Collects hotspots of the source file. -/
  | profiler (program : String)
  /-- Builds the source file into the named output. -/
  | compiler (program output : String)
  deriving DecidableEq, Repr

namespace Tool

def defaultProfiler : String := "vtune"

def defaultCompiler : String := "icpx"

def defaultOutput : String := "optimized_output.exe"

def program : Tool → String
  | .profiler program => program
  | .compiler program _ => program

/-- The arguments of a call on a source file; the path is given as it is displayed. -/
def args (path : Bytes) : Tool → List String
  | .profiler _ => ["-collect", "hotspots", Utf8.display path]
  | .compiler _ output => ["-fsycl", Utf8.display path, "-o", output]

def banner : Tool → String
  | .profiler _ => "Running Intel VTune Profiler for analysis..."
  | .compiler _ _ => "Compiling with Intel DPC++ for further optimizations..."

/-- The words before what a tool wrote to its error stream. -/
def errorLabel : Tool → String
  | .profiler _ => "VTune Profiler error:"
  | .compiler _ _ => "Compilation error:"

def missingHint : Tool → String
  | .profiler _ =>
    "VTune Profiler not found. Ensure it is installed and set up in your environment."
  | .compiler _ _ => "DPC++ compiler not found. Ensure Intel oneAPI is properly installed."

end Tool

/-- What a program that ran left behind; `status` is absent if a signal ended it. -/
structure ToolOutput where
  stdout : String
  stderr : String
  status : Option Int
  deriving DecidableEq, Repr

def ToolOutput.succeeded (o : ToolOutput) : Bool := o.status == some 0

/-- What calling a program with arguments answers. -/
abbrev Runner := String → List String → Except ToolFault ToolOutput

inductive ToolOutcome
  | skipped
  | ran
  | unavailable
  deriving DecidableEq, Repr

def ToolOutcome.word : ToolOutcome → String
  | .skipped => "Skipped"
  | .ran => "Ran"
  | .unavailable => "Unavailable"

end LoopAdvice
