import LoopAdvice.CommandLine.Parser
import LoopAdvice.Event.Filter
import LoopAdvice.Event.Line
import LoopAdvice.Text.Wrap

/-! # The program

A whole run from the command line to the exit status, given the surroundings, the bytes of standard
input and the setting of the log. -/

namespace LoopAdvice

/-- What a run of the program shows. -/
structure Transcript where
  exitCode : Nat
  stdout : Bytes := []
  log : List String := []
  /-- What ends the error stream. -/
  report : Option String := none
  /-- The programs it tried to run, with their arguments. -/
  calls : List (String × List String) := []
  deriving DecidableEq, Repr

def reportColumns : Nat := 78

/-- The report on a fault that ends the program. -/
def Fault.report (f : Fault) : String :=
  "Error: " ++ f.code ++ "\n\n" ++ Wrap.fill (reportColumns - 4) "  × " "  │ " f.message ++ "\n" ++
    (match f.cause? with
      | some cause => Wrap.fill (reportColumns - 6) "  ╰─▶ " "      " cause.message ++ "\n"
      | none => "") ++ "\n"

namespace Transcript

def ofStop (s : CommandLine.Stop) : Transcript :=
  if s.usesErrorStream then { exitCode := s.exitCode, report := some s.message }
  else { exitCode := s.exitCode, stdout := Utf8.bytesOf s.message }

def logLines (filter : LogFilter) (trace : Trace) : List String :=
  (trace.events.filter filter.admits).flatMap Event.lines

/-- A run that came to its end or to a fault. -/
def ofRun (filter : LogFilter) (fault : Option Fault) (trace : Trace) : Transcript where
  exitCode := if fault.isSome then 1 else 0
  stdout := trace.shown
  log := logLines filter trace
  report := fault.map Fault.report
  calls := trace.calls

end Transcript

def CommandLine.Options.start (o : CommandLine.Options) (stdin : Bytes) : Progress where
  session := { path := o.source }
  replies := repliesOfInput stdin

/-- Runs the program on the arguments of a command line. -/
def runProgram (args : List Bytes) (host : Host) (stdin : Bytes) (setting : Option String) :
    Transcript :=
  match CommandLine.parse args with
  | .error stop => .ofStop stop
  | .ok options =>
    let filter := LogFilter.ofSetting options.verbose setting
    match (options.advisor.run host).run (options.start stdin) with
    | .ok _ p => .ofRun filter none p.trace
    | .error fault p => .ofRun filter (some fault) p.trace

end LoopAdvice
