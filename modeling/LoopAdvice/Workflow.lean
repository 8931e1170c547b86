import LoopAdvice.Report
import LoopAdvice.Run

/-! # The advisory workflow

One advisory run over one file: scan, report, then the two optional tools. A missing source and a
missing tool end their own step only; every other fault ends the run. In the JSON format the lines of
progress are recorded instead of written. -/

namespace LoopAdvice

open Step

/-! ### Tools -/

/-- What a fault says when a tool's lines cannot be written. -/
def toolWriting : String := "failed to write tool output"

/-- What a fault says when any other output cannot be written. -/
def writing : String := "failed to write to output"

/-- Tells about a program that ran and echoes its streams. -/
def echo (tool : Tool) (o : ToolOutput) : Step Unit := do
  record [.toolFinished tool.program o.status]
  if !o.succeeded then record [.toolUnsuccessful tool.program o.status]
  writeLine toolWriting o.stdout
  if o.stderr != "" then writeLine toolWriting (tool.errorLabel ++ " " ++ o.stderr)

/-- Announces a tool, calls it on a source file and echoes its streams. A program that is not
installed is a fault with a hint. -/
def invoke (tool : Tool) (run : Runner) (path : Bytes) : Step ToolOutput := do
  writeLine toolWriting tool.banner
  record [.toolInvoked tool.program (tool.args path)]
  match ← call run tool.program (tool.args path) with
  | .ok o => do
    echo tool o
    pure o
  | .error (.notFound program) => do
    record [.toolMissing program]
    throw (.toolUnavailable program tool.missingHint)
  | .error (.failed program cause) => throw (.failed (ToolFault.attempt program) cause)

/-! ### The advisor -/

def profileQuestion : String := "Run Intel VTune Profiler for deeper analysis? (y/n) "

def compileQuestion : String := "Compile with DPC++ for optimizations? (y/n) "

structure Advisor where
  profiler : Tool := .profiler Tool.defaultProfiler
  compiler : Tool := .compiler Tool.defaultCompiler Tool.defaultOutput
  format : Format := .text
  profile : Decision := .ask
  compile : Decision := .ask
  deriving DecidableEq, Repr

structure Outcome where
  loaded : Bool
  suggestions : List String
  profiler : ToolOutcome
  compiler : ToolOutcome
  deriving DecidableEq, Repr

namespace Advisor

/-- A line of progress: written in the text format, recorded in the JSON format. -/
def say (a : Advisor) (line : String) : Step Unit :=
  match a.format with
  | .text => writeLine writing line
  | .json => record [.progress line]

def announceMissing (a : Advisor) (fault : Fault) : Step Unit :=
  match a.format with
  | .text => writeLine writing fault.message
  | .json => record [.sourceMissing fault.message]

/-- Scans a text and appends a suggestion for each candidate; answers how many there were. -/
def scan (text : List Char) : Step Nat := do
  record ((Loop.candidates text).map .candidateFound)
  modify fun p => { p with session := p.session.scan text }
  pure (Loop.candidates text).length

/-- Reads and scans the source; answers whether the file was read. -/
def analyze (a : Advisor) (host : Host) : Step Bool := do
  let path := (← get).session.path
  let (recorded, loaded) := SourceDocument.load path (host.read path)
  record recorded
  match loaded with
  | .error (.notFound path) => do
    a.announceMissing (.notFound path)
    pure false
  | .error fault => throw fault
  | .ok document => do
    a.say "Analyzing code..."
    let loops ← scan document.text
    a.say "Analysis complete."
    modify fun p => { p with session := p.session.suggestVectorization.suggestMemory }
    record [.scanFinished loops (← get).session.size]
    pure true

def report (a : Advisor) (loaded : Bool) : Step Unit := do
  write writing ((Report.ofSession (← get).session loaded).render a.format)

def consent (decision : Decision) (question : String) : Step Bool :=
  match decision with
  | .yes => pure true
  | .no => pure false
  | .ask => do pure (accepts (← ask question))

/-- A program that is not installed is announced; any other fault goes on. -/
def recover : Fault → Step ToolOutcome
  | .toolUnavailable tool hint => do
    writeLine writing (Fault.toolUnavailable tool hint).message
    pure .unavailable
  | fault => throw fault

/-- Runs a tool that may run. -/
def runTool (host : Host) (tool : Tool) : Step ToolOutcome := do
  let path := (← get).session.path
  tryCatch (do
    let _ ← invoke tool host.run path
    pure .ran) recover

def toolStep (host : Host) (decision : Decision) (question : String) (tool : Tool) :
    Step ToolOutcome := do
  if ← consent decision question then runTool host tool else pure .skipped

def runProfiler (a : Advisor) (host : Host) : Step ToolOutcome :=
  toolStep host a.profile profileQuestion a.profiler

def runCompiler (a : Advisor) (host : Host) : Step ToolOutcome :=
  toolStep host a.compile compileQuestion a.compiler

def run (a : Advisor) (host : Host) : Step Outcome := do
  let loaded ← a.analyze host
  a.report loaded
  let profiler ← a.runProfiler host
  let compiler ← a.runCompiler host
  let session := (← get).session
  record [.sessionDone session.path loaded session.size profiler compiler]
  pure ⟨loaded, session.texts, profiler, compiler⟩

end Advisor

end LoopAdvice
