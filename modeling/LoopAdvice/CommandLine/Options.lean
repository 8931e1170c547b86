import LoopAdvice.Workflow

/-! # Options

What a command line can say: the source file, three options with a value and five flags. An option
that is not given has its default. -/

namespace LoopAdvice.CommandLine

inductive Valued
  | profiler
  | compiler
  | output
  deriving DecidableEq, Repr

inductive Flag
  | profile
  | compile
  | noPrompt
  | json
  | verbose
  deriving DecidableEq, Repr

/-- What stands for an option on the command line. -/
inductive Switch
  | valued (v : Valued)
  | flag (f : Flag)
  | help
  | version
  deriving DecidableEq, Repr

def Valued.name : Valued → String
  | .profiler => "profiler"
  | .compiler => "compiler"
  | .output => "output"

def Flag.name : Flag → String
  | .profile => "profile"
  | .compile => "compile"
  | .noPrompt => "no-prompt"
  | .json => "json"
  | .verbose => "verbose"

def Switch.name : Switch → String
  | .valued v => v.name
  | .flag f => f.name
  | .help => "help"
  | .version => "version"

def switches : List Switch :=
  [.valued .profiler, .valued .compiler, .valued .output, .flag .profile, .flag .compile,
    .flag .noPrompt, .flag .json, .flag .verbose, .help, .version]

def ofLong? (name : String) : Option Switch := switches.find? (·.name == name)

/-- The switch with a one-letter name. -/
def ofShort? (c : Char) : Option Switch :=
  if c = 'o' then some (.valued .output)
  else if c = 'v' then some (.flag .verbose)
  else if c = 'h' then some .help
  else if c = 'V' then some .version
  else none

def Valued.shown : Valued → String
  | .profiler => "--profiler <EXE>"
  | .compiler => "--compiler <EXE>"
  | .output => "--output <NAME>"

def Switch.shown : Switch → String
  | .valued v => v.shown
  | s => "--" ++ s.name

/-- The source file that is scanned unless another is named. -/
def defaultSource : String := "example_code.cpp"

structure Options where
  source : Bytes := Utf8.bytesOf defaultSource
  profiler : String := Tool.defaultProfiler
  compiler : String := Tool.defaultCompiler
  output : String := Tool.defaultOutput
  profile : Bool := false
  compile : Bool := false
  noPrompt : Bool := false
  json : Bool := false
  verbose : Bool := false
  deriving DecidableEq, Repr

namespace Options

/-- How a tool step gets its yes or no, given whether the tool was asked for. -/
def decision (o : Options) (forced : Bool) : Decision :=
  if forced then .yes else if o.noPrompt then .no else .ask

def profileDecision (o : Options) : Decision := o.decision o.profile

def compileDecision (o : Options) : Decision := o.decision o.compile

def format (o : Options) : Format := if o.json then .json else .text

/-- The run that the options describe. -/
def advisor (o : Options) : Advisor where
  profiler := .profiler o.profiler
  compiler := .compiler o.compiler o.output
  format := o.format
  profile := o.profileDecision
  compile := o.compileDecision

end Options

end LoopAdvice.CommandLine
