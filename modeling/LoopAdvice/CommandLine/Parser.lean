import LoopAdvice.CommandLine.Complaint

/-! # Reading a command line

Arguments are read from left to right. An option that wants a value takes the next argument that is
no option; what it was given is settled only when the next option, or the end, is reached, so a
complaint about a value comes after one about an unknown argument that stands between. A long option
has its value after `=` or in the next argument, a short one right behind its letter, after `=`, or in
the next argument. Every argument after `--` is a source file, and there is place for one. -/

namespace LoopAdvice.CommandLine

/-- What was read and not yet settled. -/
inductive Pending
  | nothing
  | wanted (v : Valued)
  | value (v : Valued) (bytes : Bytes)
  | source (path : Bytes)
  deriving DecidableEq, Repr

/-- The options settled so far; what is absent was not given. -/
structure Settled where
  source : Option Bytes := none
  values : List (Valued × String) := []
  flags : List Flag := []
  deriving DecidableEq, Repr

/-- The reader between two arguments. -/
structure Reader where
  settled : Settled := {}
  pending : Pending := .nothing
  hasSource : Bool := false
  /-- Whether `--` was read. -/
  escaped : Bool := false
  deriving DecidableEq, Repr

def complain {α : Type} (c : Complaint) : Except Stop α := .error (.complaint c)

namespace Settled

def addValue (s : Settled) (v : Valued) (bytes : Bytes) : Except Stop Settled :=
  if (s.values.lookup v).isSome then complain (.repeated (.valued v))
  else match Utf8.string? bytes with
    | some text => .ok { s with values := (v, text) :: s.values }
    | none => complain .invalidText

def addFlag (s : Settled) (f : Flag) : Except Stop Settled :=
  if s.flags.contains f then complain (.repeated (.flag f))
  else .ok { s with flags := f :: s.flags }

def addSource (s : Settled) (path : Bytes) : Except Stop Settled :=
  if path.isEmpty then complain .sourceMissing else .ok { s with source := some path }

def value (s : Settled) (v : Valued) (default : String) : String := (s.values.lookup v).getD default

/-- The options, each one that was not given at its default. -/
def options (s : Settled) : Options where
  source := s.source.getD (Utf8.bytesOf defaultSource)
  profiler := s.value .profiler Tool.defaultProfiler
  compiler := s.value .compiler Tool.defaultCompiler
  output := s.value .output Tool.defaultOutput
  profile := s.flags.contains .profile
  compile := s.flags.contains .compile
  noPrompt := s.flags.contains .noPrompt
  json := s.flags.contains .json
  verbose := s.flags.contains .verbose

end Settled

namespace Reader

def settle (r : Reader) : Except Stop Reader :=
  match r.pending with
  | .nothing => .ok r
  | .wanted v => complain (.valueMissing v)
  | .value v bytes => do
    let settled ← r.settled.addValue v bytes
    pure { r with settled, pending := .nothing }
  | .source path => do
    let settled ← r.settled.addSource path
    pure { r with settled, pending := .nothing }

/-- An option with its value attached. -/
def attached (r : Reader) (v : Valued) (bytes : Bytes) : Except Stop Reader := do
  let r ← r.settle
  let settled ← r.settled.addValue v bytes
  pure { r with settled }

def want (r : Reader) (v : Valued) : Except Stop Reader := do
  let r ← r.settle
  pure { r with pending := .wanted v }

def turnOn (r : Reader) (f : Flag) : Except Stop Reader := do
  let r ← r.settle
  let settled ← r.settled.addFlag f
  pure { r with settled }

/-- A question to the program instead of a run. -/
def stop (r : Reader) (s : Stop) : Except Stop Reader := do
  let _ ← r.settle
  .error s

/-- A long option: what stands between `--` and the first `=`, and what stands after it. -/
def long (r : Reader) (name : Bytes) (value : Option Bytes) : Except Stop Reader :=
  match (Utf8.string? name).bind ofLong?, value with
  | none, _ => complain (.unknownArgument ("--" ++ Utf8.display name))
  | some (.valued v), some bytes => r.attached v bytes
  | some (.valued v), none => r.want v
  | some s, some bytes => complain (.unexpectedValue (Utf8.display bytes) s)
  | some (.flag f), none => r.turnOn f
  | some .help, none => r.stop .help
  | some .version, none => r.stop .version

/-- The value right behind a short option, less one `=` at its start. -/
def behind (bytes : Bytes) : Bytes :=
  match bytes with
  | 0x3D :: rest => rest
  | _ => bytes

/-- The letters of a short option group. `rest` is what stands behind the readable letters and is not
text; a letter is unknown, turns a switch on, or takes all behind it as its value. -/
def short (r : Reader) (rest : Bytes) : List Char → Except Stop Reader
  | [] =>
    if rest.isEmpty then .ok r else complain (.unknownArgument ("-" ++ Utf8.display rest))
  | c :: cs =>
    match ofShort? c with
    | none => complain (.unknownArgument (String.ofList ['-', c]))
    | some (.flag f) => do (← r.turnOn f).short rest cs
    | some .help => r.stop .help
    | some .version => r.stop .version
    | some (.valued v) =>
      let value := Utf8.encode cs ++ rest
      if value.isEmpty then r.want v else r.attached v (behind value)

def plain (r : Reader) (arg : Bytes) : Except Stop Reader :=
  match r.pending, r.escaped with
  | .wanted v, false => .ok { r with pending := .value v arg }
  | _, _ =>
    if r.hasSource then complain (.unknownArgument (Utf8.display arg))
    else do
      let r ← r.settle
      pure { r with pending := .source arg, hasSource := true }

/-- The bytes before the first `=`, and those after it. -/
def splitValue (bytes : Bytes) : Bytes × Option Bytes :=
  match bytes.dropWhile (· != 0x3D) with
  | [] => (bytes, none)
  | _ :: value => (bytes.takeWhile (· != 0x3D), some value)

def step (r : Reader) (arg : Bytes) : Except Stop Reader :=
  if r.escaped then r.plain arg
  else match arg with
    | [0x2D, 0x2D] => .ok { r with escaped := true }
    | 0x2D :: 0x2D :: rest => r.long (splitValue rest).1 (splitValue rest).2
    | 0x2D :: b :: rest =>
      let (letters, rest) := Utf8.readablePart (b :: rest)
      r.short rest letters
    | _ => r.plain arg

end Reader

def parse (args : List Bytes) : Except Stop Options := do
  let r ← args.foldlM Reader.step {}
  let r ← r.settle
  pure r.settled.options

end LoopAdvice.CommandLine
