import LoopAdvice.Text.Utf8

/-! # Faults

What can go wrong, as causes. A `Cause` is what the system or a stream reports; a `Fault` is what a
step of the advisor makes of it; a `ToolFault` is what starting an external program makes of it. The
wording of each stands in one function. -/

namespace LoopAdvice

/-- The system's reasons for refusing to open a file or to start a program. -/
inductive SystemError
  | noEntry
  | inputOutput
  | argumentsTooLong
  | formatError
  | permissionDenied
  | notDirectory
  | isDirectory
  | nameTooLong
  | tooManyLinks
  deriving DecidableEq, Repr

def SystemError.number : SystemError → Nat
  | .noEntry => 2
  | .inputOutput => 5
  | .argumentsTooLong => 7
  | .formatError => 8
  | .permissionDenied => 13
  | .notDirectory => 20
  | .isDirectory => 21
  | .nameTooLong => 36
  | .tooManyLinks => 40

def SystemError.text : SystemError → String
  | .noEntry => "No such file or directory"
  | .inputOutput => "Input/output error"
  | .argumentsTooLong => "Argument list too long"
  | .formatError => "Exec format error"
  | .permissionDenied => "Permission denied"
  | .notDirectory => "Not a directory"
  | .isDirectory => "Is a directory"
  | .nameTooLong => "File name too long"
  | .tooManyLinks => "Too many levels of symbolic links"

/-- What an operation on files, streams or programs failed with. -/
inductive Cause
  | system (e : SystemError)
  /-- A path has a NUL in it. -/
  | nulInPath
  /-- A program name or an argument has a NUL in it. -/
  | nulInArgument
  | invalidText
  /-- A failure known by its words only. -/
  | other (text : String)
  deriving DecidableEq, Repr

def Cause.message : Cause → String
  | .system e => e.text ++ " (os error " ++ toString e.number ++ ")"
  | .nulInPath => "file name contained an unexpected NUL byte"
  | .nulInArgument => "nul byte found in provided data"
  | .invalidText => "stream did not contain valid UTF-8"
  | .other text => text

/-- What a step of the advisor failed with. -/
inductive Fault
  /-- The source file is missing, or a directory stands in its place. -/
  | notFound (path : Bytes)
  /-- An external tool is not installed; `hint` is what the user is told. -/
  | toolUnavailable (tool hint : String)
  /-- Any other failure, and what was attempted. -/
  | failed (attempt : String) (cause : Cause)
  deriving DecidableEq, Repr

namespace Fault

def message : Fault → String
  | .notFound path => "File " ++ Utf8.display path ++ " not found."
  | .toolUnavailable _ hint => hint
  | .failed attempt _ => attempt

def code : Fault → String
  | .notFound _ => "optadvise::not_found"
  | .toolUnavailable _ _ => "optadvise::tool_unavailable"
  | .failed _ _ => "optadvise::io"

def help? : Fault → Option String
  | .toolUnavailable tool _ =>
    some ("`" ++ tool ++ "` was not found on PATH; install it or pass its location explicitly")
  | _ => none

def cause? : Fault → Option Cause
  | .failed _ cause => some cause
  | _ => none

/-- Whether a fault ends its own step only. -/
def isRecoverable : Fault → Bool
  | .failed _ _ => false
  | _ => true

end Fault

/-- What starting an external program failed with. -/
inductive ToolFault
  | notFound (program : String)
  | failed (program : String) (cause : Cause)
  deriving DecidableEq, Repr

namespace ToolFault

/-- What was attempted when a program could not be run. -/
def attempt (program : String) : String := "failed to run `" ++ program ++ "`"

def message : ToolFault → String
  | .notFound program => "executable `" ++ program ++ "` not found"
  | .failed program _ => attempt program

def code : ToolFault → String
  | .notFound _ => "optadvise::tools::not_found"
  | .failed _ _ => "optadvise::tools::io"

def cause? : ToolFault → Option Cause
  | .notFound _ => none
  | .failed _ cause => some cause

end ToolFault

end LoopAdvice
