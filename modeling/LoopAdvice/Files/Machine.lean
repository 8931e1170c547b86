import LoopAdvice.Files.Tree
import LoopAdvice.Run

/-! # Machines

A machine is a file tree, a working directory and one directory in which programs are searched by
name. Reading resolves a path from the working directory. Starting a program that has a slash in its
name resolves it likewise; any other name is looked up in the search directory. What cannot be found
is a missing program; every other refusal of the system is a failure to run it. -/

namespace LoopAdvice

structure Machine where
  tree : FileTree := {}
  cwd : Place
  searchDirectory : Place
  deriving DecidableEq, Repr

namespace Machine

/-- A machine with nothing on it but its two directories. -/
def fresh (cwd searchDirectory : Place) : Machine where
  tree := (({} : FileTree).put cwd .directory).put searchDirectory .directory
  cwd := cwd
  searchDirectory := searchDirectory

/-- Puts a script where its name says: in the search directory, or, if the name has a slash, below
the working directory. -/
def install (m : Machine) (s : Script) : Machine :=
  let name := Utf8.bytesOf s.name
  let p := if name.contains Path.slash then (Path.parts name).filter (· != Path.here) else [name]
  let dir := if name.contains Path.slash then m.cwd else m.searchDirectory
  { m with tree := m.tree.put (dir ++ p) (.script s) }

/-- The longest single argument the system takes, in bytes. -/
def maxArgumentLength : Nat := 131071

/-- The longest interpreter line the system takes, in bytes. -/
def maxInterpreterLength : Nat := 253

def isLineBlank (b : UInt8) : Bool := b == 0x20 || b == 0x09

/-- Whether the system's shell, or the interpreter a script names, can be started. -/
def checkInterpreter (m : Machine) : Option Path → Except SystemError Unit
  | none => .ok ()
  | some line =>
    let path := (line.dropWhile isLineBlank).takeWhile (!isLineBlank ·)
    if path.isEmpty || maxInterpreterLength < line.length then .error .formatError
    else match m.tree.resolve m.cwd path with
      | .ok (_, .script s) => if s.executable then .ok () else .error .permissionDenied
      | .ok _ => .error .permissionDenied
      | .error e => .error e

/-- The script that a program name and its arguments start. -/
def start (m : Machine) (program : String) (args : List String) : Except Cause Script :=
  let name := Utf8.bytesOf program
  let argBytes := args.map Utf8.bytesOf
  if name.contains 0 || argBytes.any (·.contains 0) then .error .nulInArgument
  else
    let found :=
      if name.isEmpty then .error .noEntry
      else if name.contains Path.slash then m.tree.resolve m.cwd name
      else m.tree.walk FileTree.maxLinks m.searchDirectory [name]
    match found with
    | .error e => .error (.system e)
    | .ok (_, .script s) =>
      if !s.executable then .error (.system .permissionDenied)
      else if argBytes.any (maxArgumentLength < ·.length) then .error (.system .argumentsTooLong)
      else match m.checkInterpreter s.interpreter with
        | .ok () => .ok s
        | .error e => .error (.system e)
    | .ok (_, .refused e) => .error (.system e)
    | .ok _ => .error (.system .permissionDenied)

def outputOf (s : Script) : ToolOutput where
  stdout := Utf8.display s.stdout
  stderr := Utf8.display s.stderr
  status := match s.ending with
    | .exit status => some (status % 256)
    | .signal => none

def run (m : Machine) : Runner := fun program args =>
  match m.start program args with
  | .ok s => .ok (outputOf s)
  | .error (.system .noEntry) => .error (.notFound program)
  | .error cause => .error (.failed program cause)

def host (m : Machine) : Host where
  read := m.tree.read m.cwd
  run := m.run

end Machine

end LoopAdvice
