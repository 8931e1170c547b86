import LoopAdvice.Files.Path
import LoopAdvice.Source

/-! # File trees

A tree of directories, files, scripts, symbolic links and files that cannot be opened, kept as the
list of its entries by place. The root is always a directory, and whatever is put into a tree gets the
directories above it. -/

namespace LoopAdvice

inductive Ending
  /-- With a status, of which the system keeps the lowest eight bits. -/
  | exit (status : Int)
  | signal
  deriving DecidableEq, Repr

/-- A program that writes fixed texts and ends in a fixed way. -/
structure Script where
  name : String
  /-- What is read in its file. -/
  content : Bytes := []
  stdout : Bytes := []
  stderr : Bytes := []
  ending : Ending := .exit 0
  executable : Bool := true
  /-- The path of the program that is to run it, if it is not the system's shell. -/
  interpreter : Option Path := none
  deriving DecidableEq, Repr

inductive Entry
  | directory
  | file (content : Bytes)
  | script (s : Script)
  | link (target : Path)
  /-- A file that the system does not open: it may not be read, or cannot be. -/
  | refused (reason : SystemError)
  deriving DecidableEq, Repr

/-- A tree, its latest entries first. -/
structure FileTree where
  entries : List (Place × Entry) := []
  deriving DecidableEq, Repr

namespace FileTree

def find? (t : FileTree) (p : Place) : Option Entry :=
  if p.isEmpty then some .directory else t.entries.lookup p

/-- Puts an entry at a place, in the stead of what stands there. -/
def insert (t : FileTree) (p : Place) (e : Entry) : FileTree :=
  ⟨(p, e) :: t.entries.filter (·.1 != p)⟩

/-- Makes a directory at a place unless something stands there. -/
def makeDirectory (t : FileTree) (p : Place) : FileTree :=
  if (t.find? p).isSome then t else t.insert p .directory

def makeParents (t : FileTree) (p : Place) : FileTree :=
  (List.range p.length).foldl (fun t n => t.makeDirectory (p.take n)) t

def put (t : FileTree) (p : Place) (e : Entry) : FileTree := (t.makeParents p).insert p e

/-! ### Walking -/

/-- How many links a walk follows. -/
def maxLinks : Nat := 40

/-- Walks from the directory `dir` through parts of a path and answers where it ends. A link is
followed by walking through its target first; a part of a path is looked up in directories only. -/
def walk (t : FileTree) (links : Nat) (dir : Place) (parts : List Name) :
    Except SystemError (Place × Entry) :=
  match parts with
  | [] =>
    match t.find? dir with
    | some e => .ok (dir, e)
    | none => .error .noEntry
  | part :: rest =>
    match t.find? dir with
    | some .directory =>
      if part = Path.here then t.walk links dir rest
      else if part = Path.above then t.walk links dir.dropLast rest
      else if Path.maxPartLength < part.length then .error .nameTooLong
      else
        let next := dir ++ [part]
        match t.find? next, links with
        | none, _ => .error .noEntry
        | some (.link _), 0 => .error .tooManyLinks
        | some (.link target), links + 1 =>
          t.walk links (if Path.isAbsolute target then [] else dir) (Path.parts target ++ rest)
        | some _, links => t.walk links next rest
    | some _ => .error .notDirectory
    | none => .error .noEntry
termination_by (links, parts.length)

/-- Finds what a path names, seen from a directory. -/
def resolve (t : FileTree) (cwd : Place) (p : Path) : Except SystemError (Place × Entry) :=
  if p.isEmpty then .error .noEntry
  else if Path.maxLength < p.length then .error .nameTooLong
  else t.walk maxLinks (if Path.isAbsolute p then [] else cwd) (Path.parts p)

/-- What is read at the end of a path. No walk ends at a link. -/
def read (t : FileTree) (cwd : Place) (p : Path) : Except ReadFault Bytes :=
  if p.contains 0 then .error (.failed .nulInPath)
  else match t.resolve cwd p with
    | .ok (_, .directory) => .error .directory
    | .ok (_, .file content) => .ok content
    | .ok (_, .script s) => .ok s.content
    | .ok (_, .link _) => .error (.failed (.system .tooManyLinks))
    | .ok (_, .refused e) | .error e => .error (.ofSystem e)

end FileTree

end LoopAdvice
