import LoopAdvice.Event.Basic
import LoopAdvice.Text.Alphanumeric
import LoopAdvice.Text.Blank

/-! # Log filters

A filter is a list of directives, separated by commas. A directive is a level, a target, or a target
and a level with `=` between; a target alone lets everything of it through. It may also name a span
in brackets, with a field in braces. An event passes if the most specific directive that fits it lets
its level through: a longer target is more specific than a shorter one, and a directive with a target
is more specific than one without. A directive fits an event if its target starts the event's target
and the event has its field. A directive that names a span, or the value of a field, fits no event,
because a run has no spans. -/

namespace LoopAdvice

/-- A directive of a log filter; `detail` is the detail of the most detailed level that passes, 0 if
none does. -/
structure Directive where
  detail : Nat
  target : Option String := none
  /-- The field an event must have. -/
  field : Option String := none
  /-- Whether it is about spans, or about the value of a field. -/
  spansOnly : Bool := false
  deriving DecidableEq, Repr

namespace Directive

/-- The number that decimal digits spell, with or without a plus sign in front. -/
def number? (s : List Char) : Option Nat :=
  let digits := if s.head? = some '+' then s.drop 1 else s
  if digits.isEmpty || !digits.all Char.isDigit then none
  else some (digits.foldl (fun n c => n * 10 + (c.toNat - 48)) 0)

/-- The detail a level stands for, by its name in any case or by its number. -/
def detail? (s : List Char) : Option Nat :=
  match number? s with
  | some n => if n ≤ 5 then some n else none
  | none =>
    match String.ofList (s.map Char.toLower) with
    | "off" => some 0
    | "error" => some 1
    | "warn" => some 2
    | "info" => some 3
    | "debug" => some 4
    | "trace" => some 5
    | _ => none

def everything : Nat := 5

/-- The level after the `=` of a directive; nothing at all lets everything through. -/
def levelPart? (s : List Char) : Option Nat := if s.isEmpty then some everything else detail? s

/-- Whether a target or a level may start with a character. -/
def canStart (c : Char) : Bool := c = '-' || c = ':' || c = '_' || isAlphanumeric c

/-- A directive without a span: a level, a target, or both. -/
def simple? (s : List Char) : Option Directive :=
  match s.dropWhile (· != '=') with
  | [] =>
    match detail? s with
    | some detail => some { detail }
    | none => some { detail := everything, target := some (String.ofList s) }
  | _ :: level =>
    (levelPart? level).map fun detail =>
      { detail, target := some (String.ofList (s.takeWhile (· != '='))) }

/-- The level that follows the closing bracket of a span. -/
def afterSpan? : List Char → Option Nat
  | [] => some everything
  | '=' :: level => levelPart? level
  | rest => if rest.all isBlank then some everything else none

/-- What stands between the braces of a span, and what follows the bracket after them. -/
def braced? (s : List Char) : Option (List Char × List Char) :=
  let field := s.takeWhile (· != '\x7d')
  match s.dropWhile (· != '\x7d') with
  | '\x7d' :: ']' :: rest => if field.isEmpty then none else some (field, rest)
  | _ => none

/-- A span, after its opening bracket, and a level. -/
def span? (target : Option String) (s : List Char) : Option Directive :=
  let name := s.takeWhile fun c => c != ']' && c != '\x7b'
  match s.dropWhile fun c => c != ']' && c != '\x7b' with
  | ']' :: rest => (afterSpan? rest).map fun detail => { detail, target, spansOnly := true }
  | '\x7b' :: rest => do
    let (field, rest) ← braced? rest
    let detail ← afterSpan? rest
    let fieldName := String.ofList (field.takeWhile (· != '='))
    pure { detail, target, field := some fieldName, spansOnly := !name.isEmpty || field.contains '=' }
  | _ => none

/-- Reads a directive. Blanks in front of it do not hide where it starts, but they are part of a
target and spoil a level. -/
def parse? (s : List Char) : Option Directive :=
  let start := s.dropWhile isBlank
  if start.length < s.length && start.contains '=' then none
  else match start with
    | [] => none
    | '[' :: rest => span? none rest
    | c :: _ =>
      if !canStart c then none
      else match s.dropWhile fun c => c != '=' && c != '[' with
        | '[' :: rest =>
          span? (some (String.ofList (s.takeWhile fun c => c != '=' && c != '['))) rest
        | _ => simple? s

def fits (d : Directive) (e : Event) : Bool :=
  !d.spansOnly && (d.target.all fun t => t.toList.isPrefixOf e.target.toList) &&
    d.field.all fun f => f == "message" || (e.fields.map Prod.fst).contains f

/-- Whether a directive is at least as specific as another. -/
def outranks (d other : Directive) : Bool :=
  match compare (d.target.map String.utf8ByteSize) (other.target.map String.utf8ByteSize) with
  | .lt => false
  | .gt => true
  | .eq => (compare d.field other.field).isGE

end Directive

structure LogFilter where
  directives : List Directive
  deriving DecidableEq, Repr

namespace LogFilter

/-- The filter that lets a level and everything more important through. -/
def upTo (l : Level) : LogFilter := ⟨[{ detail := l.detail }]⟩

/-- The filter of a text, or nothing if a directive cannot be read. Without directives, errors
pass. -/
def parse? (s : String) : Option LogFilter := do
  let parts := (s.splitOn ",").filter (· != "")
  let directives ← parts.mapM fun part => Directive.parse? part.toList
  if directives.isEmpty then pure (upTo .error) else pure ⟨directives⟩

/-- The more specific of two directives, the second one if neither is. -/
def moreSpecific (best : Option Directive) (d : Directive) : Option Directive :=
  match best with
  | none => some d
  | some b => if d.outranks b then some d else some b

/-- The most specific directive that fits an event; among equals, the last. -/
def ruling? (f : LogFilter) (e : Event) : Option Directive :=
  (f.directives.filter (·.fits e)).foldl moreSpecific none

def admits (f : LogFilter) (e : Event) : Bool :=
  match f.ruling? e with
  | some d => e.level.detail ≤ d.detail
  | none => false

/-- The filter of a run: everything up to `debug` if that is asked for; else what the setting says;
without a setting that can be read, warnings. -/
def ofSetting (verbose : Bool) (setting : Option String) : LogFilter :=
  if verbose then upTo .debug else (setting.bind parse?).getD (upTo .warn)

end LogFilter

end LoopAdvice
