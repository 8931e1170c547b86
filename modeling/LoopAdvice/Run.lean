import LoopAdvice.Consent
import LoopAdvice.Event.Basic
import LoopAdvice.Session
import LoopAdvice.Source

/-! # Runs

A step of the advisor changes the session, reads replies and leaves a trace: everything it wrote,
asked, called and recorded, in order. A step that fails keeps what it did before. The writer takes a
given number of bytes in all, or any number; a write that does not fit leaves the bytes that do and
fails with the writer's own cause. -/

namespace LoopAdvice

/-- One thing a run did that can be seen from outside. -/
inductive Action
  | wrote (bytes : Bytes)
  | asked (question : String)
  | called (program : String) (args : List String)
  | recorded (event : Event)
  deriving DecidableEq, Repr

/-- What a run did, in order. -/
abbrev Trace := List Action

/-- What a writer still takes: so many bytes, and then it fails with a cause of its own. -/
structure Room where
  left : Nat
  cause : Cause
  deriving DecidableEq, Repr

/-- The room that so many more bytes leave. -/
def Room.less (r : Room) (bytes : Nat) : Room := { r with left := r.left - bytes }

@[simp] theorem Room.left_less (r : Room) (bytes : Nat) : (r.less bytes).left = r.left - bytes := rfl

@[simp] theorem Room.less_zero (r : Room) : r.less 0 = r := rfl

@[simp] theorem Room.cause_less (r : Room) (bytes : Nat) : (r.less bytes).cause = r.cause := rfl

/-- Where a run stands. -/
structure Progress where
  session : Session
  /-- The room of the writer; absent if there is no end to it. -/
  room : Option Room := none
  /-- The replies not yet read. -/
  replies : List Reply := []
  trace : Trace := []

abbrev Step := EStateM Fault Progress

/-- What a run can ask of its surroundings: the files and the programs. -/
structure Host where
  read : Bytes → Except ReadFault Bytes
  run : Runner

/-! ### Views of a trace -/

namespace Action

def output : Action → Bytes
  | wrote bytes => bytes
  | _ => []

/-- The bytes that a user at a terminal sees: what is written, and the questions. -/
def shown : Action → Bytes
  | wrote bytes => bytes
  | asked question => Utf8.bytesOf question
  | _ => []

def question? : Action → Option String
  | asked question => some question
  | _ => none

def call? : Action → Option (String × List String)
  | called program args => some (program, args)
  | _ => none

def event? : Action → Option Event
  | recorded event => some event
  | _ => none

end Action

namespace Trace

def output (trace : Trace) : Bytes := trace.flatMap Action.output

def shown (trace : Trace) : Bytes := trace.flatMap Action.shown

def questions (trace : Trace) : List String := trace.filterMap Action.question?

def calls (trace : Trace) : List (String × List String) := trace.filterMap Action.call?

def events (trace : Trace) : List Event := trace.filterMap Action.event?

@[simp] theorem output_append (t u : Trace) : output (t ++ u) = output t ++ output u :=
  List.flatMap_append

@[simp] theorem questions_append (t u : Trace) :
    questions (t ++ u) = questions t ++ questions u :=
  List.filterMap_append

@[simp] theorem calls_append (t u : Trace) : calls (t ++ u) = calls t ++ calls u :=
  List.filterMap_append

@[simp] theorem events_append (t u : Trace) : events (t ++ u) = events t ++ events u :=
  List.filterMap_append

end Trace

/-! ### The steps a run is made of -/

namespace Step

/-- A step that only adds to the trace. -/
def act (actions : Trace) : Step Unit :=
  modify fun p => { p with trace := p.trace ++ actions }

def record (events : List Event) : Step Unit := act (events.map .recorded)

/-- Writes a text; `attempt` is what the fault says if it does not fit. -/
def write (attempt : String) (text : String) : Step Unit := do
  let bytes := Utf8.bytesOf text
  match (← get).room with
  | none => act [.wrote bytes]
  | some room =>
    modify fun p => { p with room := some (room.less bytes.length) }
    if bytes.length ≤ room.left then act [.wrote bytes]
    else do
      act [.wrote (bytes.take room.left)]
      throw (.failed attempt room.cause)

def writeLine (attempt : String) (line : String) : Step Unit := write attempt (line ++ "\n")

def ask (question : String) : Step String := do
  act [.asked question]
  let (reply, rest) := nextReply (← get).replies
  modify fun p => { p with replies := rest }
  match reply with
  | .ok reply => pure reply
  | .error cause => throw (.failed "failed to read answer" cause)

def call (run : Runner) (program : String) (args : List String) :
    Step (Except ToolFault ToolOutput) := do
  act [.called program args]
  pure (run program args)

end Step

end LoopAdvice
