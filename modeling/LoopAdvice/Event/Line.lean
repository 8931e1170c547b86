import LoopAdvice.Event.Basic

/-! # Log lines

An event in the log: its level in five columns, its message and its fields. Characters of a message
that a terminal would obey are spelled out. A line break inside the text goes on in the next line. -/

namespace LoopAdvice

def spelled (c : Char) : List Char :=
  if c = '\x1b' || c = '\x07' || c = '\x08' || c = '\x0c' || c = '\x7f' then
    ['\\', 'x', Nat.digitChar (c.toNat / 16), Nat.digitChar (c.toNat % 16)]
  else if '\x7f' < c && c < '\u00A0' then Quoted.byNumber c
  else [c]

namespace Event

/-- The level of an event, right-aligned. -/
def levelColumn (l : Level) : String :=
  String.ofList (List.replicate (5 - l.name.length) ' ') ++ l.name

def fieldText : String × FieldValue → String
  | (name, value) => name ++ "=" ++ value.inLine

/-- The message and the fields of an event, those that there are, with single blanks between. -/
def body (e : Event) : String :=
  " ".intercalate ([String.ofList (e.message.toList.flatMap spelled)] ++ e.fields.map fieldText)

def text (e : Event) : String := " " ++ levelColumn e.level ++ " " ++ e.body

def lines (e : Event) : List String := e.text.splitOn "\n"

end Event

end LoopAdvice
