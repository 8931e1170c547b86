import LoopAdvice.Text.Quoted

/-! # JSON documents

JSON values without numbers, and their indented form: two spaces a level, `": "` after a key, one
item or field a line, and nothing between the brackets of an empty list or object. Strings escape
the quote, the backslash and the characters below `U+0020` only, so no string spans two lines. -/

namespace LoopAdvice.Json

/-- A JSON value; the fields of an object keep their order. -/
inductive Value
  | null
  | bool (b : Bool)
  | string (s : List Char)
  | array (items : List Value)
  | object (fields : List (List Char × Value))
  deriving Repr

def escape (c : Char) : List Char :=
  if c = '"' then ['\\', '"']
  else if c = '\\' then ['\\', '\\']
  else if c = '\x08' then ['\\', 'b']
  else if c = '\t' then ['\\', 't']
  else if c = '\n' then ['\\', 'n']
  else if c = '\x0c' then ['\\', 'f']
  else if c = '\r' then ['\\', 'r']
  else if c < ' ' then
    ['\\', 'u', '0', '0', Nat.digitChar (c.toNat / 16), Nat.digitChar (c.toNat % 16)]
  else [c]

def quote (s : List Char) : List Char := '"' :: s.flatMap escape ++ ['"']

/-- A line break and the indentation of a level. -/
def newline (level : Nat) : List Char := '\n' :: List.replicate (2 * level) ' '

mutual

def render (level : Nat) : Value → List Char
  | .null => ['n', 'u', 'l', 'l']
  | .bool true => ['t', 'r', 'u', 'e']
  | .bool false => ['f', 'a', 'l', 's', 'e']
  | .string s => quote s
  | .array [] => ['[', ']']
  | .array (v :: vs) =>
    '[' :: newline (level + 1) ++ render (level + 1) v ++ renderItems (level + 1) vs ++
      newline level ++ [']']
  | .object [] => ['\x7b', '\x7d']
  | .object (f :: fs) =>
    '\x7b' :: newline (level + 1) ++ renderField (level + 1) f ++ renderFields (level + 1) fs ++
      newline level ++ ['\x7d']

/-- The items of a list after its first one. -/
def renderItems (level : Nat) : List Value → List Char
  | [] => []
  | v :: vs => ',' :: newline level ++ render level v ++ renderItems level vs

def renderField (level : Nat) : List Char × Value → List Char
  | (k, v) => quote k ++ [':', ' '] ++ render level v

/-- The fields of an object after its first one. -/
def renderFields (level : Nat) : List (List Char × Value) → List Char
  | [] => []
  | f :: fs => ',' :: newline level ++ renderField level f ++ renderFields level fs

end

end LoopAdvice.Json
