import LoopAdvice.Text.Unseen

/-! # Quoted text

How log lines show a string, a list of strings and an optional number so that where each ends is
clear. Inside quotes the quote and the backslash get a backslash, NUL, tab, line feed and carriage
return have a letter, and every other character that does not show is spelled by its number. -/

namespace LoopAdvice.Quoted

/-- The hexadecimal digits of a number, without leading zeros. -/
def hex (n : Nat) : List Char := Nat.toDigits 16 n

def byNumber (c : Char) : List Char := ['\\', 'u', '\x7b'] ++ hex c.toNat ++ ['\x7d']

def escape (c : Char) : List Char :=
  if c = '\x00' then ['\\', '0']
  else if c = '\t' then ['\\', 't']
  else if c = '\n' then ['\\', 'n']
  else if c = '\r' then ['\\', 'r']
  else if c = '"' then ['\\', '"']
  else if c = '\\' then ['\\', '\\']
  else if ' ' ≤ c ∧ c ≤ '~' then [c]
  else if isUnseen c then byNumber c
  else [c]

def string (s : String) : String :=
  String.ofList (['"'] ++ s.toList.flatMap escape ++ ['"'])

/-- A list of strings in quotes, in brackets. -/
def strings (l : List String) : String := "[" ++ ", ".intercalate (l.map string) ++ "]"

def optional : Option Int → String
  | some n => "Some(" ++ toString n ++ ")"
  | none => "None"

end LoopAdvice.Quoted
