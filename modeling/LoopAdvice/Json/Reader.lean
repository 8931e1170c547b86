import LoopAdvice.Json.Value

/-! # Reading JSON

A reader for JSON values without numbers. It takes the value at the head of the characters and
returns it with the rest. Blanks are allowed wherever JSON allows them, a string may not hold a raw
character below `U+0020`, and `document?` asks that only blanks follow the value. -/

namespace LoopAdvice.Json

def isSpace (c : Char) : Bool := c = ' ' || c = '\t' || c = '\n' || c = '\r'

def hexValue? (c : Char) : Option Nat :=
  if '0' ≤ c ∧ c ≤ '9' then some (c.toNat - 48)
  else if 'a' ≤ c ∧ c ≤ 'f' then some (c.toNat - 87)
  else if 'A' ≤ c ∧ c ≤ 'F' then some (c.toNat - 55)
  else none

/-- The number four hexadecimal digits spell. -/
def hex4? (a b c d : Char) : Option Nat := do
  let a ← hexValue? a
  let b ← hexValue? b
  let c ← hexValue? c
  let d ← hexValue? d
  pure (((a * 16 + b) * 16 + c) * 16 + d)

/-- The character a letter after a backslash stands for. -/
def letter? (c : Char) : Option Char :=
  if c = '"' || c = '\\' || c = '/' then some c
  else if c = 'b' then some '\x08'
  else if c = 'f' then some '\x0c'
  else if c = 'n' then some '\n'
  else if c = 'r' then some '\r'
  else if c = 't' then some '\t'
  else none

/-- The rest of a string after its opening quote; a number of a surrogate names no character. -/
def stringBody? : List Char → Option (List Char × List Char)
  | '"' :: rest => some ([], rest)
  | '\\' :: 'u' :: a :: b :: c :: d :: rest => do
    let n ← hex4? a b c d
    if n.isValidChar then
      let (s, rest) ← stringBody? rest
      pure (Char.ofNat n :: s, rest)
    else none
  | '\\' :: c :: rest => do
    let c ← letter? c
    let (s, rest) ← stringBody? rest
    pure (c :: s, rest)
  | c :: rest =>
    if c < ' ' then none
    else do
      let (s, rest) ← stringBody? rest
      pure (c :: s, rest)
  | [] => none

def skip (s : List Char) : List Char := s.dropWhile isSpace

def expect? (c : Char) : List Char → Option (List Char)
  | d :: rest => if d = c then some rest else none
  | [] => none

mutual

/-- The value at the head of the characters, blanks before it skipped. The first argument bounds the
depth of the calls; the number of characters is always enough. -/
def value? : Nat → List Char → Option (Value × List Char)
  | 0, _ => none
  | fuel + 1, s =>
    match skip s with
    | 'n' :: 'u' :: 'l' :: 'l' :: rest => some (.null, rest)
    | 't' :: 'r' :: 'u' :: 'e' :: rest => some (.bool true, rest)
    | 'f' :: 'a' :: 'l' :: 's' :: 'e' :: rest => some (.bool false, rest)
    | '"' :: rest => (stringBody? rest).map fun (t, rest) => (.string t, rest)
    | '[' :: rest =>
      match expect? ']' (skip rest) with
      | some rest => some (.array [], rest)
      | none => (items? fuel rest).map fun (vs, rest) => (.array vs, rest)
    | '\x7b' :: rest =>
      match expect? '\x7d' (skip rest) with
      | some rest => some (.object [], rest)
      | none => (fields? fuel rest).map fun (fs, rest) => (.object fs, rest)
    | _ => none

/-- One or more items and the bracket that closes the list. -/
def items? : Nat → List Char → Option (List Value × List Char)
  | 0, _ => none
  | fuel + 1, s => do
    let (v, rest) ← value? fuel s
    match skip rest with
    | ',' :: rest => do
      let (vs, rest) ← items? fuel rest
      pure (v :: vs, rest)
    | ']' :: rest => pure ([v], rest)
    | _ => none

/-- One or more fields and the brace that closes the object. -/
def fields? : Nat → List Char → Option (List (List Char × Value) × List Char)
  | 0, _ => none
  | fuel + 1, s => do
    let rest ← expect? '"' (skip s)
    let (k, rest) ← stringBody? rest
    let rest ← expect? ':' (skip rest)
    let (v, rest) ← value? fuel rest
    match skip rest with
    | ',' :: rest => do
      let (fs, rest) ← fields? fuel rest
      pure ((k, v) :: fs, rest)
    | '\x7d' :: rest => pure ([(k, v)], rest)
    | _ => none

end

def document? (s : List Char) : Option Value := do
  let (v, rest) ← value? (s.length + 1) s
  if (skip rest).isEmpty then some v else none

end LoopAdvice.Json
