/-! # UTF-8 text

A text is written as bytes by `encode` and read back by a machine that looks at one byte at a
time (`step`). The machine turns every byte string into a list of pieces: characters, and broken
sequences, where a broken sequence is the longest run of bytes that could still have begun a
character. `decodeLossy` shows each broken sequence as one replacement character, `decode?` refuses
a byte string that has one. The machine is a fold, so reading `b ++ c` is reading `c` from where
`b` left off (`foldl_step_append`). -/

namespace LoopAdvice

/-- A byte string: file contents, paths and streams are kept this way. -/
abbrev Bytes := List UInt8

namespace Utf8

/-! ### Writing -/

def encode (s : List Char) : Bytes := s.flatMap String.utf8EncodeChar

def bytesOf (s : String) : Bytes := encode s.toList

@[simp] theorem encode_cons (c : Char) (s : List Char) :
    encode (c :: s) = String.utf8EncodeChar c ++ encode s := rfl

@[simp] theorem encode_append (s t : List Char) : encode (s ++ t) = encode s ++ encode t := by
  simp [encode]

@[simp] theorem bytesOf_append (s t : String) : bytesOf (s ++ t) = bytesOf s ++ bytesOf t := by
  simp [bytesOf]

/-! ### Reading -/

/-- A unit of what is read: a character or a broken sequence. -/
inductive Piece
  | char (c : Char)
  | broken
  deriving DecidableEq, Repr

/-- An unfinished sequence: how many bytes it still needs, the bounds on the next one, and the
number its bytes have spelled so far. -/
structure Unfinished where
  missing : Nat
  low : UInt8
  high : UInt8
  value : Nat
  deriving DecidableEq, Repr

/-- What a byte above `0x7F` begins. Overlong forms, surrogates and numbers above `0x10FFFF` are
ruled out by the bounds on the second byte, so a sequence breaks as early as it can be known to. -/
def begin? (b : UInt8) : Option Unfinished :=
  if 0xC2 ≤ b ∧ b ≤ 0xDF then some ⟨1, 0x80, 0xBF, b.toNat - 0xC0⟩
  else if b = 0xE0 then some ⟨2, 0xA0, 0xBF, 0⟩
  else if b = 0xED then some ⟨2, 0x80, 0x9F, 0xD⟩
  else if 0xE1 ≤ b ∧ b ≤ 0xEF then some ⟨2, 0x80, 0xBF, b.toNat - 0xE0⟩
  else if b = 0xF0 then some ⟨3, 0x90, 0xBF, 0⟩
  else if b = 0xF4 then some ⟨3, 0x80, 0x8F, 4⟩
  else if 0xF1 ≤ b ∧ b ≤ 0xF3 then some ⟨3, 0x80, 0xBF, b.toNat - 0xF0⟩
  else none

/-- The reader between two bytes: the pieces read, last first, and the sequence it is inside. -/
structure Reader where
  pieces : List Piece := []
  inside : Option Unfinished := none
  deriving DecidableEq, Repr

/-- A byte at the start of a sequence. -/
def Reader.start (r : Reader) (b : UInt8) : Reader :=
  if b < 0x80 then ⟨.char (Char.ofNat b.toNat) :: r.pieces, none⟩
  else match begin? b with
    | some u => ⟨r.pieces, some u⟩
    | none => ⟨.broken :: r.pieces, none⟩

/-- One byte. A byte that cannot continue the sequence breaks it and is read afresh. -/
def Reader.step (r : Reader) (b : UInt8) : Reader :=
  match r.inside with
  | none => r.start b
  | some u =>
    if u.low ≤ b ∧ b ≤ u.high then
      let value := u.value * 64 + (b.toNat - 0x80)
      if u.missing ≤ 1 then ⟨.char (Char.ofNat value) :: r.pieces, none⟩
      else ⟨r.pieces, some ⟨u.missing - 1, 0x80, 0xBF, value⟩⟩
    else Reader.start ⟨.broken :: r.pieces, none⟩ b

/-- The end of the bytes breaks an unfinished sequence. -/
def Reader.finish (r : Reader) : List Piece :=
  match r.inside with
  | none => r.pieces.reverse
  | some _ => (.broken :: r.pieces).reverse

def pieces (b : Bytes) : List Piece := (b.foldl Reader.step {}).finish

theorem foldl_step_append (b c : Bytes) (r : Reader) :
    (b ++ c).foldl Reader.step r = c.foldl Reader.step (b.foldl Reader.step r) :=
  List.foldl_append

def replacement : Char := '\uFFFD'

def Piece.shown : Piece → Char
  | .char c => c
  | .broken => replacement

/-- Reading that always succeeds: each broken sequence becomes one replacement character. -/
def decodeLossy (b : Bytes) : List Char := (pieces b).map Piece.shown

/-- Whether a byte string is the UTF-8 form of a text. -/
def isValid (b : Bytes) : Bool := (pieces b).all (· != .broken)

/-- Reading that refuses broken sequences. -/
def decode? (b : Bytes) : Option (List Char) := if isValid b then some (decodeLossy b) else none

def display (b : Bytes) : String := String.ofList (decodeLossy b)

def string? (b : Bytes) : Option String := (decode? b).map String.ofList

/-- The characters before the first broken sequence, and the bytes from there on. -/
def readablePart (b : Bytes) : List Char × Bytes :=
  let readable := ((pieces b).takeWhile (· != .broken)).map Piece.shown
  (readable, b.drop (encode readable).length)

end Utf8

end LoopAdvice
