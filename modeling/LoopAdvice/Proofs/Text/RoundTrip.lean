import LoopAdvice.Text.Utf8
import Mathlib.Data.List.Induction
import Mathlib.Tactic.SplitIfs

/-! # Texts and their bytes

A byte string is read as a text exactly if it is what that text is written as
(`decode?_eq_some_iff`). Both directions go through the bytes that finish a sequence and the number
that it then spells (`Unfinished.Spells`): a character above `0x7F` is written as a sequence that
spells it, and the bounds on the second byte keep a sequence from spelling anything but a character in
its shortest form (`Begun`). -/

namespace LoopAdvice.Utf8

/-! ### Sequences and what they spell -/

/-- A byte that can stand in a sequence after the first. -/
def IsTail (b : UInt8) : Prop := 0x80 ≤ b.toNat ∧ b.toNat ≤ 0xBF

namespace Unfinished

/-- A sequence with one more byte. -/
def continued (u : Unfinished) (b : UInt8) : Unfinished :=
  ⟨u.missing - 1, 0x80, 0xBF, u.value * 64 + (b.toNat - 0x80)⟩

def Admits (u : Unfinished) (b : UInt8) : Prop := u.low ≤ b ∧ b ≤ u.high

/-- The bytes that finish a sequence, and the number that it then spells. -/
inductive Spells : Unfinished → Bytes → ℕ → Prop
  | last {u : Unfinished} {b : UInt8} (one : u.missing ≤ 1) (admits : u.Admits b) :
    Spells u [b] (u.continued b).value
  | more {u : Unfinished} {b : UInt8} {rest : Bytes} {v : ℕ} (many : 1 < u.missing)
    (admits : u.Admits b) (next : Spells (u.continued b) rest v) : Spells u (b :: rest) v

variable {u : Unfinished} {tail : Bytes} {v : ℕ}

theorem continued_admits_iff {x y : UInt8} : (u.continued x).Admits y ↔ IsTail y := by
  simp only [Admits, continued, IsTail, UInt8.le_iff_toNat_le, UInt8.reduceToNat]

theorem spells_one_iff (hu : u.missing = 1) :
    u.Spells tail v ↔ ∃ x, tail = [x] ∧ u.Admits x ∧ (u.continued x).value = v := by
  constructor
  · rintro (⟨-, admits⟩ | ⟨many, -, -⟩)
    · exact ⟨_, rfl, admits, rfl⟩
    · omega
  · rintro ⟨x, rfl, admits, rfl⟩
    exact .last (Nat.le_of_eq hu) admits

theorem spells_more_iff (hu : 1 < u.missing) :
    u.Spells tail v ↔ ∃ x rest, tail = x :: rest ∧ u.Admits x ∧ (u.continued x).Spells rest v := by
  constructor
  · rintro (⟨one, -⟩ | ⟨-, admits, next⟩)
    · omega
    · exact ⟨_, _, rfl, admits, next⟩
  · rintro ⟨x, rest, rfl, admits, next⟩
    exact .more hu admits next

theorem spells_two_iff (hu : u.missing = 2) :
    u.Spells tail v ↔ ∃ x y, tail = [x, y] ∧ u.Admits x ∧ IsTail y ∧
      ((u.continued x).continued y).value = v := by
  have hnext : ∀ x, (u.continued x).missing = 1 := fun x => by simp [continued, hu]
  simp only [spells_more_iff (u := u) (by omega), spells_one_iff (hnext _),
    continued_admits_iff]
  constructor
  · rintro ⟨x, _, rfl, hx, y, rfl, hy, rfl⟩
    exact ⟨x, y, rfl, hx, hy, rfl⟩
  · rintro ⟨x, y, rfl, hx, hy, rfl⟩
    exact ⟨x, _, rfl, hx, y, rfl, hy, rfl⟩

theorem spells_three_iff (hu : u.missing = 3) :
    u.Spells tail v ↔ ∃ x y z, tail = [x, y, z] ∧ u.Admits x ∧ IsTail y ∧ IsTail z ∧
      (((u.continued x).continued y).continued z).value = v := by
  have hnext : ∀ x, (u.continued x).missing = 2 := fun x => by simp [continued, hu]
  simp only [spells_more_iff (u := u) (by omega), spells_two_iff (hnext _),
    continued_admits_iff]
  constructor
  · rintro ⟨x, _, rfl, hx, y, z, rfl, hy, hz, rfl⟩
    exact ⟨x, y, z, rfl, hx, hy, hz, rfl⟩
  · rintro ⟨x, y, z, rfl, hx, hy, hz, rfl⟩
    exact ⟨x, _, rfl, hx, y, z, rfl, hy, hz, rfl⟩

end Unfinished

open Unfinished

/-- What the first byte of a sequence makes of it. The second byte rules out the overlong forms, the
surrogates, and the numbers that no character has. -/
inductive Begun (b : UInt8) (u : Unfinished) : Prop
  | two (missing : u.missing = 1) (lead : 0xC2 ≤ b.toNat ∧ b.toNat ≤ 0xDF)
    (value : u.value = b.toNat - 0xC0) (admits : ∀ x, u.Admits x ↔ IsTail x)
  | three (missing : u.missing = 2) (lead : 0xE0 ≤ b.toNat ∧ b.toNat ≤ 0xEF)
    (value : u.value = b.toNat - 0xE0)
    (admits : ∀ x, u.Admits x ↔ IsTail x ∧ 0x20 ≤ (u.continued x).value ∧
      ((u.continued x).value < 0x360 ∨ 0x380 ≤ (u.continued x).value))
  | four (missing : u.missing = 3) (lead : 0xF0 ≤ b.toNat ∧ b.toNat ≤ 0xF4)
    (value : u.value = b.toNat - 0xF0)
    (admits : ∀ x, u.Admits x ↔ IsTail x ∧ 0x10 ≤ (u.continued x).value ∧
      (u.continued x).value < 0x110)

theorem begun_of_begin? {b : UInt8} {u : Unfinished} (h : begin? b = some u) : Begun b u := by
  simp only [begin?, UInt8.le_iff_toNat_le, ← UInt8.toNat_inj, UInt8.reduceToNat] at h
  split_ifs at h with h1 h2 h3 h4 h5 h6 h7 <;> cases h
  · refine .two rfl h1 rfl fun x => ?_
    simp only [Admits, IsTail, UInt8.le_iff_toNat_le, UInt8.reduceToNat]
  -- the longer sequences differ in the bounds on their second byte only
  all_goals first
    | refine .three rfl (by omega) ?_ fun x => ?_ <;>
        simp only [Admits, IsTail, continued, UInt8.le_iff_toNat_le, UInt8.reduceToNat] <;> omega
    | refine .four rfl (by omega) ?_ fun x => ?_ <;>
        simp only [Admits, IsTail, continued, UInt8.le_iff_toNat_le, UInt8.reduceToNat] <;> omega

theorem exists_begin? {b : UInt8} (h : 0xC2 ≤ b.toNat ∧ b.toNat ≤ 0xF4) :
    ∃ u, begin? b = some u := by
  simp only [begin?, UInt8.le_iff_toNat_le, ← UInt8.toNat_inj, UInt8.reduceToNat]
  split_ifs
  all_goals first | exact ⟨_, rfl⟩ | omega

theorem ofNat_eq_iff {n : ℕ} {b : UInt8} : UInt8.ofNat n = b ↔ n % 256 = b.toNat := by
  rw [← UInt8.toNat_inj, UInt8.toNat_ofNat']

namespace Begun

variable {b : UInt8} {u : Unfinished} {tail : Bytes} {v : ℕ}

/-- What a sequence spells is the number of a character, and none below `0x80`. -/
theorem isValidChar (h : Begun b u) (hs : u.Spells tail v) : v.isValidChar ∧ 0x80 ≤ v := by
  unfold Nat.isValidChar
  cases h with
  | two missing lead value admits =>
    obtain ⟨x, rfl, hx, rfl⟩ := (spells_one_iff missing).mp hs
    simp only [admits, IsTail, continued, value] at hx ⊢
    omega
  | three missing lead value admits =>
    obtain ⟨x, y, rfl, hx, hy, rfl⟩ := (spells_two_iff missing).mp hs
    simp only [admits, IsTail, continued, value] at hx hy ⊢
    omega
  | four missing lead value admits =>
    obtain ⟨x, y, z, rfl, hx, hy, hz, rfl⟩ := (spells_three_iff missing).mp hs
    simp only [admits, IsTail, continued, value] at hx hy hz ⊢
    omega

/-- The character that a sequence spells is written as that sequence. -/
theorem encode_eq (h : Begun b u) {c : Char} (hs : u.Spells tail c.val.toNat) :
    String.utf8EncodeChar c = b :: tail := by
  unfold String.utf8EncodeChar
  cases h with
  | two missing lead value admits =>
    obtain ⟨x, rfl, hx, hc⟩ := (spells_one_iff missing).mp hs
    simp only [admits, IsTail, continued, value] at hx hc
    simp only [← hc]
    rw [if_neg (by omega), if_pos (by omega)]
    simp only [List.cons.injEq, ofNat_eq_iff, and_true]
    omega
  | three missing lead value admits =>
    obtain ⟨x, y, rfl, hx, hy, hc⟩ := (spells_two_iff missing).mp hs
    simp only [admits, IsTail, continued, value] at hx hy hc
    simp only [← hc]
    rw [if_neg (by omega), if_neg (by omega), if_pos (by omega)]
    simp only [List.cons.injEq, ofNat_eq_iff, and_true]
    omega
  | four missing lead value admits =>
    obtain ⟨x, y, z, rfl, hx, hy, hz, hc⟩ := (spells_three_iff missing).mp hs
    simp only [admits, IsTail, continued, value] at hx hy hz hc
    simp only [← hc]
    rw [if_neg (by omega), if_neg (by omega), if_neg (by omega)]
    simp only [List.cons.injEq, ofNat_eq_iff, and_true]
    omega

end Begun

theorem toNat_val_ofNat {v : ℕ} (h : v.isValidChar) : (Char.ofNat v).val.toNat = v := by
  unfold Char.ofNat
  rw [dif_pos h]
  rfl

section Lengths
variable {b x y z : UInt8}

theorem exists_spells_two (hb : 0xC2 ≤ b.toNat ∧ b.toNat ≤ 0xDF) (hx : IsTail x) :
    ∃ u, begin? b = some u ∧ u.Spells [x] ((b.toNat - 0xC0) * 64 + (x.toNat - 0x80)) := by
  obtain ⟨u, hu⟩ := exists_begin? (b := b) (by omega)
  refine ⟨u, hu, ?_⟩
  rcases begun_of_begin? hu with ⟨missing, -, value, admits⟩ | ⟨-, lead⟩ | ⟨-, lead⟩
  · exact (spells_one_iff missing).mpr ⟨x, rfl, (admits x).mpr hx, by rw [← value, continued]⟩
  · omega
  · omega

theorem exists_spells_three {w : ℕ} (hb : 0xE0 ≤ b.toNat ∧ b.toNat ≤ 0xEF) (hx : IsTail x)
    (hy : IsTail y) (hw : (b.toNat - 0xE0) * 64 + (x.toNat - 0x80) = w)
    (hbounds : 0x20 ≤ w ∧ (w < 0x360 ∨ 0x380 ≤ w)) :
    ∃ u, begin? b = some u ∧ u.Spells [x, y] (w * 64 + (y.toNat - 0x80)) := by
  obtain ⟨u, hu⟩ := exists_begin? (b := b) (by omega)
  refine ⟨u, hu, ?_⟩
  rcases begun_of_begin? hu with ⟨-, lead⟩ | ⟨missing, -, value, admits⟩ | ⟨-, lead⟩
  · omega
  · have hcontinued : (u.continued x).value = w := by rw [← hw, ← value, continued]
    exact (spells_two_iff missing).mpr ⟨x, y, rfl, (admits x).mpr ⟨hx, hcontinued ▸ hbounds⟩, hy,
      by rw [← hcontinued, continued]⟩
  · omega

theorem exists_spells_four {w : ℕ} (hb : 0xF0 ≤ b.toNat ∧ b.toNat ≤ 0xF4) (hx : IsTail x)
    (hy : IsTail y) (hz : IsTail z) (hw : (b.toNat - 0xF0) * 64 + (x.toNat - 0x80) = w)
    (hbounds : 0x10 ≤ w ∧ w < 0x110) :
    ∃ u, begin? b = some u ∧
      u.Spells [x, y, z] ((w * 64 + (y.toNat - 0x80)) * 64 + (z.toNat - 0x80)) := by
  obtain ⟨u, hu⟩ := exists_begin? (b := b) (by omega)
  refine ⟨u, hu, ?_⟩
  rcases begun_of_begin? hu with ⟨-, lead⟩ | ⟨-, lead⟩ | ⟨missing, -, value, admits⟩
  · omega
  · omega
  · have hcontinued : (u.continued x).value = w := by rw [← hw, ← value, continued]
    exact (spells_three_iff missing).mpr ⟨x, y, z, rfl, (admits x).mpr ⟨hx, hcontinued ▸ hbounds⟩,
      hy, hz, by rw [← hcontinued, continued, continued]⟩

end Lengths

/-- A character above `0x7F` is written as a sequence that spells it. -/
theorem exists_begin?_spells {c : Char} (hc : 0x80 ≤ c.val.toNat) :
    ∃ b u tail, begin? b = some u ∧ u.Spells tail c.val.toNat := by
  have hvalid : c.val.toNat < 0xD800 ∨ 0xDFFF < c.val.toNat ∧ c.val.toNat < 0x110000 := c.valid
  generalize c.val.toNat = v at hc hvalid
  have hbyte : ∀ n, n < 256 → (UInt8.ofNat n).toNat = n := fun n hn => by
    rw [UInt8.toNat_ofNat', Nat.mod_eq_of_lt hn]
  have htail : ∀ n, (UInt8.ofNat (n % 64 + 0x80)).toNat = n % 64 + 0x80 := fun n =>
    hbyte _ (by omega)
  have htails : ∀ n, IsTail (.ofNat (n % 64 + 0x80)) := fun n => by
    unfold IsTail
    rw [htail]
    omega
  by_cases htwo : v ≤ 0x7FF
  · have hlead := hbyte (v / 64 + 0xC0) (by omega)
    obtain ⟨u, hu, hs⟩ := exists_spells_two (b := .ofNat (v / 64 + 0xC0)) (by omega) (htails v)
    rw [hlead, htail, show (v / 64 + 0xC0 - 0xC0) * 64 + (v % 64 + 0x80 - 0x80) = v by omega] at hs
    exact ⟨_, u, _, hu, hs⟩
  by_cases hthree : v ≤ 0xFFFF
  · have hlead := hbyte (v / 4096 + 0xE0) (by omega)
    obtain ⟨u, hu, hs⟩ := exists_spells_three (b := .ofNat (v / 4096 + 0xE0)) (by omega)
      (htails (v / 64)) (htails v) (w := v / 64) (by rw [hlead, htail]; omega) (by omega)
    rw [htail, show v / 64 * 64 + (v % 64 + 0x80 - 0x80) = v by omega] at hs
    exact ⟨_, u, _, hu, hs⟩
  · have hlead := hbyte (v / 262144 + 0xF0) (by omega)
    obtain ⟨u, hu, hs⟩ := exists_spells_four (b := .ofNat (v / 262144 + 0xF0)) (by omega)
      (htails (v / 4096)) (htails (v / 64)) (htails v) (w := v / 4096)
      (by rw [hlead, htail]; omega) (by omega)
    rw [htail, htail, show (v / 4096 * 64 + (v / 64 % 64 + 0x80 - 0x80)) * 64 +
      (v % 64 + 0x80 - 0x80) = v by omega] at hs
    exact ⟨_, u, _, hu, hs⟩

/-! ### Reading what was written -/

namespace Reader

variable {ps : List Piece} {u : Unfinished} {b : UInt8}

theorem step_of_admits (h : u.Admits b) : step ⟨ps, some u⟩ b =
    if u.missing ≤ 1 then ⟨.char (Char.ofNat (u.continued b).value) :: ps, none⟩
    else ⟨ps, some (u.continued b)⟩ :=
  if_pos h

theorem step_of_not_admits (h : ¬ u.Admits b) :
    step ⟨ps, some u⟩ b = start ⟨.broken :: ps, none⟩ b :=
  if_neg h

theorem start_of_lt (h : b < 0x80) (r : Reader) :
    r.start b = ⟨.char (Char.ofNat b.toNat) :: r.pieces, none⟩ :=
  if_pos h

theorem start_of_begin? (h : begin? b = some u) (r : Reader) : r.start b = ⟨r.pieces, some u⟩ := by
  have hb : ¬ b < 0x80 := by
    simp only [UInt8.lt_iff_toNat_lt, UInt8.reduceToNat]
    rcases begun_of_begin? h with ⟨-, lead⟩ | ⟨-, lead⟩ | ⟨-, lead⟩ <;> omega
  simp only [start, if_neg hb, h]

theorem foldl_step_of_spells {tail : Bytes} {v : ℕ} (h : u.Spells tail v) (ps : List Piece) :
    tail.foldl step ⟨ps, some u⟩ = ⟨.char (Char.ofNat v) :: ps, none⟩ := by
  induction h with
  | last one admits => rw [List.foldl_cons, step_of_admits admits, if_pos one, List.foldl_nil]
  | more many admits next ih =>
    rw [List.foldl_cons, step_of_admits admits, if_neg (Nat.not_le.mpr many), ih]

/-- A character is read back from what it is written as. -/
theorem foldl_step_encodeChar (c : Char) (ps : List Piece) :
    (String.utf8EncodeChar c).foldl step ⟨ps, none⟩ = ⟨.char c :: ps, none⟩ := by
  have hc : Char.ofNat c.val.toNat = c := Char.ofNat_toNat c
  by_cases hascii : c.val.toNat ≤ 0x7F
  · have hbyte : (UInt8.ofNat c.val.toNat).toNat = c.val.toNat := by
      rw [UInt8.toNat_ofNat', Nat.mod_eq_of_lt (by omega)]
    have hlt : UInt8.ofNat c.val.toNat < 0x80 := by
      simp only [UInt8.lt_iff_toNat_lt, hbyte, UInt8.reduceToNat]
      omega
    rw [String.utf8EncodeChar, if_pos hascii, List.foldl_cons, List.foldl_nil]
    exact (start_of_lt hlt _).trans (by rw [hbyte, hc])
  · obtain ⟨b, u, tail, hb, hs⟩ := exists_begin?_spells (c := c) (by omega)
    rw [(begun_of_begin? hb).encode_eq hs, List.foldl_cons,
      show step ⟨ps, none⟩ b = ⟨ps, some u⟩ from start_of_begin? hb _, foldl_step_of_spells hs, hc]

theorem foldl_step_encode (s : List Char) (ps : List Piece) :
    (encode s).foldl step ⟨ps, none⟩ = ⟨(s.map .char).reverse ++ ps, none⟩ := by
  induction s generalizing ps with
  | nil => rfl
  | cons c s ih => rw [encode_cons, List.foldl_append, foldl_step_encodeChar, ih]; simp

end Reader

theorem pieces_encode (s : List Char) : pieces (encode s) = s.map .char := by
  rw [pieces, Reader.foldl_step_encode]
  simp [Reader.finish]

theorem isValid_encode (s : List Char) : isValid (encode s) = true := by
  rw [isValid, pieces_encode]
  simp

/-- A text is read back from what it is written as. -/
theorem decode?_encode (s : List Char) : decode? (encode s) = some s := by
  rw [decode?, if_pos (isValid_encode s), decodeLossy, pieces_encode]
  simp [Function.comp_def, Piece.shown]

/-! ### Only what is written can be read -/

/-- The reader has read `b`: its pieces are written as the beginning of `b`, and with the rest of `b`
begins whatever the sequence it is inside can still spell. -/
inductive Reader.Read (b : Bytes) : Reader → Prop
  | between {ps : List Piece} (written : encode (ps.reverse.map Piece.shown) = b) : Read b ⟨ps, none⟩
  | inside {ps : List Piece} {u : Unfinished} (begun : Bytes)
    (written : encode (ps.reverse.map Piece.shown) ++ begun = b)
    (spelled : ∀ tail v, u.Spells tail v → String.utf8EncodeChar (Char.ofNat v) = begun ++ tail) :
    Read b ⟨ps, some u⟩

namespace Reader

/-- What is broken stays broken. -/
theorem broken_mem_step {r : Reader} (h : .broken ∈ r.pieces) (b : UInt8) :
    .broken ∈ (r.step b).pieces := by
  have hstart : ∀ r : Reader, .broken ∈ r.pieces → .broken ∈ (r.start b).pieces := by
    intro r h
    unfold start
    split_ifs
    · exact List.mem_cons_of_mem _ h
    · cases begin? b with
      | none => exact List.mem_cons_self
      | some u => exact h
  unfold step
  cases r.inside with
  | none => exact hstart r h
  | some u =>
    dsimp only
    split_ifs
    · exact List.mem_cons_of_mem _ h
    · exact h
    · exact hstart _ List.mem_cons_self

theorem encode_char (ps : List Piece) (c : Char) :
    encode ((Piece.char c :: ps).reverse.map Piece.shown) =
      encode (ps.reverse.map Piece.shown) ++ String.utf8EncodeChar c := by
  simp [Piece.shown, encode]

/-- A byte at the start of a sequence is a character, begins one, or is broken. -/
theorem Read.start {b : Bytes} {ps : List Piece} (h : encode (ps.reverse.map Piece.shown) = b)
    {x : UInt8} (hx : .broken ∉ (Reader.start ⟨ps, none⟩ x).pieces) :
    Read (b ++ [x]) (Reader.start ⟨ps, none⟩ x) := by
  by_cases hascii : x < 0x80
  · rw [start_of_lt hascii]
    refine .between ?_
    have hlt : x.toNat < 0x80 := by
      simpa only [UInt8.lt_iff_toNat_lt, UInt8.reduceToNat] using hascii
    have hvalid : x.toNat.isValidChar := .inl (by omega)
    have hval : (Char.ofNat x.toNat).val.toNat = x.toNat := toNat_val_ofNat hvalid
    rw [encode_char, h, String.utf8EncodeChar, hval, if_pos (by omega), UInt8.ofNat_toNat]
  · cases hb : begin? x with
    | none =>
      have hbroken : Reader.start ⟨ps, none⟩ x = ⟨.broken :: ps, none⟩ := by
        simp only [Reader.start, if_neg hascii, hb]
      rw [hbroken] at hx
      exact absurd List.mem_cons_self hx
    | some u =>
      rw [start_of_begin? hb]
      refine .inside [x] (by rw [h]) fun tail v hs => ?_
      obtain ⟨hvalid, -⟩ := (begun_of_begin? hb).isValidChar hs
      exact (begun_of_begin? hb).encode_eq (by rwa [toNat_val_ofNat hvalid])

/-- One more byte: the sequence goes on, ends in its character, or is broken. -/
theorem Read.step {b : Bytes} {r : Reader} (h : Read b r) {x : UInt8}
    (hx : .broken ∉ (r.step x).pieces) : Read (b ++ [x]) (r.step x) := by
  cases h with
  | between written => exact .start written hx
  | @inside ps u begun written spelled =>
    by_cases hadmits : u.Admits x
    · rw [step_of_admits hadmits]
      split_ifs with one
      · refine .between ?_
        rw [encode_char, spelled [x] _ (.last one hadmits), ← written, List.append_assoc]
      · refine .inside (begun ++ [x]) (by rw [← written, List.append_assoc]) ?_
        intro tail v hs
        rw [List.append_assoc]
        exact spelled (x :: tail) v (.more (Nat.not_le.mp one) hadmits hs)
    · rw [step_of_not_admits hadmits] at hx
      exact absurd (broken_mem_step (r := ⟨.broken :: ps, none⟩) List.mem_cons_self x) hx

theorem read_foldl_step (b : Bytes) (h : .broken ∉ (b.foldl step {}).pieces) :
    Read b (b.foldl step {}) := by
  induction b using List.reverseRecOn with
  | nil => exact .between rfl
  | append_singleton b x ih =>
    rw [foldl_step_append, List.foldl_cons, List.foldl_nil] at h ⊢
    exact (ih fun hb => h (broken_mem_step hb x)).step h

end Reader

/-- **A byte string is read as a text exactly if that is what the text is written as.** -/
theorem decode?_eq_some_iff {b : Bytes} {s : List Char} : decode? b = some s ↔ encode s = b := by
  constructor
  · intro h
    unfold decode? at h
    split_ifs at h with hvalid
    obtain rfl := Option.some.inj h
    have hintact : .broken ∉ pieces b := by
      intro hmem
      simpa using List.all_eq_true.mp hvalid _ hmem
    unfold decodeLossy
    unfold pieces at hintact ⊢
    rcases hr : b.foldl Reader.step {} with ⟨ps, inside⟩
    rw [hr] at hintact
    cases inside with
    | some u => exact absurd (by simp [Reader.finish]) hintact
    | none =>
      have hread := Reader.read_foldl_step b (by simpa [hr, Reader.finish] using hintact)
      rw [hr] at hread
      obtain ⟨written⟩ := hread
      exact written
  · rintro rfl
    exact decode?_encode s

/-- What is shown of bytes is written as they are exactly if nothing in them is broken. -/
theorem encode_decodeLossy_eq_iff {b : Bytes} :
    encode (decodeLossy b) = b ↔ isValid b = true := by
  constructor
  · intro h
    rw [← h]
    exact isValid_encode _
  · intro h
    have hread : decode? b = some (decodeLossy b) := if_pos h
    exact decode?_eq_some_iff.mp hread

/-- A byte string is read as a string exactly if that is what the string is written as. -/
theorem string?_eq_some_iff {b : Bytes} {s : String} : string? b = some s ↔ bytesOf s = b := by
  unfold string? bytesOf
  rw [← decode?_eq_some_iff, Option.map_eq_some_iff]
  constructor
  · rintro ⟨l, hl, rfl⟩
    rw [hl, String.toList_ofList]
  · intro h
    exact ⟨_, h, String.ofList_toList⟩

end LoopAdvice.Utf8
