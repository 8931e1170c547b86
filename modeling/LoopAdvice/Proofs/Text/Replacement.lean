import LoopAdvice.Proofs.Text.RoundTrip
import Mathlib.Data.Nat.Find

/-! # Broken sequences

A broken sequence stands where no character is written. It is the longest run of bytes there with
which the form of some character begins, or a single byte if no form begins with that (`BrokenOff`).
Every byte string falls into characters and broken sequences (`CutInto`), in one way only, and that is
how the reader cuts it (`cutInto_iff`): inside a sequence the reader goes on with a byte only if the
bytes up to it begin a character (`exists_inside`).

Bytes below `0x80` are no part of a longer sequence. Each of them is read as the character of its
number, and no other byte gives such a character (`CutInto.ascii`). What stands before and after it is
read apart (`decodeLossy_append_ascii`). -/

namespace LoopAdvice.Utf8

/-! ### Cutting bytes into pieces -/

/-- Bytes with which the form of some character begins. -/
def Begins (b : Bytes) : Prop := ∃ c : Char, b <+: String.utf8EncodeChar c

/-- The bytes `u`, with `rest` after them, are a broken sequence: no character is written here, and `u`
is the longest run of bytes that begins one, or a single byte. -/
structure BrokenOff (u rest : Bytes) : Prop where
  ne_nil : u ≠ []
  no_char : ∀ c : Char, ¬ String.utf8EncodeChar c <+: u ++ rest
  begins : 1 < u.length → Begins u
  longest : ∀ v, v <+: u ++ rest → Begins v → v.length ≤ u.length

/-- A byte string that is cut into characters and broken sequences. -/
inductive CutInto : Bytes → List Piece → Prop
  | nil : CutInto [] []
  | char (c : Char) {rest : Bytes} {ps : List Piece} (next : CutInto rest ps) :
    CutInto (String.utf8EncodeChar c ++ rest) (.char c :: ps)
  | broken {u rest : Bytes} {ps : List Piece} (off : BrokenOff u rest) (next : CutInto rest ps) :
    CutInto (u ++ rest) (.broken :: ps)

/-- There is always a longest run of bytes that begins a character. -/
theorem exists_brokenOff {b : Bytes} (hb : b ≠ [])
    (hno : ∀ c : Char, ¬ String.utf8EncodeChar c <+: b) :
    ∃ u rest, b = u ++ rest ∧ BrokenOff u rest := by
  classical
  set P : ℕ → Prop := fun n => n = 1 ∨ Begins (b.take n)
  set n := Nat.findGreatest P b.length
  have hpos : 1 ≤ b.length := List.length_pos_iff.mpr hb
  have hone : 1 ≤ n := Nat.le_findGreatest hpos (Or.inl rfl)
  have hle : n ≤ b.length := Nat.findGreatest_le _
  have hspec : P n := Nat.findGreatest_spec hpos (Or.inl rfl)
  have hlength : (b.take n).length = n := List.length_take_of_le hle
  have hcut : b.take n ++ b.drop n = b := List.take_append_drop n b
  refine ⟨b.take n, b.drop n, hcut.symm, ?_, ?_, ?_, ?_⟩
  · rw [← List.length_pos_iff, hlength]
    exact hone
  · rw [hcut]
    exact hno
  · intro hmany
    rw [hlength] at hmany
    exact hspec.resolve_left (by omega)
  · intro v hv hbegins
    rw [hcut] at hv
    rw [hlength]
    refine Nat.le_findGreatest hv.length_le (Or.inr ?_)
    rwa [← List.prefix_iff_eq_take.mp hv]

theorem exists_cutInto (b : Bytes) : ∃ ps, CutInto b ps := by
  by_cases hb : b = []
  · exact ⟨[], hb ▸ .nil⟩
  by_cases hchar : ∃ c : Char, String.utf8EncodeChar c <+: b
  · obtain ⟨c, rest, hcut⟩ := hchar
    have hpos := List.length_pos_iff.mpr (String.utf8EncodeChar_ne_nil (c := c))
    have hless : rest.length < b.length := by
      rw [← hcut, List.length_append]
      omega
    obtain ⟨ps, hps⟩ := exists_cutInto rest
    rw [← hcut]
    exact ⟨_, .char c hps⟩
  · obtain ⟨u, rest, hcut, off⟩ := exists_brokenOff hb (not_exists.mp hchar)
    have hpos := List.length_pos_iff.mpr off.ne_nil
    have hless : rest.length < b.length := by
      rw [hcut, List.length_append]
      omega
    obtain ⟨ps, hps⟩ := exists_cutInto rest
    rw [hcut]
    exact ⟨_, .broken off hps⟩
termination_by b.length

/-! ### Bytes below `0x80` -/

theorem encodeChar_of_lt {c : Char} (hc : c.toNat < 0x80) :
    String.utf8EncodeChar c = [UInt8.ofNat c.toNat] :=
  if_pos (Nat.le_of_lt_succ hc)

theorem le_of_mem_encodeChar {c : Char} (hc : 0x80 ≤ c.toNat) {x : UInt8}
    (hx : x ∈ String.utf8EncodeChar c) : 0x80 ≤ x.toNat := by
  have hmax : c.toNat < 0xD800 ∨ 0xDFFF < c.toNat ∧ c.toNat < 0x110000 := c.valid
  have hval : c.val.toNat = c.toNat := rfl
  have hbyte : ∀ n, (UInt8.ofNat n).toNat = n % 256 := fun n => UInt8.toNat_ofNat'
  unfold String.utf8EncodeChar at hx
  simp only [hval] at hx
  split_ifs at hx
  · omega
  all_goals
    simp only [List.mem_cons, List.not_mem_nil, or_false] at hx
    rcases hx with rfl | rfl | rfl | rfl <;> rw [hbyte] <;> omega

/-- A byte below `0x80` is a character of its own. -/
theorem encodeChar_ofNat {x : UInt8} (hx : x < 0x80) :
    String.utf8EncodeChar (Char.ofNat x.toNat) = [x] := by
  have hlt : x.toNat < 0x80 := UInt8.lt_iff_toNat_lt.mp hx
  have hnumber : (Char.ofNat x.toNat).toNat = x.toNat := toNat_val_ofNat (.inl (by omega))
  rw [encodeChar_of_lt (by rwa [hnumber]), hnumber, UInt8.ofNat_toNat]

theorem encodeChar_eq_of_mem {c : Char} {x : UInt8} (hx : x < 0x80)
    (hmem : x ∈ String.utf8EncodeChar c) : String.utf8EncodeChar c = [x] := by
  have hlt : x.toNat < 0x80 := UInt8.lt_iff_toNat_lt.mp hx
  have hc : c.toNat < 0x80 := by
    by_contra hc
    have hle := le_of_mem_encodeChar (Nat.le_of_not_lt hc) hmem
    omega
  rw [encodeChar_of_lt hc] at hmem ⊢
  rw [List.mem_singleton.mp hmem]

/-- No broken sequence takes in a byte below `0x80`. -/
theorem BrokenOff.not_lt {u rest : Bytes} (off : BrokenOff u rest) {x : UInt8} (hx : x ∈ u) :
    ¬ x < 0x80 := by
  intro hlt
  rcases Nat.lt_or_ge 1 u.length with hmany | hone
  · obtain ⟨c, hc⟩ := off.begins hmany
    have hle := hc.length_le
    rw [encodeChar_eq_of_mem hlt (hc.subset hx), List.length_singleton] at hle
    omega
  · have hlength : u.length = 1 :=
      Nat.le_antisymm hone (List.length_pos_iff.mpr off.ne_nil)
    obtain ⟨y, rfl⟩ := List.length_eq_one_iff.mp hlength
    obtain rfl := List.mem_singleton.mp hx
    refine off.no_char (Char.ofNat x.toNat) ?_
    rw [encodeChar_ofNat hlt]
    exact List.prefix_append [x] rest

theorem ascii_encodeChar (c : Char) :
    ((String.utf8EncodeChar c).filter fun x => x < 0x80).map UInt8.toNat =
      ([c].filter fun c => c.toNat < 0x80).map Char.toNat := by
  by_cases hc : c.toNat < 0x80
  · have hbyte : (UInt8.ofNat c.toNat).toNat = c.toNat := by
      rw [UInt8.toNat_ofNat', Nat.mod_eq_of_lt (by omega)]
    have hlt : UInt8.ofNat c.toNat < 0x80 := by
      rwa [UInt8.lt_iff_toNat_lt, hbyte]
    rw [encodeChar_of_lt hc]
    simp [hc, hlt, hbyte]
  · have hnone : (String.utf8EncodeChar c).filter (fun x => x < 0x80) = [] := by
      refine List.filter_eq_nil_iff.mpr fun x hx hlt => ?_
      have hle := le_of_mem_encodeChar (Nat.le_of_not_lt hc) hx
      have hx' := UInt8.lt_iff_toNat_lt.mp (of_decide_eq_true hlt)
      exact absurd hle (Nat.not_le.mpr hx')
    rw [hnone]
    simp [hc]

/-- **The characters below `0x80` are the bytes below `0x80`, in order.** -/
theorem CutInto.ascii {b : Bytes} {ps : List Piece} (h : CutInto b ps) :
    ((ps.map Piece.shown).filter fun c => c.toNat < 0x80).map Char.toNat =
      (b.filter fun x => x < 0x80).map UInt8.toNat := by
  induction h with
  | nil => rfl
  | @char c rest ps next ih =>
    rw [List.filter_append, List.map_append, ascii_encodeChar, ← ih, ← List.map_append,
      ← List.filter_append]
    rfl
  | @broken u rest ps off next ih =>
    have hnone : u.filter (fun x => x < 0x80) = [] :=
      List.filter_eq_nil_iff.mpr fun x hx hlt => off.not_lt hx (of_decide_eq_true hlt)
    rw [List.map_cons, List.filter_append, hnone, List.nil_append, ← ih,
      List.filter_cons_of_neg (by decide)]

/-- What begins a character does not reach beyond a byte below `0x80`. -/
theorem Begins.prefix_of_ascii {v p b : Bytes} {x : UInt8} (hv : Begins v)
    (hpre : v <+: p ++ x :: b) (hp : p ≠ []) (hx : x < 0x80) : v <+: p := by
  rcases List.prefix_or_prefix_of_prefix hpre (List.prefix_append p (x :: b)) with h | ⟨w, rfl⟩
  · exact h
  · rw [List.prefix_append_right_inj] at hpre
    rcases List.prefix_cons_iff.mp hpre with rfl | ⟨w, rfl, -⟩
    · simp
    · obtain ⟨c, hc⟩ := hv
      have hle := hc.length_le
      rw [encodeChar_eq_of_mem hx (hc.subset (by simp))] at hle
      have hpos := List.length_pos_iff.mpr hp
      simp only [List.length_append, List.length_cons, List.length_nil] at hle
      omega

theorem BrokenOff.append {u rest : Bytes} (off : BrokenOff u rest) {x : UInt8} (hx : x < 0x80)
    (b : Bytes) : BrokenOff u (rest ++ x :: b) := by
  have hne : u ++ rest ≠ [] := fun h => off.ne_nil (List.append_eq_nil_iff.mp h).1
  refine ⟨off.ne_nil, fun c hc => ?_, off.begins, fun v hv hbegins => ?_⟩
  · rw [← List.append_assoc] at hc
    have hbegins : Begins (String.utf8EncodeChar c) := ⟨c, List.prefix_rfl⟩
    exact off.no_char c (hbegins.prefix_of_ascii hc hne hx)
  · rw [← List.append_assoc] at hv
    exact off.longest v (hbegins.prefix_of_ascii hv hne hx) hbegins

/-- At a byte below `0x80` the bytes before it and those from there on are cut apart. -/
theorem CutInto.append {a b : Bytes} {ps qs : List Piece} {x : UInt8} (ha : CutInto a ps)
    (hx : x < 0x80) (hb : CutInto (x :: b) qs) : CutInto (a ++ x :: b) (ps ++ qs) := by
  induction ha with
  | nil => exact hb
  | char c next ih =>
    rw [List.append_assoc]
    exact .char c ih
  | broken off next ih =>
    rw [List.append_assoc]
    exact .broken (off.append hx b) ih

/-! ### The reader inside a sequence -/

/-- A byte that is admitted can be followed by bytes that finish the sequence. -/
theorem Unfinished.exists_spells {u : Unfinished} {x : UInt8} (h : u.Admits x) :
    ∃ tail v, u.Spells (x :: tail) v := by
  by_cases hone : u.missing ≤ 1
  · exact ⟨[], _, .last hone h⟩
  · have hnext : (u.continued x).Admits 0x80 := continued_admits_iff.mpr ⟨by decide, by decide⟩
    have hless : (u.continued x).missing < u.missing := by
      simp only [continued]
      omega
    obtain ⟨tail, v, hs⟩ := exists_spells hnext
    exact ⟨0x80 :: tail, v, .more (Nat.not_le.mp hone) h hs⟩
termination_by u.missing

/-- Every sequence that is begun can go on. -/
theorem exists_admits_of_begin? {b : UInt8} {u : Unfinished} (h : begin? b = some u) :
    ∃ x, u.Admits x := by
  refine ⟨u.low, UInt8.le_refl _, ?_⟩
  unfold begin? at h
  split_ifs at h <;> cases h <;> dsimp only <;> decide

/-- In the middle of a sequence the reader is inside a shorter one: whatever finishes that one finishes
the sequence. -/
theorem Reader.foldl_step_of_spells_append {begun rest : Bytes} (hrest : rest ≠ [])
    {u : Unfinished} {v : ℕ} (h : u.Spells (begun ++ rest) v) :
    ∃ w : Unfinished, (∀ ps, begun.foldl step ⟨ps, some u⟩ = ⟨ps, some w⟩) ∧
      ∀ tail n, w.Spells tail n → u.Spells (begun ++ tail) n := by
  induction begun generalizing u with
  | nil => exact ⟨u, fun ps => rfl, fun tail n hs => hs⟩
  | cons x begun ih =>
    rw [List.cons_append] at h
    generalize htail : begun ++ rest = bytes at h
    cases h with
    | last one admits => exact absurd (List.append_eq_nil_iff.mp htail).2 hrest
    | more many admits next =>
      obtain ⟨w, hw, hfinish⟩ := ih (htail ▸ next)
      refine ⟨w, fun ps => ?_, fun tail n hs => .more many admits (hfinish tail n hs)⟩
      rw [List.foldl_cons, step_of_admits admits, if_neg (Nat.not_le.mpr many)]
      exact hw ps

/-- Once a sequence is begun, what finishes it makes it the form of a character. -/
theorem Begun.encodeChar_ofNat {b : UInt8} {u : Unfinished} (h : Begun b u) {tail : Bytes} {v : ℕ}
    (hs : u.Spells tail v) : String.utf8EncodeChar (Char.ofNat v) = b :: tail := by
  obtain ⟨hvalid, -⟩ := h.isValidChar hs
  exact h.encode_eq (by rwa [toNat_val_ofNat hvalid])

/-- The first byte of the form of a character above `0x7F` begins a sequence. -/
theorem exists_begin?_of_encodeChar {c : Char} (hc : 0x80 ≤ c.val.toNat) :
    ∃ b u tail, String.utf8EncodeChar c = b :: tail ∧ begin? b = some u ∧
      u.Spells tail c.val.toNat := by
  obtain ⟨b, u, tail, hb, hs⟩ := exists_begin?_spells hc
  exact ⟨b, u, tail, (begun_of_begin? hb).encode_eq hs, hb, hs⟩

/-- **In the middle of a character the reader goes on with a byte only if the bytes up to it begin a
character.** -/
theorem exists_inside {c : Char} {u rest : Bytes} (hc : String.utf8EncodeChar c = u ++ rest)
    (hu : u ≠ []) (hrest : rest ≠ []) :
    ∃ w : Unfinished, (∀ ps, u.foldl Reader.step ⟨ps, none⟩ = ⟨ps, some w⟩) ∧
      ∀ x, w.Admits x → Begins (u ++ [x]) := by
  obtain ⟨x, begun, rfl⟩ := List.exists_cons_of_ne_nil hu
  have hlong : 0x80 ≤ c.val.toNat := by
    by_contra hascii
    rw [String.utf8EncodeChar, if_pos (by omega), List.cons_append] at hc
    exact hrest (List.append_eq_nil_iff.mp (List.cons.inj hc).2.symm).2
  obtain ⟨b, v, tail, hform, hb, hs⟩ := exists_begin?_of_encodeChar hlong
  obtain ⟨rfl, rfl⟩ := List.cons.inj (hform.symm.trans hc)
  obtain ⟨w, hw, hfinish⟩ := Reader.foldl_step_of_spells_append hrest hs
  refine ⟨w, fun ps => ?_, fun y hy => ?_⟩
  · rw [List.foldl_cons, ← hw ps]
    congr 1
    exact Reader.start_of_begin? hb _
  · obtain ⟨tail, n, hspells⟩ := Unfinished.exists_spells hy
    refine ⟨Char.ofNat n, tail, ?_⟩
    rw [(begun_of_begin? hb).encodeChar_ofNat (hfinish _ n hspells), List.append_assoc,
      List.cons_append, List.singleton_append]

/-! ### The reader finds the broken sequences -/

namespace BrokenOff
variable {u rest : Bytes} (off : BrokenOff u rest)
include off

/-- A byte that begins nothing is read as broken at once. -/
theorem foldl_step_of_not_begins (hno : ¬ Begins u) (ps : List Piece) :
    u.foldl Reader.step ⟨ps, none⟩ = ⟨.broken :: ps, none⟩ := by
  obtain ⟨x, v, rfl⟩ := List.exists_cons_of_ne_nil off.ne_nil
  obtain rfl : v = [] := by
    by_contra hv
    exact hno (off.begins (by simpa using List.length_pos_iff.mpr hv))
  have hascii : ¬ x < 0x80 := off.not_lt List.mem_cons_self
  have hnone : begin? x = none := by
    cases hb : begin? x with
    | none => rfl
    | some w =>
      obtain ⟨y, hy⟩ := exists_admits_of_begin? hb
      obtain ⟨tail, n, hs⟩ := Unfinished.exists_spells hy
      exact absurd ⟨_, y :: tail, ((begun_of_begin? hb).encodeChar_ofNat hs).symm⟩ hno
  show Reader.start ⟨ps, none⟩ x = _
  simp only [Reader.start, if_neg hascii, hnone]

theorem finish_foldl_step (ps : List Piece) :
    ((u ++ rest).foldl Reader.step ⟨ps, none⟩).finish =
      (rest.foldl Reader.step ⟨.broken :: ps, none⟩).finish := by
  rw [foldl_step_append]
  by_cases hbegins : Begins u
  · obtain ⟨c, tail, hc⟩ := hbegins
    have htail : tail ≠ [] := by
      rintro rfl
      rw [List.append_nil] at hc
      exact off.no_char c (hc ▸ List.prefix_append u rest)
    obtain ⟨w, hw, hadmits⟩ := exists_inside hc.symm off.ne_nil htail
    rw [hw]
    cases rest with
    | nil => rfl
    | cons y rest =>
      have hy : ¬ w.Admits y := by
        intro hy
        have hlonger := off.longest (u ++ [y]) (by simp) (hadmits y hy)
        rw [List.length_append, List.length_singleton] at hlonger
        omega
      rw [List.foldl_cons, List.foldl_cons, Reader.step_of_not_admits hy]
      rfl
  · rw [off.foldl_step_of_not_begins hbegins]

end BrokenOff

/-- A character and a broken sequence give one piece each, whatever was read before. -/
theorem CutInto.finish_foldl_step {b : Bytes} {ps : List Piece} (h : CutInto b ps)
    (before : List Piece) :
    (b.foldl Reader.step ⟨before, none⟩).finish = before.reverse ++ ps := by
  induction h generalizing before with
  | nil => exact (List.append_nil _).symm
  | char c next ih =>
    rw [foldl_step_append, Reader.foldl_step_encodeChar, ih, List.reverse_cons, List.append_assoc,
      List.singleton_append]
  | broken off next ih =>
    rw [off.finish_foldl_step, ih, List.reverse_cons, List.append_assoc, List.singleton_append]

/-- **The pieces that are read are the only ones that a byte string can be cut into.** -/
theorem cutInto_iff {b : Bytes} {ps : List Piece} : CutInto b ps ↔ ps = pieces b := by
  have hpieces : ∀ {qs}, CutInto b qs → qs = pieces b := fun h =>
    (h.finish_foldl_step []).symm
  constructor
  · exact hpieces
  · rintro rfl
    obtain ⟨qs, hqs⟩ := exists_cutInto b
    rwa [← hpieces hqs]

/-! ### What is shown -/

theorem ascii_decodeLossy (b : Bytes) :
    ((decodeLossy b).filter fun c => c.toNat < 0x80).map Char.toNat =
      (b.filter fun x => x < 0x80).map UInt8.toNat :=
  (cutInto_iff.mpr rfl).ascii

/-- **What stands on either side of a byte below `0x80` is read apart.** -/
theorem decodeLossy_append_ascii {x : UInt8} (hx : x < 0x80) (a b : Bytes) :
    decodeLossy (a ++ x :: b) = decodeLossy a ++ Char.ofNat x.toNat :: decodeLossy b := by
  have hb : CutInto (x :: b) (.char (Char.ofNat x.toNat) :: pieces b) := by
    have hchar := CutInto.char (Char.ofNat x.toNat) (cutInto_iff.mpr (rfl : pieces b = pieces b))
    rwa [encodeChar_ofNat hx] at hchar
  have hcut := (cutInto_iff.mpr (rfl : pieces a = pieces a)).append hx hb
  rw [decodeLossy, ← cutInto_iff.mp hcut, List.map_append]
  rfl

theorem decodeLossy_encode (s : List Char) : decodeLossy (encode s) = s := by
  rw [decodeLossy, pieces_encode, List.map_map]
  exact List.map_id s

end LoopAdvice.Utf8
