import LoopAdvice.Json.Reader
import Mathlib.Data.List.Basic
import Mathlib.Tactic.SplitIfs

/-! # Reading rendered JSON

The reader undoes the indented form: a rendered value, with anything after it, is read back as the
value and what comes after (`value?_render`). So a document is a rendered value with nothing but
blanks after it (`document?_render`). -/

namespace LoopAdvice.Json

/-! ### Strings -/

/-- The two digits that a character below `U+0020` is spelled with name it. -/
theorem hex4?_control : ∀ n < 32,
    hex4? '0' '0' (Nat.digitChar (n / 16)) (Nat.digitChar (n % 16)) = some n ∧ n.isValidChar := by
  decide

theorem stringBody?_escape (c : Char) (t : List Char) :
    stringBody? (escape c ++ t) = (stringBody? t).map fun r => (c :: r.1, r.2) := by
  have hletter : ∀ l : Char, l ≠ 'u' → letter? l = some c →
      stringBody? ('\\' :: l :: t) = (stringBody? t).map fun r => (c :: r.1, r.2) := by
    intro l hu hl
    rw [stringBody?]
    · rw [hl]
      cases stringBody? t <;> rfl
    · intro a b c d rest hl
      exact absurd hl hu
  unfold escape
  split_ifs with hquote hslash hb ht hn hf hr hcontrol
  · exact hletter '"' (by decide) (by rw [hquote]; rfl)
  · exact hletter '\\' (by decide) (by rw [hslash]; rfl)
  · exact hletter 'b' (by decide) (by rw [hb]; rfl)
  · exact hletter 't' (by decide) (by rw [ht]; rfl)
  · exact hletter 'n' (by decide) (by rw [hn]; rfl)
  · exact hletter 'f' (by decide) (by rw [hf]; rfl)
  · exact hletter 'r' (by decide) (by rw [hr]; rfl)
  · obtain ⟨hhex, hvalid⟩ := hex4?_control c.toNat hcontrol
    simp only [List.cons_append, List.nil_append]
    rw [stringBody?, hhex]
    simp only [Option.bind_eq_bind, Option.bind_some, if_pos hvalid, Char.ofNat_toNat]
    cases stringBody? t <;> rfl
  · rw [List.singleton_append, stringBody?]
    · rw [if_neg hcontrol]
      cases stringBody? t <;> rfl
    · exact hquote
    · rintro a b c d rest rfl
      exact absurd rfl hslash
    · rintro a rest rfl
      exact absurd rfl hslash

/-- **A quoted string is read back**, with anything after its closing quote. -/
theorem stringBody?_quoted (s rest : List Char) :
    stringBody? (s.flatMap escape ++ '"' :: rest) = some (s, rest) := by
  induction s with
  | nil => rfl
  | cons c s ih => rw [List.flatMap_cons, List.append_assoc, stringBody?_escape, ih]; rfl

theorem quote_append (s rest : List Char) :
    quote s ++ rest = '"' :: (s.flatMap escape ++ '"' :: rest) := by
  rw [quote, List.cons_append, List.cons_append, List.append_assoc, List.singleton_append]

theorem renderField_append (level : Nat) (k : List Char) (v : Value) (rest : List Char) :
    renderField level (k, v) ++ rest =
      '"' :: (k.flatMap escape ++ '"' :: ':' :: ' ' :: (render level v ++ rest)) := by
  rw [renderField, List.append_assoc, List.append_assoc, quote_append]
  rfl

/-! ### Blanks -/

theorem skip_newline (level : Nat) (s : List Char) : skip (newline level ++ s) = skip s := by
  have hspaces : ∀ n, skip (List.replicate n ' ' ++ s) = skip s := by
    intro n
    induction n with
    | zero => rfl
    | succ n ih => exact ih
  exact hspaces (2 * level)

/-- A character that is no blank is not skipped. -/
theorem skip_cons {c : Char} (hc : isSpace c = false) (s : List Char) :
    skip (c :: s) = c :: s := by
  rw [skip, List.dropWhile_cons_of_neg (by simp [hc])]

/-- Blanks before a value do not matter. -/
theorem value?_congr {s t : List Char} (h : skip s = skip t) (n : Nat) :
    value? n s = value? n t := by
  cases n with
  | zero => rfl
  | succ n => rw [value?, value?, h]

/-! ### Values -/

/-- A rendered value starts with a character that is neither a blank nor a closing bracket. -/
theorem render_eq_cons (level : Nat) (v : Value) :
    ∃ c t, render level v = c :: t ∧ isSpace c = false ∧ c ≠ ']' := by
  cases v with
  | null => exact ⟨'n', _, rfl, rfl, by decide⟩
  | bool b => cases b <;> exact ⟨_, _, rfl, rfl, by decide⟩
  | string s => exact ⟨'"', _, rfl, rfl, by decide⟩
  | array vs => cases vs <;> exact ⟨'[', _, rfl, rfl, by decide⟩
  | object fs => cases fs <;> exact ⟨'\x7b', _, rfl, rfl, by decide⟩

mutual

/-- **A rendered value is read back**, with anything after it. -/
theorem value?_render : ∀ (v : Value) (level n : Nat) (rest : List Char),
    (render level v).length < n → value? n (render level v ++ rest) = some (v, rest)
  | v, level, 0, rest, h => absurd h (Nat.not_lt_zero _)
  | .null, level, n + 1, rest, h => rfl
  | .bool true, level, n + 1, rest, h => rfl
  | .bool false, level, n + 1, rest, h => rfl
  | .string s, level, n + 1, rest, h => by
    rw [render, quote_append, value?, skip_cons rfl]
    simp only [stringBody?_quoted, Option.map_some]
  | .array [], level, n + 1, rest, h => rfl
  | .array (v :: vs), level, n + 1, rest, h => by
    simp only [render, List.length_cons, List.length_append, List.length_nil, newline] at h
    have hitems := items?_render v vs (level + 1) level n rest (by omega)
    obtain ⟨c, t, hc, hspace, hbracket⟩ := render_eq_cons (level + 1) v
    have hopen : expect? ']' (skip (newline (level + 1) ++ render (level + 1) v ++
        renderItems (level + 1) vs ++ newline level ++ ']' :: rest)) = none := by
      simp only [List.append_assoc, skip_newline, hc, List.cons_append, skip_cons hspace, expect?,
        if_neg hbracket]
    rw [render]
    simp only [List.cons_append, List.append_assoc, List.nil_append] at hitems hopen ⊢
    rw [value?, skip_cons rfl]
    simp only [hopen, hitems, Option.map_some]
  | .object [], level, n + 1, rest, h => rfl
  | .object ((k, v) :: fs), level, n + 1, rest, h => by
    simp only [render, List.length_cons, List.length_append, List.length_nil, newline] at h
    have hfields := fields?_render (k, v) fs (level + 1) level n rest (by omega)
    have hopen : expect? '\x7d' (skip (newline (level + 1) ++ renderField (level + 1) (k, v) ++
        renderFields (level + 1) fs ++ newline level ++ '\x7d' :: rest)) = none := by
      simp only [List.append_assoc, skip_newline, renderField_append]
      rfl
    rw [render]
    simp only [List.cons_append, List.append_assoc, List.nil_append] at hfields hopen ⊢
    rw [value?, skip_cons rfl]
    simp only [hopen, hfields, Option.map_some]
termination_by v => sizeOf v

theorem items?_render : ∀ (v : Value) (vs : List Value) (level closing n : Nat) (rest : List Char),
    (render level v).length + (renderItems level vs).length + 1 < n →
      items? n (newline level ++ render level v ++ renderItems level vs ++ newline closing ++
        ']' :: rest) = some (v :: vs, rest)
  | v, vs, level, closing, 0, rest, h => absurd h (Nat.not_lt_zero _)
  | v, vs, level, closing, n + 1, rest, h => by
    have hvalue := value?_render v level n
      (renderItems level vs ++ (newline closing ++ ']' :: rest)) (by omega)
    rw [← value?_congr (skip_newline level _)] at hvalue
    simp only [List.append_assoc] at hvalue ⊢
    rw [items?, hvalue]
    cases vs with
    | nil =>
      simp only [renderItems, List.nil_append, skip_newline, Option.bind_eq_bind, Option.bind_some]
      rfl
    | cons w ws =>
      simp only [renderItems, List.length_cons, List.length_append] at h
      have hitems := items?_render w ws level closing n rest (by omega)
      simp only [List.append_assoc] at hitems
      simp only [renderItems, List.cons_append, List.append_assoc, Option.bind_eq_bind,
        Option.bind_some, skip_cons (show isSpace ',' = false from rfl), hitems]
      rfl
termination_by v vs => sizeOf v + sizeOf vs + 1

theorem fields?_render : ∀ (f : List Char × Value) (fs : List (List Char × Value))
    (level closing n : Nat) (rest : List Char),
    (renderField level f).length + (renderFields level fs).length + 1 < n →
      fields? n (newline level ++ renderField level f ++ renderFields level fs ++
        newline closing ++ '\x7d' :: rest) = some (f :: fs, rest)
  | f, fs, level, closing, 0, rest, h => absurd h (Nat.not_lt_zero _)
  | (k, v), fs, level, closing, n + 1, rest, h => by
    simp only [renderField, List.length_append] at h
    have hvalue := value?_render v level n
      (renderFields level fs ++ (newline closing ++ '\x7d' :: rest)) (by omega)
    -- the blank after the colon is skipped like those before any value
    have hblank : ∀ s, value? n (' ' :: s) = value? n s := fun s =>
      value?_congr (show skip (' ' :: s) = skip s from rfl) n
    rw [← hblank] at hvalue
    simp only [List.append_assoc]
    rw [fields?, skip_newline, renderField_append, skip_cons rfl]
    simp only [expect?, if_pos, stringBody?_quoted, Option.bind_eq_bind, Option.bind_some,
      skip_cons (show isSpace ':' = false from rfl), hvalue]
    cases fs with
    | nil =>
      simp only [renderFields, List.nil_append, skip_newline]
      rfl
    | cons f fs =>
      simp only [renderFields, List.length_cons, List.length_append] at h
      have hfields := fields?_render f fs level closing n rest (by omega)
      simp only [List.append_assoc] at hfields
      simp only [renderFields, List.cons_append, List.append_assoc,
        skip_cons (show isSpace ',' = false from rfl), hfields, Option.bind_some]
      rfl
termination_by f fs => sizeOf f + sizeOf fs

end

/-- **A rendered value with only blanks after it is a document**, and with anything else it is
none. -/
theorem document?_render (v : Value) (rest : List Char) :
    document? (render 0 v ++ rest) = if (skip rest).isEmpty then some v else none := by
  have hlength : (render 0 v).length < (render 0 v ++ rest).length + 1 := by
    rw [List.length_append]
    omega
  rw [document?, value?_render v 0 _ rest hlength]
  rfl

end LoopAdvice.Json
