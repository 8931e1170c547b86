import LoopAdvice.Source
import LoopAdvice.Proofs.Text.Replacement

/-! # Loading a source file

A file that can be read is loaded, whatever its bytes are. If they are no text there is one warning, and
every broken sequence stands in the loaded text as one replacement character. No ASCII character is
lost or made up: the text up to an ASCII byte and the text after it do not hang on each other, broken or
not. What was loaded and is written again is loaded as it is, without a warning. Main statement:
`load_keeps_ascii`. -/

namespace LoopAdvice.SourceDocument

/-- The warnings among what is recorded. -/
def warnings (events : List Event) : List Event := events.filter fun e => e.level = .warn

/-- A file is warned of if its bytes are no text. -/
theorem warnings_readEvents (path content : Bytes) : warnings (readEvents path content) =
    if Utf8.isValid content then [] else [.decodedLossily path] := by
  unfold warnings readEvents
  split_ifs
  · rfl
  · rfl

/-- **Every file that can be read is loaded, and its ASCII characters are its ASCII bytes.** -/
theorem load_keeps_ascii (path content : Bytes) :
    ∃ text events, load path (.ok content) = (events, .ok ⟨path, text⟩) ∧
      (text.filter fun c => c.toNat < 0x80).map Char.toNat =
        (content.filter fun x => x < 0x80).map UInt8.toNat ∧
      (Utf8.encode text = content ∧ warnings events = [] ∨
        (∀ s, Utf8.encode s ≠ content) ∧ warnings events = [.decodedLossily path]) ∧
      (∃ ps, text = ps.map Utf8.Piece.shown ∧ ∀ qs, Utf8.CutInto content qs ↔ qs = ps) ∧
      (∀ (a b : Bytes) (x : UInt8), content = a ++ x :: b → x < 0x80 →
        text = Utf8.decodeLossy a ++ Char.ofNat x.toNat :: Utf8.decodeLossy b) ∧
      ∀ other, ∃ again, load other (.ok (Utf8.encode text)) = (again, .ok ⟨other, text⟩) ∧
        warnings again = [] := by
  refine ⟨Utf8.decodeLossy content, readEvents path content, rfl, Utf8.ascii_decodeLossy content, ?_,
    ⟨Utf8.pieces content, rfl, fun qs => Utf8.cutInto_iff⟩, ?_, fun other => ?_⟩
  · rw [warnings_readEvents]
    cases hvalid : Utf8.isValid content with
    | true => exact Or.inl ⟨Utf8.encode_decodeLossy_eq_iff.mpr hvalid, rfl⟩
    | false =>
      refine Or.inr ⟨fun s hs => ?_, rfl⟩
      rw [← hs, Utf8.isValid_encode] at hvalid
      cases hvalid
  · rintro a b x rfl hx
    exact Utf8.decodeLossy_append_ascii hx a b
  · set text := Utf8.decodeLossy content
    refine ⟨readEvents other (Utf8.encode text), ?_, ?_⟩
    · rw [load, ofBytes, Utf8.decodeLossy_encode]
    · rw [warnings_readEvents, if_pos (Utf8.isValid_encode text)]

/-- A character that breaks off before a parenthesis does not take it along. -/
theorem load_keeps_ascii_brokenOff :
    let opening : Bytes := Utf8.bytesOf "for (i" ++ [0xE2, 0x82]
    let content : Bytes := opening ++ 0x29 :: [0xED, 0xA0]
    ∃ text events, load [0x61] (.ok content) = (events, .ok ⟨[0x61], text⟩) ∧
      text = "for (i\uFFFD)\uFFFD\uFFFD".toList ∧
      warnings events = [.decodedLossily [0x61]] ∧
      (0x29 : UInt8) < 0x80 ∧
      text = Utf8.decodeLossy opening ++ ')' :: Utf8.decodeLossy [0xED, 0xA0] := by
  intro opening content
  obtain ⟨text, events, hload, -, hwarned, -, hsplit, -⟩ := load_keeps_ascii [0x61] content
  have hparen := hsplit opening [0xED, 0xA0] 0x29 rfl (by decide)
  have hbroken : Utf8.encode text ≠ content := by
    rw [hparen]
    decide +kernel
  obtain ⟨-, hone⟩ := hwarned.resolve_left fun h => hbroken h.1
  refine ⟨text, events, hload, ?_, hone, by decide, hparen⟩
  rw [hparen]
  decide +kernel

end LoopAdvice.SourceDocument
