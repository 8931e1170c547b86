import LoopAdvice.Proofs.Loop.Seams

/-! # Headers that are searched again

A header is found again in itself, as a whole and alone, since its own keyword is the first one that is
followed by an opening parenthesis (`IsHeader.headers_append`). Text without an `f` opens nothing
(`headers_append_of_f_not_mem`). So headers that were found anywhere and are strung together, with such
text between them, are found again as they are. Main statement: `headers_of_found`. -/

namespace LoopAdvice.Loop

/-- What is found has the shape of a header. -/
theorem isHeader_of_mem_headers {t h : List Char} (hh : h ∈ headers t) : IsHeader h := by
  obtain ⟨d, -, hd, hheaders⟩ := exists_proper t
  exact hd.shaped h (hheaders ▸ hh)

/-- **A header at the start of a text is found whole, and the rest is searched afresh.** -/
theorem IsHeader.headers_append {h : List Char} (hh : IsHeader h) (x : List Char) :
    headers (h ++ x) = h :: headers x := by
  obtain ⟨u, rfl, hu, hclose⟩ := hh.exists_concat
  obtain ⟨v, rfl⟩ := hu.exists_cons
  have hall : closed? ('f' :: v) = some ('f' :: v ++ [')']) := by
    unfold closed?
    rw [leftmost_cons, if_pos hu]
    rfl
  rw [List.append_assoc, List.singleton_append, headers_append_close hclose, hall]
  rfl

/-- Text without an `f` and without a closing parenthesis can be left out in front. -/
theorem headers_append_of_f_not_mem {g : List Char} (hf : 'f' ∉ g) (hclose : ')' ∉ g)
    (x : List Char) : headers (g ++ x) = headers x :=
  headers_append_of_leftmost hclose (leftmost_append_of_not_mem (fun _ => IsOpening.head?_eq) hf) x

theorem headers_intercalate {g : List Char} (hf : 'f' ∉ g) (hclose : ')' ∉ g)
    {hs : List (List Char)} (hhs : ∀ h ∈ hs, IsHeader h) : headers (g.intercalate hs) = hs := by
  induction hs with
  | nil => rfl
  | cons h hs ih =>
    have hh : IsHeader h := hhs h List.mem_cons_self
    have ih := ih fun k hk => hhs k (List.mem_cons_of_mem h hk)
    cases hs with
    | nil =>
      have hself := hh.headers_append []
      rw [List.append_nil] at hself
      rw [List.intercalate_singleton, hself]
      rfl
    | cons k hs =>
      rw [List.intercalate_cons_cons, List.append_assoc, hh.headers_append,
        headers_append_of_f_not_mem hf hclose, ih]

/-- Without a separator, to string together is to append. -/
theorem nil_intercalate (hs : List (List Char)) : [].intercalate hs = hs.flatten := by
  induction hs with
  | nil => rfl
  | cons h hs ih =>
    cases hs with
    | nil => simp
    | cons k hs => rw [List.intercalate_cons_cons, ih, List.append_nil, ← List.flatten_cons]

/-- **Headers that were found, in one text or in several, are found again where they are strung
together** with separators that hold neither an `f` nor a closing parenthesis. So the candidates of a
text, written one after the other, have themselves for headers and for candidates. -/
theorem headers_of_found :
    (∀ (hs : List (List Char)) (g : List Char), (∀ h ∈ hs, ∃ t, h ∈ headers t) → 'f' ∉ g → ')' ∉ g →
      headers (g.intercalate hs) = hs ∧
        candidates (g.intercalate hs) = hs.filter isCandidate) ∧
    ∀ t : List Char, headers (candidates t).flatten = candidates t ∧
      candidates (candidates t).flatten = candidates t := by
  have hfound : ∀ (hs : List (List Char)) (g : List Char), (∀ h ∈ hs, ∃ t, h ∈ headers t) →
      'f' ∉ g → ')' ∉ g → headers (g.intercalate hs) = hs := by
    intro hs g hhs hf hclose
    refine headers_intercalate hf hclose fun h hh => ?_
    obtain ⟨t, ht⟩ := hhs h hh
    exact isHeader_of_mem_headers ht
  refine ⟨fun hs g hhs hf hclose => ?_, fun t => ?_⟩
  · have h := hfound hs g hhs hf hclose
    refine ⟨h, ?_⟩
    rw [candidates, h]
  · have h := hfound (candidates t) [] (fun h hh => ⟨t, (List.mem_filter.mp hh).1⟩) (by simp) (by simp)
    rw [nil_intercalate] at h
    refine ⟨h, ?_⟩
    rw [candidates, h]
    exact List.filter_eq_self.mpr fun k hk => (List.mem_filter.mp hk).2

/-- Neither the parentheses inside a header nor those of a separator mislead the second search. -/
theorem headers_of_found_nested :
    let hs := ["for\n(for (int i < (n)".toList, "for(x)".toList]
    let g := " (\nint < (".toList
    (∀ h ∈ hs, ∃ t, h ∈ headers t) ∧ 'f' ∉ g ∧ ')' ∉ g ∧ headers (g.intercalate hs) = hs ∧
      candidates (g.intercalate hs) = ["for\n(for (int i < (n)".toList] := by
  intro hs g
  have hself : ∀ h ∈ hs, h ∈ headers h := by decide
  have hhs : ∀ h ∈ hs, ∃ t, h ∈ headers t := fun h hh => ⟨h, hself h hh⟩
  have hf : 'f' ∉ g := by decide
  have hclose : ')' ∉ g := by decide
  obtain ⟨hheaders, hcandidates⟩ := headers_of_found.1 hs g hhs hf hclose
  exact ⟨hhs, hf, hclose, hheaders, hcandidates.trans (by decide)⟩

end LoopAdvice.Loop
