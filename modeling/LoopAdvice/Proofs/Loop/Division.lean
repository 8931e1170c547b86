import LoopAdvice.Proofs.Loop.Search

/-! # Divisions of a text

A *division* cuts a text into gaps and headers: a first gap, then headers, each with the gap after
it. It is *proper* if every header has the shape of one and no text of that shape starts inside a
gap, also none that would run on beyond the gap. Every text has exactly one proper division, and its
headers are the ones the search finds (`headers_division`).

There is at most one because a text of that shape ends at its first closing parenthesis, so no two
of them start at one place (`IsHeader.eq_of_prefix`). There is one because the segment before a
closing parenthesis is, up to its leftmost opening, a gap (`exists_proper`). -/

namespace LoopAdvice.Loop

/-! ### Shapes -/

/-- The shape of a header: the keyword, blanks, and a clause in parentheses that holds neither a line
break nor a closing parenthesis. -/
def IsHeader (h : List Char) : Prop :=
  ∃ w b, h = letters ++ w ++ '(' :: (b ++ [')']) ∧ (∀ c ∈ w, isBlank c = true) ∧ '\n' ∉ b ∧ ')' ∉ b

/-- No text of the shape of a header starts inside `g` when `r` follows `g`. -/
def Free (g r : List Char) : Prop := ∀ i < g.length, ∀ h, IsHeader h → ¬ h <+: (g ++ r).drop i

theorem not_mem_blanks {w : List Char} (hw : ∀ c ∈ w, isBlank c = true) : ')' ∉ w := fun h => by
  have := hw _ h
  rw [isBlank_close] at this
  cases this

/-- A header is an opening without a closing parenthesis, and a closing parenthesis. -/
theorem isHeader_concat_iff {u : List Char} :
    IsHeader (u ++ [')']) ↔ IsOpening u ∧ ')' ∉ u := by
  constructor
  · rintro ⟨w, b, hu, hw, hn, hb⟩
    rw [← List.cons_append, ← List.append_assoc] at hu
    obtain ⟨rfl, -⟩ := List.append_inj' hu rfl
    refine ⟨⟨w, b, rfl, hw, hn⟩, ?_⟩
    simp [letters, hb, not_mem_blanks hw]
  · rintro ⟨⟨w, b, rfl, hw, hn⟩, hb⟩
    exact ⟨w, b, by simp, hw, hn, fun h => hb (by simp [h])⟩

theorem IsHeader.exists_concat {h : List Char} (hh : IsHeader h) :
    ∃ u, h = u ++ [')'] ∧ IsOpening u ∧ ')' ∉ u := by
  obtain ⟨w, b, rfl, hrest⟩ := hh
  have hcat : letters ++ w ++ '(' :: (b ++ [')']) = (letters ++ w ++ '(' :: b) ++ [')'] := by simp
  refine ⟨letters ++ w ++ '(' :: b, hcat, ?_⟩
  rw [← isHeader_concat_iff, ← hcat]
  exact ⟨w, b, rfl, hrest⟩

theorem IsHeader.ne_nil {h : List Char} (hh : IsHeader h) : h ≠ [] := by
  obtain ⟨u, rfl, -⟩ := hh.exists_concat
  simp

/-- A header at the start of a text ends at the first closing parenthesis of the text. -/
theorem IsHeader.prefix_iff {h s t : List Char} (hh : IsHeader h) (hs : ')' ∉ s) :
    h <+: s ++ ')' :: t ↔ h = s ++ [')'] := by
  obtain ⟨u, rfl, -, hu⟩ := hh.exists_concat
  constructor
  · rintro ⟨r, hr⟩
    rw [List.append_assoc, List.singleton_append, List.append_eq_append_iff] at hr
    rcases hr with ⟨a, rfl, ha⟩ | ⟨a, rfl, ha⟩
    · rcases a with _ | ⟨c, a⟩
      · simp
      · obtain ⟨rfl, -⟩ := List.cons.inj ha
        exact absurd (by simp) hs
    · rcases a with _ | ⟨c, a⟩
      · simp
      · obtain ⟨rfl, -⟩ := List.cons.inj ha
        exact absurd (by simp) hu
  · intro h
    rw [h]
    exact ⟨t, by simp⟩

theorem IsHeader.not_prefix_of_not_mem {h s : List Char} (hh : IsHeader h) (hs : ')' ∉ s) :
    ¬ h <+: s := by
  intro hp
  obtain ⟨u, rfl, -⟩ := hh.exists_concat
  exact hs (hp.subset (by simp))

/-- No two headers start at one place. -/
theorem IsHeader.eq_of_prefix {h h' t : List Char} (hh : IsHeader h) (hh' : IsHeader h')
    (hp : h <+: t) (hp' : h' <+: t) : h = h' := by
  obtain ⟨u, rfl, -, hu⟩ := hh.exists_concat
  obtain ⟨r, rfl⟩ := hp
  rw [List.append_assoc, List.singleton_append, hh'.prefix_iff hu] at hp'
  exact hp'.symm

/-! ### Divisions -/

/-- A text cut into gaps and headers: a first gap, then headers, each with the gap after it. -/
structure Division where
  gap : List Char
  rest : List (List Char × List Char)

/-- A gap, and headers with gaps after it, put together again. -/
def join (g : List Char) (rest : List (List Char × List Char)) : List Char :=
  g ++ rest.flatMap fun p => p.1 ++ p.2

/-- No text of the shape of a header starts inside one of the gaps. -/
def GapsFree : List Char → List (List Char × List Char) → Prop
  | g, [] => Free g []
  | g, (h, g') :: rest => Free g (h ++ join g' rest) ∧ GapsFree g' rest

namespace Division

/-- The text that is divided. -/
def text (d : Division) : List Char := join d.gap d.rest

/-- The headers of a division. -/
def headers (d : Division) : List (List Char) := d.rest.map Prod.fst

/-- Every header has the shape of one, and none starts inside a gap. -/
structure Proper (d : Division) : Prop where
  shaped : ∀ h ∈ d.headers, IsHeader h
  free : GapsFree d.gap d.rest

end Division

theorem join_cons (g h g' : List Char) (rest : List (List Char × List Char)) :
    join g ((h, g') :: rest) = g ++ (h ++ join g' rest) := by
  simp [join]

/-! ### There is at most one -/

/-- A gap ends no later than the first header that stands anywhere. -/
theorem Free.length_le {g r g' h x : List Char} (hf : Free g r) (hh : IsHeader h)
    (he : g ++ r = g' ++ (h ++ x)) : g.length ≤ g'.length := by
  by_contra hlt
  refine hf g'.length (by omega) h hh ?_
  rw [he, List.drop_left]
  exact List.prefix_append h x

theorem gapsFree_unique : ∀ {rest rest' : List (List Char × List Char)} {g g' : List Char},
    join g rest = join g' rest' → (∀ p ∈ rest, IsHeader p.1) → (∀ p ∈ rest', IsHeader p.1) →
      GapsFree g rest → GapsFree g' rest' → g = g' ∧ rest = rest'
  | [], [], g, g', he, _, _, _, _ => by
    simpa [join] using he
  | [], (h, k) :: rest', g, g', he, _, hs', hf, _ => by
    have hh : IsHeader h := hs' _ List.mem_cons_self
    have he' : g ++ [] = g' ++ (h ++ join k rest') := by rw [← join_cons, ← he]; simp [join]
    have hle := hf.length_le hh he'
    have hpos := List.length_pos_iff.mpr hh.ne_nil
    have hlen := congrArg List.length he'
    simp only [List.length_append, List.length_nil] at hlen
    omega
  | (h, k) :: rest, [], g, g', he, hs, _, _, hf' => by
    have hh : IsHeader h := hs _ List.mem_cons_self
    have he' : g' ++ [] = g ++ (h ++ join k rest) := by rw [← join_cons, he]; simp [join]
    have hle := hf'.length_le hh he'
    have hpos := List.length_pos_iff.mpr hh.ne_nil
    have hlen := congrArg List.length he'
    simp only [List.length_append, List.length_nil] at hlen
    omega
  | (h, k) :: rest, (h', k') :: rest', g, g', he, hs, hs', ⟨hf, hfs⟩, ⟨hf', hfs'⟩ => by
    have hh : IsHeader h := hs _ List.mem_cons_self
    have hh' : IsHeader h' := hs' _ List.mem_cons_self
    rw [join_cons, join_cons] at he
    have hlen : g.length = g'.length :=
      Nat.le_antisymm (hf.length_le hh' he) (hf'.length_le hh he.symm)
    obtain ⟨rfl, hrest⟩ := List.append_inj he hlen
    have heq : h = h' :=
      hh.eq_of_prefix hh' (List.prefix_append h _) (hrest ▸ List.prefix_append h' _)
    subst heq
    obtain ⟨rfl, rfl⟩ := gapsFree_unique (List.append_cancel_left hrest)
      (fun p hp => hs p (List.mem_cons_of_mem _ hp))
      (fun p hp => hs' p (List.mem_cons_of_mem _ hp)) hfs hfs'
    exact ⟨rfl, rfl⟩

theorem Division.Proper.eq {d d' : Division} (h : d.Proper) (h' : d'.Proper)
    (ht : d.text = d'.text) : d = d' := by
  obtain ⟨g, rest⟩ := d
  obtain ⟨g', rest'⟩ := d'
  have shaped : ∀ {e : Division}, e.Proper → ∀ p ∈ e.rest, IsHeader p.1 := fun he p hp =>
    he.shaped _ (List.mem_map_of_mem hp)
  obtain ⟨rfl, rfl⟩ := gapsFree_unique ht (shaped h) (shaped h') h.free h'.free
  rfl

/-! ### There is one -/

theorem Free.append {p g r : List Char} (hp : Free p (g ++ r)) (hg : Free g r) :
    Free (p ++ g) r := by
  intro i hi h hh
  rw [List.append_assoc]
  by_cases hlt : i < p.length
  · exact hp i hlt h hh
  · rw [List.drop_append, List.drop_eq_nil_of_le (by omega), List.nil_append]
    exact hg (i - p.length) (by rw [List.length_append] at hi; omega) h hh

theorem GapsFree.append {p g : List Char} {rest : List (List Char × List Char)}
    (h : GapsFree g rest) (hp : Free p (join g rest)) : GapsFree (p ++ g) rest := by
  cases rest with
  | nil => exact Free.append (by simpa [join] using hp) h
  | cons q rest =>
    obtain ⟨h1, h2⟩ := h
    rw [join_cons] at hp
    exact ⟨hp.append h1, h2⟩

/-- A text without a closing parenthesis is a gap. -/
theorem free_of_not_mem {s : List Char} (hs : ')' ∉ s) : Free s [] := by
  intro i _ h hh
  rw [List.append_nil]
  exact hh.not_prefix_of_not_mem fun hm => hs (List.mem_of_mem_drop hm)

/-- Before the leftmost opening of a segment no header starts. -/
theorem free_of_not_isOpening {p u t : List Char} (hs : ')' ∉ p ++ u)
    (hp : ∀ i < p.length, ¬ IsOpening ((p ++ u).drop i)) : Free p (u ++ ')' :: t) := by
  intro i hi h hh hpre
  rw [← List.append_assoc, List.drop_append_of_le_length (by simp; omega)] at hpre
  rw [hh.prefix_iff fun hm => hs (List.mem_of_mem_drop hm)] at hpre
  rw [hpre, isHeader_concat_iff] at hh
  exact hp i hi hh.1

theorem exists_proper (t : List Char) :
    ∃ d : Division, d.text = t ∧ d.Proper ∧ d.headers = headers t := by
  induction t using close_induction with
  | last s hs =>
    refine ⟨⟨s, []⟩, by simp [Division.text, join], ⟨by simp [Division.headers], ?_⟩, ?_⟩
    · exact free_of_not_mem hs
    · rw [headers_of_not_mem hs]; rfl
  | close s t hs ih =>
    obtain ⟨⟨g, rest⟩, rfl, ⟨hshaped, hfree⟩, hheaders⟩ := ih
    rw [headers_append_close hs, ← hheaders]
    unfold closed?
    cases hl : leftmost IsOpening s with
    | none =>
      -- the segment and its parenthesis lengthen the first gap
      have hno := (leftmost_eq_none_iff _).mp hl
      have hseg : Free s ([] ++ ')' :: join g rest) :=
        free_of_not_isOpening (by simpa using hs) fun i _ => hno _ (by simpa using List.drop_suffix i s)
      have hpar : Free [')'] (join g rest) := by
        intro i hi h hh hpre
        have hi0 : i = 0 := by simpa using hi
        rw [hi0] at hpre
        have := (hh.prefix_iff (s := []) (by simp)).mp (by simpa using hpre)
        rw [this, isHeader_concat_iff] at hh
        exact absurd hh.1 (by decide)
      refine ⟨⟨s ++ [')'] ++ g, rest⟩, by simp [Division.text, join], ⟨hshaped, ?_⟩, rfl⟩
      exact hfree.append (Free.append (by simpa using hseg) hpar)
    | some u =>
      obtain ⟨hu, p, rfl, hp⟩ := leftmost_some hl
      have hu' : ')' ∉ u := fun h => hs (by simp [h])
      refine ⟨⟨p, (u ++ [')'], g) :: rest⟩, by simp [Division.text, join], ⟨?_, ?_, hfree⟩, rfl⟩
      · intro h hm
        rcases List.mem_cons.mp hm with rfl | hm
        · exact isHeader_concat_iff.mpr ⟨hu, hu'⟩
        · exact hshaped h hm
      · simpa using free_of_not_isOpening (t := join g rest) hs hp

/-! ### Candidates -/

theorem mentionsInt_iff (s : List Char) : mentionsInt s = true ↔ ['i', 'n', 't'] <:+: s := by
  induction s using mentionsInt.induct with
  | case1 s => simp only [mentionsInt, true_iff]; exact List.IsPrefix.isInfix ⟨s, rfl⟩
  | case2 c s hne ih =>
    have hpre : ¬ ['i', 'n', 't'] <+: c :: s := by
      rintro ⟨r, hr⟩
      obtain ⟨rfl, rfl⟩ := List.cons.inj hr
      exact hne r rfl rfl
    rw [mentionsInt, ih, List.infix_cons_iff, or_iff_right hpre]
    exact hne
  | case3 => simp [mentionsInt]

theorem isCandidate_iff {h : List Char} :
    isCandidate h = true ↔ ['i', 'n', 't'] <:+: h ∧ '<' ∈ h := by
  rw [isCandidate, Bool.and_eq_true, mentionsInt_iff, List.contains_iff_mem]

/-- **Every text has exactly one proper division, and its headers are those the search finds.** The
candidates are, in the same order, the ones that hold `int` and `<`. -/
theorem headers_division (t : List Char) :
    (∃ d : Division, d.headers = headers t ∧ ∀ d' : Division, d'.text = t ∧ d'.Proper ↔ d' = d) ∧
      candidates t = (headers t).filter fun h => ['i', 'n', 't'] <:+: h ∧ '<' ∈ h := by
  refine ⟨?_, List.filter_congr fun h _ => ?_⟩
  · obtain ⟨d, ht, hd, hh⟩ := exists_proper t
    refine ⟨d, hh, fun d' => ⟨fun ⟨ht', hd'⟩ => hd'.eq hd (ht'.trans ht.symm), ?_⟩⟩
    rintro rfl
    exact ⟨ht, hd⟩
  · rw [Bool.eq_iff_iff, isCandidate_iff, decide_eq_true_iff]

end LoopAdvice.Loop
