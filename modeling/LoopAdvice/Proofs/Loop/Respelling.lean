import LoopAdvice.Proofs.Run.Course
import LoopAdvice.Proofs.Loop.Division

/-! # Texts that are spelled otherwise

The search compares characters with ten *marks* and asks which are blank. A *spelling* writes a word
for every character; it is `Faithful` if the marks stand for themselves and occur in no other word,
and if the words are not empty and as blank as what they stand for. Of the marks only the line break
may have other blanks in its word.

What starts with a mark starts in no word that stands for another character, so the leftmost one is
found where it was (`Faithful.leftmost_flatMap`). This goes for openings and for `int`, so that the
headers and the candidates of a text that is spelled otherwise are those of the text, spelled
otherwise (`Faithful.headers_flatMap`, `Faithful.candidates_flatMap`). A map of characters that keeps
the marks and the blanks is a spelling with words of one character, and line breaks that are written
with a carriage return are one with a word of two. Main statements: `headers_map`, `headers_crlf`. -/

namespace LoopAdvice.Loop

/-- The characters that are told apart. -/
def marks : List Char := ['f', 'o', 'r', '(', ')', 'i', 'n', 't', '<', '\n']

/-- A spelling in which the marks can be told apart as before. -/
structure Faithful (w : Char → List Char) : Prop where
  mark : ∀ c ∈ marks, c ≠ '\n' → w c = [c]
  mem_iff : ∀ c ∈ marks, ∀ x, c ∈ w x ↔ x = c
  ne_nil : ∀ x, w x ≠ []
  blank : ∀ x, ∀ y ∈ w x, isBlank y = isBlank x

/-- `int` is mentioned where a leftmost place for it can be found. -/
theorem mentionsInt_eq_isSome (s : List Char) :
    mentionsInt s = (leftmost (fun u => ['i', 'n', 't'] <+: u) s).isSome := by
  rw [Bool.eq_iff_iff, mentionsInt_iff, Option.isSome_iff_ne_none, Ne, leftmost_eq_none_iff,
    List.infix_iff_prefix_suffix]
  constructor
  · rintro ⟨u, hu, hus⟩ hno
    exact hno u hus hu
  · intro h
    by_contra hno
    exact h fun u hus hu => hno ⟨u, hu, hus⟩

namespace Faithful
variable {w : Char → List Char} (hw : Faithful w)
include hw

/-! ### Marks and blanks -/

theorem mem_flatMap_iff {c : Char} (hc : c ∈ marks) {u : List Char} : c ∈ u.flatMap w ↔ c ∈ u := by
  rw [List.mem_flatMap]
  constructor
  · rintro ⟨x, hx, hcx⟩
    rwa [← (hw.mem_iff c hc x).mp hcx]
  · intro hcu
    exact ⟨c, hcu, (hw.mem_iff c hc c).mpr rfl⟩

/-- Every word starts with a character that is as blank as what the word stands for, and is a mark only
if that is the same mark. -/
theorem exists_cons (x : Char) :
    ∃ y ys, w x = y :: ys ∧ isBlank y = isBlank x ∧ ∀ c ∈ marks, x ≠ c → y ≠ c := by
  obtain ⟨y, ys, hy⟩ := List.exists_cons_of_ne_nil (hw.ne_nil x)
  have hmem : y ∈ w x := hy ▸ List.mem_cons_self
  refine ⟨y, ys, hy, hw.blank x y hmem, fun c hc hxc hyc => hxc ?_⟩
  exact (hw.mem_iff c hc x).mp (hyc ▸ hmem)

theorem prefix_flatMap_iff : ∀ {m u : List Char}, (∀ c ∈ m, c ∈ marks ∧ c ≠ '\n') →
    (m <+: u.flatMap w ↔ m <+: u)
  | [], _, _ => by simp
  | c :: m, [], _ => by simp
  | c :: m, x :: u, hm => by
    obtain ⟨hc, hn⟩ := hm c List.mem_cons_self
    have ih := prefix_flatMap_iff (u := u) fun d hd => hm d (List.mem_cons_of_mem c hd)
    rw [List.flatMap_cons]
    by_cases hxc : x = c
    · rw [hxc, hw.mark c hc hn, List.singleton_append, List.cons_prefix_cons, List.cons_prefix_cons,
        ih]
    · obtain ⟨y, ys, hy, -, hyc⟩ := hw.exists_cons x
      have hcy : c ≠ y := (hyc c hc hxc).symm
      rw [hy, List.cons_append, List.cons_prefix_cons, List.cons_prefix_cons]
      simp [hcy, Ne.symm hxc]

theorem dropWhile_flatMap (u : List Char) :
    (u.flatMap w).dropWhile isBlank = (u.dropWhile isBlank).flatMap w := by
  induction u with
  | nil => rfl
  | cons x u ih =>
    rw [List.flatMap_cons]
    cases hx : isBlank x with
    | true =>
      have hall : ∀ y ∈ w x, isBlank y = true := fun y hy => (hw.blank x y hy).trans hx
      rw [List.dropWhile_append_of_pos hall, ih, List.dropWhile_cons_of_pos hx]
    | false =>
      obtain ⟨y, ys, hy, hblank, -⟩ := hw.exists_cons x
      rw [List.dropWhile_cons_of_neg (by simp [hx]), List.flatMap_cons, hy, List.cons_append,
        List.dropWhile_cons_of_neg (by simp [hblank, hx])]

/-! ### Openings -/

theorem isOpening_flatMap_iff {u : List Char} : IsOpening (u.flatMap w) ↔ IsOpening u := by
  rw [isOpening_iff, isOpening_iff, hw.prefix_flatMap_iff (by simp [letters, marks])]
  refine and_congr_right ?_
  rintro ⟨v, rfl⟩
  have hletters : (letters ++ v).flatMap w = letters ++ v.flatMap w := by
    rw [List.flatMap_append]
    simp [letters, hw.mark 'f' (by decide), hw.mark 'o' (by decide), hw.mark 'r' (by decide)]
  have hdrop : ∀ x : List Char, (letters ++ x).drop 3 = x := fun _ => rfl
  rw [hletters, hdrop, hdrop, hw.dropWhile_flatMap]
  cases hz : v.dropWhile isBlank with
  | nil => simp
  | cons c z =>
    rw [List.flatMap_cons]
    by_cases hc : c = '('
    · rw [hc, hw.mark '(' (by decide) (by decide)]
      simp [hw.mem_flatMap_iff (c := '\n') (by decide)]
    · obtain ⟨y, ys, hy, -, hyc⟩ := hw.exists_cons c
      have hparen : y ≠ '(' := hyc '(' (by decide) hc
      rw [hy]
      simp [hc, hparen]

/-! ### What starts with a mark -/

/-- **The leftmost suffix with a property that starts with a mark is found where it was.** -/
theorem leftmost_flatMap {P : List Char → Prop} [DecidablePred P] {a : Char} (ha : a ∈ marks)
    (hn : a ≠ '\n') (hP : ∀ u, P u → u.head? = some a) (hPw : ∀ u, P (u.flatMap w) ↔ P u)
    (s : List Char) : leftmost P (s.flatMap w) = (leftmost P s).map (List.flatMap w) := by
  induction s with
  | nil =>
    have hnil : ¬ P [] := fun h => nomatch hP [] h
    rw [List.flatMap_nil, leftmost_nil, if_neg hnil]
    rfl
  | cons x s ih =>
    by_cases hx : x = a
    · have hcons : (x :: s).flatMap w = x :: s.flatMap w := by
        rw [List.flatMap_cons, hx, hw.mark a ha hn, List.singleton_append]
      have hiff := hPw (x :: s)
      rw [hcons] at hiff
      rw [hcons, leftmost_cons, leftmost_cons, ih]
      by_cases h : P (x :: s)
      · rw [if_pos h, if_pos (hiff.mpr h), Option.map_some, hcons]
      · rw [if_neg h, if_neg fun h' => h (hiff.mp h')]
    · -- nothing starts in the word, as nothing starts with the character
      have hword : a ∉ w x := fun h => hx ((hw.mem_iff a ha x).mp h)
      have hchar : a ∉ [x] := fun h => hx (List.mem_singleton.mp h).symm
      rw [List.flatMap_cons, leftmost_append_of_not_mem hP hword, ih, ← List.singleton_append (l := s),
        leftmost_append_of_not_mem hP hchar]

theorem closed?_flatMap (s : List Char) :
    closed? (s.flatMap w) = (closed? s).map (List.flatMap w) := by
  unfold closed?
  rw [hw.leftmost_flatMap (a := 'f') (by decide) (by decide) (fun _ => IsOpening.head?_eq)
    (fun _ => hw.isOpening_flatMap_iff), Option.map_map, Option.map_map]
  congr 1
  funext u
  simp [hw.mark ')' (by decide)]

theorem mentionsInt_flatMap (s : List Char) : mentionsInt (s.flatMap w) = mentionsInt s := by
  have hhead : ∀ u : List Char, ['i', 'n', 't'] <+: u → u.head? = some 'i' := by
    rintro _ ⟨v, rfl⟩
    rfl
  rw [mentionsInt_eq_isSome, mentionsInt_eq_isSome, hw.leftmost_flatMap (a := 'i') (by decide)
    (by decide) hhead (fun _ => hw.prefix_flatMap_iff (by simp [marks])), Option.isSome_map]

/-! ### Headers and candidates -/

/-- **The headers are those of the text, spelled otherwise.** -/
theorem headers_flatMap (t : List Char) :
    headers (t.flatMap w) = (headers t).map (List.flatMap w) := by
  have hclose : ∀ {s : List Char}, ')' ∉ s → ')' ∉ s.flatMap w := fun hs h =>
    hs ((hw.mem_flatMap_iff (by decide)).mp h)
  induction t using close_induction with
  | last s hs =>
    rw [headers_of_not_mem hs, headers_of_not_mem (hclose hs)]
    rfl
  | close s t hs ih =>
    rw [List.flatMap_append, List.flatMap_cons, hw.mark ')' (by decide) (by decide),
      List.singleton_append, headers_append_close (hclose hs), headers_append_close hs,
      List.map_append, ih, hw.closed?_flatMap]
    cases closed? s <;> rfl

theorem isCandidate_flatMap (h : List Char) : isCandidate (h.flatMap w) = isCandidate h := by
  have hless : (h.flatMap w).contains '<' = h.contains '<' := by
    rw [Bool.eq_iff_iff, List.contains_iff_mem, List.contains_iff_mem]
    exact hw.mem_flatMap_iff (by decide)
  rw [isCandidate, isCandidate, hw.mentionsInt_flatMap, hless]

/-- **The candidates are those of the text, spelled otherwise.** -/
theorem candidates_flatMap (t : List Char) :
    candidates (t.flatMap w) = (candidates t).map (List.flatMap w) := by
  rw [candidates, candidates, hw.headers_flatMap, List.filter_map]
  congr 1
  exact List.filter_congr fun h _ => hw.isCandidate_flatMap h

end Faithful

/-! ### Maps of characters -/

/-- A map of characters that keeps the marks, to which nothing else goes, and the blanks. -/
structure KeepsMarks (f : Char → Char) : Prop where
  mark : ∀ c ∈ marks, ∀ x, f x = c ↔ x = c
  blank : ∀ x, isBlank (f x) = isBlank x

theorem KeepsMarks.faithful {f : Char → Char} (hf : KeepsMarks f) : Faithful fun c => [f c] where
  mark c hc _ := by rw [(hf.mark c hc c).mpr rfl]
  mem_iff c hc x := by rw [List.mem_singleton, eq_comm, hf.mark c hc x]
  ne_nil x := List.cons_ne_nil _ _
  blank x y hy := by rw [List.mem_singleton.mp hy, hf.blank x]

/-- Puts one character in the place of another. -/
def rename (x y : Char) (c : Char) : Char := if c = x then y else c

/-- Characters that are not told apart can be renamed. -/
theorem keepsMarks_rename {x y : Char} (hx : x ∉ marks) (hy : y ∉ marks)
    (hblank : isBlank y = isBlank x) : KeepsMarks (rename x y) where
  mark c hc z := by
    have hxc : x ≠ c := fun h => hx (h ▸ hc)
    have hyc : y ≠ c := fun h => hy (h ▸ hc)
    unfold rename
    split_ifs with hz
    · simp [hz, hxc, hyc]
    · rfl
  blank z := by
    unfold rename
    split_ifs with hz
    · rw [hz, hblank]
    · rfl

/-- **Only the marks and the blanks matter.** Where a map keeps them, headers and candidates are
mapped along and a scan adds the same suggestions; so it is where a character that is no mark is put in
the place of another, both blank or neither. -/
theorem headers_map (t : List Char) :
    (∀ f, KeepsMarks f →
      headers (t.map f) = (headers t).map (List.map f) ∧
      candidates (t.map f) = (candidates t).map (List.map f) ∧
      ∀ s : Session, s.scan (t.map f) = s.scan t) ∧
    ∀ x y, x ∉ marks → y ∉ marks → isBlank y = isBlank x →
      ∀ s : Session, s.scan (t.map (rename x y)) = s.scan t := by
  have hcandidates : ∀ f, KeepsMarks f →
      candidates (t.map f) = (candidates t).map (List.map f) := fun f hf => by
    simpa only [List.map_eq_flatMap] using hf.faithful.candidates_flatMap t
  have hscan : ∀ f, KeepsMarks f → ∀ s : Session, s.scan (t.map f) = s.scan t := fun f hf s => by
    rw [Session.scan, Session.scan, Session.earned, Session.earned, hcandidates f hf, List.map_map]
    rfl
  refine ⟨fun f hf => ⟨?_, hcandidates f hf, hscan f hf⟩, fun x y hx hy hblank => ?_⟩
  · simpa only [List.map_eq_flatMap] using hf.faithful.headers_flatMap t
  · exact hscan _ (keepsMarks_rename hx hy hblank)

/-- Tabs become spaces, and what could not be decoded becomes a question mark. -/
theorem headers_map_tabs :
    let t := "for\t(int\ti < n)for\uFFFD(int j < n)".toList
    let s : Session := { path := [0x61] }
    KeepsMarks (rename '\t' ' ') ∧
      headers (t.map (rename '\t' ' ')) = ["for (int i < n)".toList] ∧
      candidates (t.map (rename '\t' ' ')) = ["for (int i < n)".toList] ∧
      s.scan (t.map (rename '\t' ' ')) = s.scan t ∧
    '\uFFFD' ∉ marks ∧ '?' ∉ marks ∧ isBlank '?' = isBlank '\uFFFD' ∧
      s.scan (t.map (rename '\uFFFD' '?')) = s.scan t := by
  intro t s
  have htab : KeepsMarks (rename '\t' ' ') := keepsMarks_rename (by decide) (by decide) (by decide)
  obtain ⟨hmap, hrename⟩ := headers_map t
  obtain ⟨hheaders, hcandidates, hscan⟩ := hmap _ htab
  exact ⟨htab, hheaders.trans (by decide), hcandidates.trans (by decide), hscan s, by decide,
    by decide, by decide, hrename '\uFFFD' '?' (by decide) (by decide) (by decide) s⟩

/-! ### Line endings -/

/-- The word that spells a character where a line break is written with a carriage return. -/
def withReturn (c : Char) : List Char := if c = '\n' then ['\r', '\n'] else [c]

/-- A text with a carriage return put in before every line break. -/
def crlf (t : List Char) : List Char := t.flatMap withReturn

theorem faithful_withReturn : Faithful withReturn where
  mark c _ hn := if_neg hn
  mem_iff c hc x := by
    have hr : c ≠ '\r' := fun h => absurd (h ▸ hc) (by decide)
    unfold withReturn
    split_ifs with hx
    · simp [hx, hr, eq_comm]
    · simp [eq_comm]
  ne_nil x := by
    unfold withReturn
    split_ifs
    · exact List.cons_ne_nil _ _
    · exact List.cons_ne_nil _ _
  blank x y hy := by
    unfold withReturn at hy
    split_ifs at hy with hx
    · have hreturn : isBlank '\r' = isBlank '\n' := by decide
      rcases List.mem_pair.mp hy with rfl | rfl
      · rw [hx, hreturn]
      · rw [hx]
    · rw [List.mem_singleton.mp hy]

/-- **Carriage returns before the line breaks do not change the advice**: headers and candidates are
those of the text, with the carriage returns put in, and a scan finds as many. -/
theorem headers_crlf (t : List Char) :
    headers (crlf t) = (headers t).map crlf ∧
      candidates (crlf t) = (candidates t).map crlf ∧
      ∀ p : Progress, (Advisor.scan (crlf t)).answer p = (Advisor.scan t).answer p := by
  have hcandidates : candidates (crlf t) = (candidates t).map crlf :=
    faithful_withReturn.candidates_flatMap t
  have hcount : ∀ (u : List Char) (p : Progress),
      (Advisor.scan u).answer p = .ok (candidates u).length := fun u p => rfl
  refine ⟨faithful_withReturn.headers_flatMap t, hcandidates, fun p => ?_⟩
  rw [hcount, hcount, hcandidates, List.length_map]

/-- The blanks of a keyword take up a carriage return, and a clause is broken off as before. -/
example : headers (crlf "for \n(int i < n) for (int j\n < n)".toList) =
    ["for \r\n(int i < n)".toList] := by decide

end LoopAdvice.Loop
