import LoopAdvice.Proofs.Json.Reading
import LoopAdvice.Proofs.Json.Strings
import LoopAdvice.Proofs.Session.History
import LoopAdvice.Proofs.Text.RoundTrip

/-! # Reading reports

A report is read back from either form. The document is found again in the JSON form, with the path as
it is displayed, the flag and the suggestions in order, and the texts of the suggestions are found in
the lines of the text form. Main statement: `report_round_trip`, by which two reports that differ are
never written alike in the JSON form. -/

namespace LoopAdvice

/-! ### Documents -/

namespace Json.Value

/-- The value of the first field with a name. -/
def field? (name : String) : Value → Option Value
  | .object fields => fields.lookup name.toList
  | _ => none

def array? : Value → Option (List Value)
  | .array items => some items
  | _ => none

def string? : Value → Option String
  | .string s => some (String.ofList s)
  | _ => none

end Json.Value

theorem mapM_map_eq_some {α β γ : Type} {f : α → β} {g : β → Option γ} {h : α → γ}
    (hg : ∀ x, g (f x) = some (h x)) (l : List α) : (l.map f).mapM g = some (l.map h) := by
  rw [List.mapM_map, show g ∘ f = fun x => pure (h x) from funext hg, List.mapM_pure]
  rfl

namespace Report

/-- The texts of the suggestions in a document, in order. -/
def textsIn? (document : Json.Value) : Option (List String) := do
  let suggestions ← document.field? "suggestions"
  (← suggestions.array?).mapM fun s => do (← s.field? "text").string?

theorem textsIn?_toValue (r : Report) :
    textsIn? r.toValue = some (r.suggestions.map Suggestion.text) := by
  have hsuggestions : r.toValue.field? "suggestions" =
      some (.array (r.suggestions.map suggestionValue)) := rfl
  have htext : ∀ s, (suggestionValue s).field? "text" = some (.string s.text.toList) :=
    fun _ => rfl
  rw [textsIn?, hsuggestions]
  refine mapM_map_eq_some (fun s => ?_) _
  rw [htext]
  exact congrArg some String.ofList_toList

theorem toList_toJson (r : Report) : r.toJson.toList = Json.render 0 r.toValue ++ ['\n'] := by
  rw [toJson, String.toList_append, String.toList_ofList]
  rfl

/-- The document of a report is read back from its JSON form, and leaves the line break. -/
theorem value?_toJson (r : Report) :
    Json.value? (r.toJson.toList.length + 1) r.toJson.toList = some (r.toValue, ['\n']) := by
  rw [toList_toJson]
  refine Json.value?_render _ _ _ _ ?_
  rw [List.length_append]
  omega

theorem document?_toJson (r : Report) : Json.document? r.toJson.toList = some r.toValue := by
  rw [toList_toJson, Json.document?_render]
  rfl

/-- The texts of a report are found in its JSON form. -/
theorem textsIn?_toJson (r : Report) : (Json.document? r.toJson.toList).bind textsIn? =
    some (r.suggestions.map Suggestion.text) := by
  rw [document?_toJson, Option.bind_some, textsIn?_toValue]

theorem neat_toJson (r : Report) : Json.Neat r.toJson.toList := by
  rw [toList_toJson]
  exact (Json.neat_render _ _).append (.of_not_mem (by decide))

/-- Different reports have different documents. -/
theorem toValue_injective {r s : Report} (h : r.toValue = s.toValue) : r = s := by
  obtain ⟨input, loaded, suggestions⟩ := r
  obtain ⟨input', loaded', suggestions'⟩ := s
  have hvalue : Function.Injective suggestionValue := fun x y hxy => by
    simp only [suggestionValue, Json.Value.object.injEq, List.cons.injEq, Prod.mk.injEq,
      Json.Value.string.injEq, true_and, and_true, String.toList_inj] at hxy
    obtain ⟨hkind, htext⟩ := hxy
    exact congrArg₂ Suggestion.mk (SuggestionKind.word_injective hkind) htext
  simp only [toValue, Json.Value.object.injEq, List.cons.injEq, Prod.mk.injEq,
    Json.Value.string.injEq, Json.Value.bool.injEq, Json.Value.array.injEq, true_and, and_true,
    String.toList_inj, hvalue.list_map.eq_iff] at h
  obtain ⟨rfl, rfl, rfl⟩ := h
  rfl

/-- Reports that differ are never written alike in the JSON form. -/
theorem toJson_injective {r s : Report} (h : Utf8.bytesOf r.toJson = Utf8.bytesOf s.toJson) :
    r = s := by
  have hread : ∀ r : Report, Utf8.decode? (Utf8.bytesOf r.toJson) = some r.toJson.toList :=
    fun r => Utf8.decode?_encode _
  have hjson : r.toJson.toList = s.toJson.toList :=
    Option.some.inj ((hread r).symm.trans ((congrArg Utf8.decode? h).trans (hread s)))
  refine toValue_injective (Option.some.inj ?_)
  rw [← document?_toJson, ← document?_toJson, hjson]

/-! ### Lines -/

def heading : List Char := "Optimization suggestions:".toList

/-- The text after the dash of a line. -/
def item? : List Char → Option String
  | ' ' :: '-' :: ' ' :: text => some (String.ofList text)
  | _ => none

/-- The texts after the blank line and the heading, one a line; after the last line break there is
nothing. -/
def textsInLines? (text : List Char) : Option (List String) :=
  match text.splitOn '\n' with
  | [] :: first :: lines =>
    if first = heading ∧ lines.getLast? = some [] then
      lines.dropLast.mapM item?
    else none
  | _ => none

theorem splitOn_lines {α : Type} {f : α → List Char} {l : List α} (hf : ∀ x ∈ l, '\n' ∉ f x) :
    (l.flatMap fun x => f x ++ ['\n']).splitOn '\n' = l.map f ++ [[]] := by
  induction l with
  | nil => rfl
  | cons x l ih =>
    obtain ⟨hx, hl⟩ := List.forall_mem_cons.mp hf
    rw [List.flatMap_cons, List.append_assoc, List.singleton_append,
      List.splitOn_append_cons_self_of_not_mem hx, ih hl]
    rfl

/-- The line of a suggestion, less its line break. -/
def lineText (s : Suggestion) : List Char := [' ', '-', ' '] ++ s.text.toList

theorem toList_line (s : Suggestion) : (line s).toList = lineText s ++ ['\n'] := by
  have hdash : " - ".toList = [' ', '-', ' '] := by decide
  have hbreak : "\n".toList = ['\n'] := by decide
  rw [line, String.toList_append, String.toList_append, hdash, hbreak, lineText]

theorem toList_toText (r : Report) : r.toText.toList =
    '\n' :: (heading ++ '\n' :: r.suggestions.flatMap fun s => lineText s ++ ['\n']) := by
  have hheading : "\nOptimization suggestions:\n".toList = '\n' :: (heading ++ ['\n']) := by
    decide +kernel
  have hlines : (String.join (r.suggestions.map line)).toList =
      r.suggestions.flatMap fun s => lineText s ++ ['\n'] := by
    simp only [String.toList_join, List.flatMap_map, toList_line]
  calc r.toText.toList = "\nOptimization suggestions:\n".toList ++
        (String.join (r.suggestions.map line)).toList := String.toList_append
    _ = '\n' :: (heading ++ ['\n']) ++ r.suggestions.flatMap fun s => lineText s ++ ['\n'] :=
        congrArg₂ _ hheading hlines
    _ = _ := List.append_assoc ('\n' :: heading) ['\n'] _

/-- **The texts of a report are found in the lines of its text form**, if each is one line. -/
theorem textsInLines?_toText {r : Report} (h : ∀ s ∈ r.suggestions, '\n' ∉ s.text.toList) :
    textsInLines? r.toText.toList = some (r.suggestions.map Suggestion.text) := by
  have hline : ∀ s ∈ r.suggestions, '\n' ∉ lineText s := fun s hs => by
    simpa [lineText] using h s hs
  have hitem : ∀ s : Suggestion, item? (lineText s) = some s.text :=
    fun s => congrArg some String.ofList_toList
  have hsplit : r.toText.toList.splitOn '\n' =
      [] :: heading :: (r.suggestions.map lineText ++ [[]]) := by
    rw [toList_toText, ← List.nil_append ('\n' :: _),
      List.splitOn_append_cons_self_of_not_mem (by decide),
      List.splitOn_append_cons_self_of_not_mem (by decide), splitOn_lines hline]
  rw [textsInLines?, hsplit]
  dsimp only
  rw [if_pos ⟨rfl, List.getLast?_concat⟩, List.dropLast_concat]
  exact mapM_map_eq_some hitem _

/-! ### What is shown of a session -/

/-- A text shows a session and the flag: in the JSON format a reader finds one document with both in
it and then the line break, in the text format the texts follow the heading, one a line. -/
def Shows (shown : String) (s : Session) (loaded : Bool) : Format → Prop
  | .json => Json.value? (shown.toList.length + 1) shown.toList =
      some (.object [("schema".toList, .string "optadvise.report.v1".toList),
        ("input".toList, .string (Utf8.decodeLossy s.path)), ("loaded".toList, .bool loaded),
        ("suggestions".toList, .array (s.suggestions.map fun x => .object
          [("kind".toList, .string x.kind.word.toList), ("text".toList, .string x.text.toList)]))],
        ['\n'])
  | .text => shown = "\nOptimization suggestions:\n" ++
      String.join (s.suggestions.map fun x => " - " ++ x.text ++ "\n")

theorem shows_render (s : Session) (loaded : Bool) (format : Format) :
    Shows ((ofSession s loaded).render format) s loaded format := by
  cases format with
  | text => rfl
  | json =>
    have hinput : (Utf8.display s.path).toList = Utf8.decodeLossy s.path := String.toList_ofList
    refine ((ofSession s loaded).value?_toJson).trans ?_
    rw [toValue, ofSession, hinput]
    rfl

end Report

/-- Each text in a session that operations leave is one line. -/
theorem Session.Reachable.newline_not_mem_text {s : Session} (h : s.Reachable) :
    ∀ x ∈ s.suggestions, '\n' ∉ x.text.toList := by
  have hthree : ∀ x ∈ [Suggestion.parallelize, .vectorize, .memory], '\n' ∉ x.text.toList := by
    decide +kernel
  exact fun x hx => hthree x (h.subset hx)

/-- **A report is read back from either form.** -/
theorem report_round_trip (s : Session) (loaded : Bool) :
    let document : Json.Value := .object
      [("schema".toList, .string "optadvise.report.v1".toList),
        ("input".toList, .string (Utf8.decodeLossy s.path)), ("loaded".toList, .bool loaded),
        ("suggestions".toList, .array (s.suggestions.map fun x => .object
          [("kind".toList, .string x.kind.word.toList), ("text".toList, .string x.text.toList)]))]
    let written (s : Session) (loaded : Bool) (format : Format) :=
      Utf8.bytesOf ((Report.ofSession s loaded).render format)
    (∃ json, Utf8.decode? (written s loaded .json) = some json ∧
      Json.value? (json.length + 1) json = some (document, ['\n']) ∧
      Report.textsIn? document = some s.texts ∧ Json.Neat json) ∧
    (s.Reachable → ∃ text, Utf8.decode? (written s loaded .text) = some text ∧
      Report.textsInLines? text = some s.texts) ∧
    ∀ (s' : Session) (loaded' : Bool), written s' loaded' .json = written s loaded .json →
      Utf8.display s'.path = Utf8.display s.path ∧ loaded' = loaded ∧
        s'.suggestions = s.suggestions := by
  intro document written
  have hdocument : (Report.ofSession s loaded).toValue = document := by
    simp only [Report.toValue, Report.ofSession, Utf8.display, String.toList_ofList]
    rfl
  refine ⟨⟨_, Utf8.decode?_encode _, ?_, ?_, Report.neat_toJson _⟩,
    fun hs => ⟨_, Utf8.decode?_encode _, Report.textsInLines?_toText hs.newline_not_mem_text⟩,
    fun s' loaded' hsame => ?_⟩
  · exact hdocument ▸ (Report.ofSession s loaded).value?_toJson
  · exact hdocument ▸ (Report.ofSession s loaded).textsIn?_toValue
  · have hreport : Report.ofSession s' loaded' = Report.ofSession s loaded :=
      Report.toJson_injective hsame
    simpa only [Report.ofSession, Report.mk.injEq] using hreport

end LoopAdvice
