/-! # Suggestions

A suggestion is a kind of advice and a sentence. Three are ever given, one of each kind. -/

namespace LoopAdvice

inductive SuggestionKind
  | parallelize
  | vectorize
  | memory
  deriving DecidableEq, Repr

namespace SuggestionKind

def word : SuggestionKind → String
  | parallelize => "parallelize"
  | vectorize => "vectorize"
  | memory => "memory"

theorem word_injective {k l : SuggestionKind} (h : k.word = l.word) : k = l := by
  cases k <;> cases l <;> simp_all [word]

end SuggestionKind

structure Suggestion where
  kind : SuggestionKind
  text : String
  deriving DecidableEq, Repr

namespace Suggestion

def parallelize : Suggestion :=
  ⟨.parallelize, "Consider parallelizing the loop using DPC++ or OpenMP."⟩

def vectorize : Suggestion :=
  ⟨.vectorize, "Try using SIMD vectorization for eligible loops using Intel's Vectorization Advisor."⟩

def memory : Suggestion :=
  ⟨.memory, "Consider optimizing memory access patterns to improve cache usage."⟩

end Suggestion

end LoopAdvice
