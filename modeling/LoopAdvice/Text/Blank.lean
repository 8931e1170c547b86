/-! # White space

The characters with the Unicode property `White_Space`. They are what may stand between the keyword
of a loop and its opening parenthesis, line breaks included. -/

namespace LoopAdvice

/-- Membership in `White_Space`. -/
def isBlank (c : Char) : Bool :=
  c = ' ' || ('\t' ≤ c && c ≤ '\r') || c = '\u0085' || c = '\u00A0' || c = '\u1680' ||
    ('\u2000' ≤ c && c ≤ '\u200A') || c = '\u2028' || c = '\u2029' || c = '\u202F' ||
    c = '\u205F' || c = '\u3000'

theorem isBlank_open : isBlank '(' = false := by decide

theorem isBlank_close : isBlank ')' = false := by decide

end LoopAdvice
