import Datapack.Text.Basic

namespace Datapack

/-- The six blanks that separate words in a script. The line feed is one of
them, although no payload may hold it. -/
def isBlank (c : Char) : Bool :=
  c = ' ' || c = '\t' || c = '\n' || c = '\x0b' || c = '\x0c' || c = '\r'

def isNameChar (c : Char) : Bool := c.isAlphanum || c = '_'

def isLineBreak (c : Char) : Bool := c = '\n' || c = '\r'

def isMargin (c : Char) : Bool := c ≤ ' '

/-- Unicode property White_Space, in code point order. -/
def isWhiteSpace (c : Char) : Bool :=
  ('\t' ≤ c && c ≤ '\r') || c = ' ' || c = '\u0085' || c = '\u00a0' || c = '\u1680' ||
    ('\u2000' ≤ c && c ≤ '\u200a') || c = '\u2028' || c = '\u2029' || c = '\u202f' ||
    c = '\u205f' || c = '\u3000'

theorem isMargin_of_isBlank {c : Char} (h : isBlank c) : isMargin c := by
  simp only [isBlank, Bool.or_eq_true, decide_eq_true_eq] at h
  rcases h with ((((rfl | rfl) | rfl) | rfl) | rfl) | rfl <;> decide

theorem isNameChar_eq_false_of_isBlank {c : Char} (h : isBlank c) : isNameChar c = false := by
  simp only [isBlank, Bool.or_eq_true, decide_eq_true_eq] at h
  rcases h with ((((rfl | rfl) | rfl) | rfl) | rfl) | rfl <;> decide

end Datapack
