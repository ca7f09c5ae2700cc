import Datapack.Pattern.Mode

namespace Datapack.Pattern

inductive Atom
  | char (c : Char) (byte : Bool)
  | anyChar
  | family (negated : Bool)
  | category
  | place (words : Bool)
  deriving DecidableEq, Repr

def isAscii (c : Char) : Bool := c.toNat < 128

namespace Atom

/-- No match may end inside a character, and where a word ends in the middle of a
text is known for ASCII alone. -/
def fits (mode : Mode) : Atom → Bool
  | .char c byte => mode.unicode || !byte || isAscii c
  | .anyChar | .category => mode.unicode
  | .family negated => mode.mayNegate || !negated
  | .place words => !(mode.unicode && words)

def fitsBrackets (mode : Mode) : Atom → Bool
  | .char c _ => mode.unicode || isAscii c
  | .category => mode.unicode
  | .family negated => mode.mayNegate || !negated
  | .anyChar | .place _ => false

end Atom

def hexDigit? (c : Char) : Option Nat :=
  if c.isDigit then some (c.toNat - '0'.toNat)
  else if 'a' ≤ c && c ≤ 'f' then some (c.toNat - 'a'.toNat + 10)
  else if 'A' ≤ c && c ≤ 'F' then some (c.toNat - 'A'.toNat + 10)
  else none

def hexNumber? (mode : Mode) : (count : Nat) → (value : Nat) → Text → Option (Nat × Text)
  | 0, value, t => some (value, t)
  | count + 1, value, t => match mode.skip t with
    | [] => none
    | c :: t => match hexDigit? c with
      | none => none
      | some digit => hexNumber? mode count (16 * value + digit) t

def codePoint? (mode : Mode) (digits : Nat) (t : Text) : Option (Atom × Text) :=
  match hexNumber? mode digits 0 t with
  | none => none
  | some (n, rest) =>
      if n.isValidChar then some (.char (Char.ofNat n) (digits = 2), rest) else none

def categories : List Char := ['c', 'l', 'm', 'n', 'p', 's', 'z']

def category? (mode : Mode) (t : Text) : Option (Atom × Text) :=
  match mode.skip t with
  | [] => none
  | c :: rest => if c.toLower ∈ categories then some (.category, rest) else none

/-- What follows a backslash. Letters and digits have a meaning or are refused,
and other characters of ASCII stand for themselves. -/
def escape? (mode : Mode) : Text → Option (Atom × Text)
  | [] => none
  | 'x' :: t => codePoint? mode 2 t
  | 'u' :: t => codePoint? mode 4 t
  | 'U' :: t => codePoint? mode 8 t
  | 'a' :: t => some (.char '\x07' false, t)
  | 't' :: t => some (.char '\t' false, t)
  | 'n' :: t => some (.char '\n' false, t)
  | 'v' :: t => some (.char '\x0b' false, t)
  | 'f' :: t => some (.char '\x0c' false, t)
  | 'r' :: t => some (.char '\r' false, t)
  | c :: t =>
      if c = 'p' || c = 'P' then category? mode t
      else if c = 'd' || c = 's' || c = 'w' then some (.family false, t)
      else if c = 'D' || c = 'S' || c = 'W' then some (.family true, t)
      else if c = 'A' || c = 'z' then some (.place false, t)
      else if c = 'b' || c = 'B' || c = '<' || c = '>' then some (.place true, t)
      else if isAscii c && !c.isAlphanum then some (.char c false, t)
      else none

end Datapack.Pattern
