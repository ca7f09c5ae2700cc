import Datapack.Text.Class

namespace Datapack.Pattern

/-- How the text of a pattern is taken. If it is `spaced`, blanks and comments in
it stand for nothing. A pattern that is not `unicode` is one of bytes. -/
structure Mode where
  spaced : Bool
  unicode : Bool
  deriving DecidableEq, Repr

def dropBlanks : (inComment : Bool) → Text → Text
  | _, [] => []
  | true, c :: t => dropBlanks (c ≠ '\n') t
  | false, c :: t =>
      if c = '#' then dropBlanks true t
      else if isWhiteSpace c then dropBlanks false t
      else c :: t

namespace Mode

def initial : Mode := ⟨false, true⟩

def skip (mode : Mode) (t : Text) : Text := if mode.spaced then dropBlanks false t else t

/-- The next character that is neither a blank nor the first sign of a comment,
which is less than `skip` passes over. -/
def peek (mode : Mode) (t : Text) : Option Char :=
  if !mode.spaced then t.head?
  else
    let rest := match t.dropWhile isWhiteSpace with
      | '#' :: comment => comment.dropWhile isWhiteSpace
      | rest => rest
    (rest ++ t).head?

/-- A set of bytes without what is in it would hold bytes above ASCII, which are no
characters. -/
def mayNegate (mode : Mode) : Bool := mode.unicode

def change (mode : Mode) (flags : Text) : Mode :=
  let on := flags.takeWhile (· ≠ '-')
  let state (flag : Char) (old : Bool) := if flags.contains flag then on.contains flag else old
  ⟨state 'x' mode.spaced, state 'u' mode.unicode⟩

end Mode

end Datapack.Pattern
