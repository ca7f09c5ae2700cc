import Datapack.Text.Lines

namespace Datapack

structure Line where
  number : Nat
  raw : Text
  trimmed : Text
  deriving DecidableEq, Repr

namespace Line

/-- Only control characters and spaces are margin, other blanks of Unicode stay. -/
def trim (t : Text) : Text := t.strip isMargin

def ofNumbered (raw : Text) (number : Nat) : Line := ⟨number, raw, trim raw⟩

end Line

def Source.lines (t : Text) : List Line :=
  (t.lines.zipIdx 1).map (fun entry => Line.ofNumbered entry.1 entry.2)

end Datapack
