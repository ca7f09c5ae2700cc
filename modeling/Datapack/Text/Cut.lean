import Datapack.Text.Utf8

namespace Datapack.Text

/-- The text after its first `n` bytes in UTF-8, if a character ends there. -/
def dropBytes? : Nat → Text → Option Text
  | 0, t => some t
  | _ + 1, [] => none
  | n + 1, c :: t => if c.utf8Size ≤ n + 1 then dropBytes? (n + 1 - c.utf8Size) t else none

def takeBytes? : Nat → Text → Option Text
  | 0, _ => some []
  | _ + 1, [] => none
  | n + 1, c :: t =>
      if c.utf8Size ≤ n + 1 then (takeBytes? (n + 1 - c.utf8Size) t).map (c :: ·) else none

def cut? (start size : Nat) (t : Text) : Option Text :=
  (t.dropBytes? start).bind (takeBytes? size)

end Datapack.Text
