import Datapack.Text.Class

namespace Datapack.Text

def splitPairs : Text → List Text
  | [] => [[]]
  | '\r' :: '\n' :: t => [] :: splitPairs t
  | c :: t => (splitPairs t).modifyHead (c :: ·)

/-- The lines of a text end in a line feed, a carriage return or the two in
this order. A terminator at the very end does not begin another line. -/
def lines (t : Text) : List Text :=
  let pieces := (splitPairs t).flatMap (List.splitOnP isLineBreak)
  match t.getLast? with
  | none => []
  | some c => if isLineBreak c then pieces.dropLast else pieces

end Datapack.Text
