import Datapack.Text.Substitute

namespace Datapack.Conditions

/-- Script phrases and the target selectors they stand for. The second phrase
is implied by the context in which a function runs, so nothing replaces it. -/
def vocabulary : List (Text × Text) :=
  [("Player.all".toList, "@a".toList), (" at current".toList, [])]

def toSelectors (conditions : Text) : Text :=
  vocabulary.foldl (fun t entry => t.substitute [entry]) conditions

end Datapack.Conditions
