import Datapack.Text.Basic

namespace Datapack.Text

/-- One pass from left to right: where a phrase of the table begins, its
replacement is written and the phrase skipped, elsewhere a character is copied.
The count says how many characters of the last phrase remain to be skipped, so
the recursion is on the text. Phrases are not empty. -/
def substituteFrom (table : List (Text × Text)) : Nat → Text → Text
  | _, [] => []
  | n + 1, _ :: t => substituteFrom table n t
  | 0, c :: t => match table.find? (fun entry => entry.1.isPrefixOf (c :: t)) with
    | some (phrase, replacement) => replacement ++ substituteFrom table (phrase.length - 1) t
    | none => c :: substituteFrom table 0 t

def substitute (table : List (Text × Text)) (t : Text) : Text := substituteFrom table 0 t

end Datapack.Text
