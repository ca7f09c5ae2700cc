import Datapack.Pattern.Mode
import Datapack.Text.Alphanumeric

namespace Datapack.Pattern

inductive Opening
  | group (name : Option Text) (mode : Mode)
  | flags (mode : Mode)
  deriving DecidableEq, Repr

namespace Opening

def flagLetters : Text := "imsUuRx".toList

/-- Flags up to a colon or a closing parenthesis, of which none may occur twice.
Those so far are `seen`, last first. A minus sign needs a flag after it. -/
def flags? : (seen : Text) → Text → Option (Text × Text)
  | _, [] => none
  | seen, c :: t =>
      if c = ':' || c = ')' then if seen.head? = some '-' then none else some (seen.reverse, c :: t)
      else if (c = '-' || c ∈ flagLetters) && !seen.contains c then flags? (c :: seen) t
      else none

def isName : Text → Bool
  | [] => false
  | c :: t =>
      (c = '_' || isAlphabetic c) &&
        t.all (fun c => c = '_' || c = '.' || c = '[' || c = ']' || isAlphanumeric c)

def named? (mode : Mode) (t : Text) : Option (Opening × Text) :=
  let name := t.takeWhile (· ≠ '>')
  match t.drop name.length with
  | [] => none
  | _ :: rest => if isName name then some (.group (some name) mode, rest) else none

def ofText? (mode : Mode) (t : Text) : Option (Opening × Text) :=
  match mode.skip t with
  | '?' :: 'P' :: '<' :: t | '?' :: '<' :: t => named? mode t
  | '?' :: t => match flags? [] t with
    | some (letters, ':' :: rest) => some (.group none (mode.change letters), rest)
    | some ([], _) => none
    | some (letters, _ :: rest) => some (.flags (mode.change letters), rest)
    | _ => none
  | rest => some (.group none mode, rest)

end Opening

end Datapack.Pattern
