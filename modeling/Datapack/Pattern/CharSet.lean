import Datapack.Pattern.Atom

namespace Datapack.Pattern

def nesting : List Nat → Nat
  | [] => 0
  | [height] => height
  | heights => 1 + heights.foldl max 0

namespace CharSet

def bracketed? (mode : Mode) (negated : Bool) (height : Nat) : Option Nat :=
  if negated && !mode.mayNegate then none else some (1 + height)

def classNames : List Text :=
  ["alnum", "alpha", "ascii", "blank", "cntrl", "digit", "graph", "lower", "print", "punct",
    "space", "upper", "word", "xdigit"].map String.toList

def class? : Text → Option (Bool × Text)
  | ':' :: t =>
      let negated := t.head? = some '^'
      let t := if negated then t.tail else t
      let name := t.takeWhile (· ≠ ':')
      if name ∈ classNames then
        (Text.after? (t.drop name.length) ":]".toList).map (fun rest => (negated, rest))
      else none
  | _ => none

def member? (mode : Mode) : Text → Option (Atom × Text)
  | [] => none
  | '\\' :: t => escape? mode t
  | c :: t => some (.char c false, t)

def isRange (mode : Mode) : Atom → Atom → Bool
  | .char low lowByte, .char high highByte =>
      Atom.fitsBrackets mode (.char low lowByte) && Atom.fitsBrackets mode (.char high highByte) &&
        low ≤ high
  | _, _ => false

/-- The text after one member or a range. A hyphen before a closing bracket or
another hyphen makes no range. -/
def afterItem? (mode : Mode) (t : Text) : Option Text :=
  match member? mode t with
  | none => none
  | some (first, rest) =>
      let alone := if first.fitsBrackets mode then some rest else none
      match mode.skip rest with
      | '-' :: t =>
          if mode.peek t = some ']' || mode.peek t = some '-' then alone
          else match member? mode (mode.skip t) with
            | none => none
            | some (last, rest) => if isRange mode first last then some rest else none
      | _ => alone

def operated (before : Option Nat) (items : List Nat) : Nat :=
  match before with
  | none => nesting items
  | some height => 1 + max height (nesting items)

inductive Position
  | start
  | hyphens
  | inside
  deriving DecidableEq, Repr

def negation (mode : Mode) (t : Text) : Bool × Text :=
  match mode.skip t with
  | '^' :: rest => (true, rest)
  | rest => (false, rest)

/-- The height of what stands before the closing bracket. Up to the last operator
it is `before`, and `items` are the heights of the members since then. Every step
reads a character, so as many steps as there are characters do. -/
def upToBracket? (mode : Mode) (position : Position) (before : Option Nat) (items : List Nat) :
    (steps : Nat) → Text → Option (Nat × Text)
  | 0, _ => none
  | steps + 1, t => match position, mode.skip t with
    | _, [] => none
    | .start, ']' :: t => upToBracket? mode .inside before (0 :: items) steps t
    | .start, '-' :: t | .hyphens, '-' :: t =>
        upToBracket? mode .hyphens before (0 :: items) steps t
    | _, ']' :: t => some (operated before items, t)
    | _, '[' :: t => match class? t with
      | some (negated, t) =>
          if negated && !mode.mayNegate then none
          else upToBracket? mode .inside before (0 :: items) steps t
      | none =>
          let (negated, t) := negation mode t
          match upToBracket? mode .start none [] steps t with
          | none => none
          | some (height, t) => match bracketed? mode negated height with
            | none => none
            | some height => upToBracket? mode .inside before (height :: items) steps t
    | _, '&' :: '&' :: t | _, '-' :: '-' :: t | _, '~' :: '~' :: t =>
        upToBracket? mode .inside (operated before items) [] steps t
    | _, t => match afterItem? mode t with
      | none => none
      | some t => upToBracket? mode .inside before (0 :: items) steps t

def height? (mode : Mode) (t : Text) : Option (Nat × Text) :=
  let (negated, rest) := negation mode t
  match upToBracket? mode .start none [] (rest.length + 1) rest with
  | none => none
  | some (height, rest) => (bracketed? mode negated height).map (fun height => (height, rest))

end CharSet

end Datapack.Pattern
