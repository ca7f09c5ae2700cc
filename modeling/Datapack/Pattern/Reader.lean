import Datapack.Pattern.CharSet
import Datapack.Pattern.Group

namespace Datapack.Pattern

inductive Item
  | part (height : Nat)
  | flags
  deriving DecidableEq, Repr

def Item.height : Item → Nat
  | .part height => height
  | .flags => 0

structure Alternatives where
  complete : List Nat
  items : List Item
  deriving DecidableEq, Repr

namespace Alternatives

def empty : Alternatives := ⟨[], []⟩

def add (group : Alternatives) (item : Item) : Alternatives :=
  { group with items := item :: group.items }

def rowHeight (group : Alternatives) : Nat := nesting (group.items.map Item.height)

def next (group : Alternatives) : Alternatives := ⟨group.rowHeight :: group.complete, []⟩

def height (group : Alternatives) : Nat := nesting group.next.complete

end Alternatives

/-- A pattern in the middle of being read: the group at hand, those around it with
the modes that they go on with, and the names given so far. -/
structure Reader where
  mode : Mode
  group : Alternatives
  outer : List (Mode × Alternatives)
  names : List Text
  deriving DecidableEq, Repr

namespace Reader

def initial : Reader := ⟨.initial, .empty, [], []⟩

def add (reader : Reader) (item : Item) : Reader := { reader with group := reader.group.add item }

def addAtom? (reader : Reader) (atom : Atom) : Option Reader :=
  if atom.fits reader.mode then some (reader.add (.part 0)) else none

def repeat? (reader : Reader) : Option Reader :=
  match reader.group.items with
  | .part height :: items =>
      some { reader with group := ⟨reader.group.complete, .part (1 + height) :: items⟩ }
  | _ => none

def open? (reader : Reader) : Opening → Option Reader
  | .flags mode => some { reader.add .flags with mode := mode }
  | .group name mode =>
      if name.any reader.names.contains then none
      else some ⟨mode, .empty, (reader.mode, reader.group) :: reader.outer,
        name.toList ++ reader.names⟩

def close? (reader : Reader) : Option Reader :=
  match reader.outer with
  | [] => none
  | (mode, group) :: outer =>
      some ⟨mode, group.add (.part (1 + reader.group.height)), outer, reader.names⟩

/-- The reader after the next part or sign. An opening brace would have to be
closed, and a value in a setting ends before the first closing one. -/
def step? (reader : Reader) : Text → Option (Reader × Text)
  | [] => none
  | '(' :: t => match Opening.ofText? reader.mode t with
    | none => none
    | some (opening, rest) => (reader.open? opening).map (fun reader => (reader, rest))
  | ')' :: t => reader.close?.map (fun reader => (reader, t))
  | '|' :: t => some ({ reader with group := reader.group.next }, t)
  | '[' :: t => (CharSet.height? reader.mode t).map
      (fun (height, rest) => (reader.add (.part height), rest))
  | '{' :: _ => none
  | '\\' :: t => match escape? reader.mode t with
    | none => none
    | some (atom, rest) => (reader.addAtom? atom).map (fun reader => (reader, rest))
  | c :: t =>
      if c = '?' || c = '*' || c = '+' then
        reader.repeat?.map (fun reader => (reader, (Text.after? t ['?']).getD t))
      else
        let atom := if c = '.' then .anyChar
          else if c = '^' || c = '$' then .place false
          else .char c false
        (reader.addAtom? atom).map (fun reader => (reader, t))

def readAll? : (steps : Nat) → Reader → Text → Option Reader
  | 0, _, _ => none
  | steps + 1, reader, t => match reader.mode.skip t with
    | [] => if reader.outer.isEmpty then some reader else none
    | t => match reader.step? t with
      | none => none
      | some (reader, rest) => readAll? steps reader rest

end Reader

def maxHeight : Nat := 250

/-- Whether a text is a pattern that a finite automaton can match against
characters, without looking around. -/
def isUsable (t : Text) : Bool :=
  (Reader.initial.readAll? (t.length + 1) t).any (fun reader => reader.group.height ≤ maxHeight)

end Datapack.Pattern
