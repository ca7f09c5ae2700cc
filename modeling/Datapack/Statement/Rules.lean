import Datapack.Statement.Basic
import Datapack.Text.Class

namespace Datapack.Statement

abbrev Rule := Text → Option Statement

def isPayload (t : Text) : Bool := t.all (· ≠ '\n')

/-- Parameters, an arrow, blanks, a return type and the closing parenthesis.
Read from the end, where the return type and the blanks before it are maximal
runs, so only the last arrow can be the one meant. -/
def isSignature (t : Text) : Bool :=
  match Text.after? t.reverse [')'] with
  | none => false
  | some s => match s.run? isNameChar with
    | none => false
    | some (_, s) => match Text.after? (s.dropWhile isBlank) ['>', '='] with
      | none => false
      | some params => isPayload params

def headerRule : Rule := fun t => do
  let t ← t.after? "function".toList
  let (_, t) ← t.run? isBlank
  let (name, t) ← t.run? isNameChar
  let t ← Text.after? (t.dropWhile isBlank) ['(']
  if isSignature t then some (.header name) else none

def declareRule : Rule := fun t => do
  let t ← t.after? "var".toList
  let (_, t) ← t.run? isBlank
  let (name, t) ← t.run? isNameChar
  let t ← Text.after? (t.dropWhile isBlank) ['=']
  let value := t.dropWhile isBlank
  if isPayload value then some (.declare name value) else none

def sayRule : Rule := fun t => do
  let t ← t.after? "say".toList
  let (_, t) ← t.run? isBlank
  let t ← t.after? ['"']
  let message ← Text.after? (t.reverse.dropWhile isBlank) ['"']
  if isPayload message then some (.say message.reverse) else none

def afterBoundary? (t : Text) : Option Text := do
  let t ← t.after? ['}', ',']
  Text.after? (t.dropWhile isBlank) ['{']

/-- Divides at the last boundary that leaves a payload on either side: a later
boundary is tried before the one here. -/
def sections? : Text → Option (Text × Text)
  | [] => none
  | c :: t =>
      match if c = '\n' then none else sections? t with
      | some (first, second) => some (c :: first, second)
      | none => match afterBoundary? (c :: t) with
        | some second => if isPayload second then some ([], second) else none
        | none => none

def executeRule : Rule := fun t => do
  let t ← t.after? "execute".toList
  let t ← Text.after? (t.dropWhile isBlank) ['(', '=', '>', '{']
  let t ← t.before? ['}', ')']
  let (conditions, action) ← sections? t
  some (.execute (conditions.strip isMargin) (action.strip isMargin))

def commandRule : Rule := fun t => do
  let (word, t) ← t.run? isNameChar
  let (_, rest) ← t.run? isBlank
  if isPayload rest then some (.command word rest) else none

def closeRule : Rule := fun t => if t = "end".toList then some .close else none

/-- Most lines that fit a keyword rule also fit the command rule, so it stands
behind them all. -/
def rules : List Rule := [headerRule, declareRule, sayRule, executeRule, commandRule, closeRule]

def ofRules (rules : List Rule) (t : Text) : Statement :=
  (rules.findSome? (fun rule => rule t)).getD .unmatched

def ofText (t : Text) : Statement := ofRules rules t

end Datapack.Statement
