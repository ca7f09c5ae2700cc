import Datapack.Event.Filter
import Datapack.Event.Value
import Datapack.Text.Cut

namespace Datapack.Event

namespace Setting

def number? (t : Text) : Option Nat :=
  let digits := match t with
    | '+' :: digits => digits
    | digits => digits
  if digits.isEmpty || !digits.all Char.isDigit then none
  else some (digits.foldl (fun n c => 10 * n + (c.toNat - '0'.toNat)) 0)

/-- The limit that a word in any case or a number up to five names. Silence is no
level, which is the inner `none`. -/
def limit? (t : Text) : Option (Option Level) :=
  match number? t with
  | some 0 => some none
  | some n => (Level.all.find? (fun level => level.rank = n)).map some
  | none =>
      let word := t.map Char.toLower
      if word = "off".toList then some none
      else (Level.all.find? (fun level => level.word = word)).map some

structure Brackets where
  span : Text
  field : Option Text
  deriving DecidableEq, Repr

namespace Brackets

def ofText? (t : Text) : Option (Brackets × Text) :=
  let span := t.takeWhile (fun c => c ≠ ']' && c ≠ '{')
  match t.drop span.length with
  | ']' :: rest => some (⟨span, none⟩, rest)
  | '{' :: t =>
      let field := t.takeWhile (· ≠ '}')
      match t.drop field.length with
      | '}' :: ']' :: rest => if field.isEmpty then none else some (⟨span, some field⟩, rest)
      | _ => none
  | _ => none

def subject (brackets : Brackets) : Subject :=
  match brackets.field with
  | some field =>
      if brackets.span.isEmpty && !field.contains '=' then .eventsWith field else .spans
  | none => .spans

end Brackets

def isField (t : Text) : Bool :=
  match t.splitOn '=' with
  | _ :: value :: _ => isValue value
  | _ => true

structure Parts where
  scope : Text
  brackets : Option Brackets
  limit : Option Text
  deriving DecidableEq, Repr

namespace Parts

def startsDirective (c : Char) : Bool :=
  c = '[' || c = '-' || c = ':' || c = '_' || isAlphanumeric c

/-- A scope, what is in brackets and, if there is an equals sign, what follows it.
Blanks may stand after a bracket but not after an equals sign. -/
def ofText? (t : Text) : Option Parts :=
  if !t.head?.any startsDirective then none
  else
    let scope := t.takeWhile (fun c => c ≠ '=' && c ≠ '[')
    match t.drop scope.length with
    | [] => some ⟨scope, none, none⟩
    | '=' :: limit => some ⟨scope, none, some limit⟩
    | _ :: bracket => match Brackets.ofText? bracket with
      | none => none
      | some (brackets, '=' :: limit) => some ⟨scope, brackets, some limit⟩
      | some (brackets, rest) =>
          if rest.all isWhiteSpace then some ⟨scope, brackets, none⟩ else none

def field? (parts : Parts) : Option Text := parts.brackets.bind Brackets.field

def fieldStart (parts : Parts) : Nat :=
  parts.scope.utf8Size + (parts.brackets.map Brackets.span).elim 0 Text.utf8Size + 2

def subject (parts : Parts) : Subject := parts.brackets.elim .events Brackets.subject

def directive? (parts : Parts) : Option Directive :=
  if parts.field?.all isField then
    match parts.limit, parts.brackets with
    | none, none => match limit? parts.scope with
      | some limit => some ⟨[], .events, limit⟩
      | none => some ⟨parts.scope, .events, some .trace⟩
    | none, some _ | some [], _ => some ⟨parts.scope, parts.subject, some .trace⟩
    | some limit, _ =>
        (limit? limit).map (fun limit => ⟨parts.scope, parts.subject, limit⟩)
  else none

/-- The directive if there were blanks in front of the parts in `t`. They shift
what is cut out of it for a field, become part of the scope, which then covers
nothing, and leave no limit that could be read. -/
def shifted? (parts : Parts) (t : Text) : Option Directive :=
  let directive : Directive := ⟨t, .events, some .trace⟩
  if parts.limit.isSome then none
  else match parts.field? with
    | none => some directive
    | some field => match t.cut? parts.fieldStart field.utf8Size with
      | none => none
      | some field => if isField field then some directive else none

end Parts

end Setting

def Directive.ofText? (t : Text) : Option Directive :=
  match Setting.Parts.ofText? (t.dropWhile isWhiteSpace) with
  | none => none
  | some parts => if t.head?.any isWhiteSpace then parts.shifted? t else parts.directive?

def Filter.ofSetting? (setting : Text) : Option Filter :=
  ((setting.splitOn ',').filter (fun t => !t.isEmpty)).mapM Directive.ofText?

end Datapack.Event
