import Datapack.Conditions

namespace Datapack

inductive Statement
  /-- Opens the body of a function. Parameters and return type are not kept. -/
  | header (name : Text)
  | declare (name value : Text)
  | say (message : Text)
  | execute (conditions action : Text)
  | command (word rest : Text)
  | close
  | unmatched
  deriving DecidableEq, Repr

inductive Kind
  | header | declare | say | execute | command | close | unmatched
  deriving DecidableEq, Repr

namespace Kind

def all : List Kind := [.header, .declare, .say, .execute, .command, .close, .unmatched]

def label : Kind → Text
  | .header => "FunctionStart".toList
  | .declare => "VarDecl".toList
  | .say => "Say".toList
  | .execute => "Execute".toList
  | .command => "Command".toList
  | .close => "End".toList
  | .unmatched => "Unmatched".toList

end Kind

namespace Statement

def kind : Statement → Kind
  | .header _ => .header
  | .declare _ _ => .declare
  | .say _ => .say
  | .execute _ _ => .execute
  | .command _ _ => .command
  | .close => .close
  | .unmatched => .unmatched

def command? : Statement → Option Text
  | .declare name _ => some ("scoreboard objectives add ".toList ++ name ++ " dummy".toList)
  | .say message => some ("say ".toList ++ message)
  | .execute conditions action =>
      some ("execute ".toList ++ Conditions.toSelectors conditions ++ " run ".toList ++ action)
  | .command word rest => some (word ++ ' ' :: rest)
  | .header _ | .close | .unmatched => none

end Statement

end Datapack
