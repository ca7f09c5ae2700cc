import Datapack.Event.Basic
import Datapack.FunctionTable
import Datapack.Source
import Datapack.Statement.Rules

namespace Datapack

structure Body where
  name : Text
  commands : List Text
  deriving DecidableEq, Repr

structure Blocks where
  current : Option Body
  functions : FunctionTable

namespace Blocks

def start : Blocks := ⟨none, .empty⟩

def isOpen (b : Blocks) : Bool := b.current.isSome

def close (b : Blocks) : Blocks :=
  match b.current with
  | none => b
  | some body => ⟨none, b.functions.insert body.name body.commands⟩

def append (b : Blocks) (command : Text) : Blocks :=
  match b.current with
  | none => b
  | some body => { b with current := some { body with commands := body.commands ++ [command] } }

/-- A header closes what is open before it opens its own body. -/
def feed (b : Blocks) (s : Statement) : Blocks :=
  match s with
  | .header name => { b.close with current := some ⟨name, []⟩ }
  | .close => b.close
  | s => match s.command? with
    | none => b
    | some command => b.append command

def feedAll (b : Blocks) (statements : List Statement) : Blocks := statements.foldl feed b

def finish (b : Blocks) : FunctionTable := b.close.functions

def closeEvents (b : Blocks) : List Event :=
  match b.current with
  | none => []
  | some body =>
      .bodyClosed body.name body.commands.length ::
        if b.functions.contains body.name then [.bodyReplaced body.name] else []

def feedEvents (b : Blocks) (s : Statement) : List Event :=
  match s with
  | .header name => b.closeEvents ++ [.bodyOpened name]
  | .close => b.closeEvents
  | _ => []

/-- Only a line that would have been part of a body is reported as dropped. -/
def lineEvents (b : Blocks) (line : Line) (s : Statement) : List Event :=
  .lineRead line.number s.kind ::
    if s = .unmatched && b.isOpen && !line.trimmed.isEmpty then
      [.lineDropped line.number line.trimmed]
    else []

def events (b : Blocks) : List Line → List Event
  | [] => b.closeEvents
  | line :: lines =>
      let s := Statement.ofText line.trimmed
      b.lineEvents line s ++ b.feedEvents s ++ (b.feed s).events lines

end Blocks

namespace FunctionTable

def ofStatements (statements : List Statement) : FunctionTable :=
  (Blocks.start.feedAll statements).finish

def ofLines (lines : List Line) : FunctionTable :=
  ofStatements (lines.map (fun line => Statement.ofText line.trimmed))

end FunctionTable

end Datapack
