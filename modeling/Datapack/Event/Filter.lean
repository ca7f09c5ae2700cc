import Datapack.Event.Basic

namespace Datapack.Event

/-- What a directive is about. No span is ever open, so a directive about spans
covers no event. -/
inductive Subject
  | events
  | eventsWith (field : Text)
  | spans
  deriving DecidableEq, Repr

def field : Text := "message".toList

structure Directive where
  scope : Text
  subject : Subject
  limit : Option Level
  deriving DecidableEq, Repr

namespace Directive

def covers (directive : Directive) (event : Event) : Bool :=
  directive.scope.isPrefixOf event.target &&
    match directive.subject with
    | .events => true
    | .eventsWith name => name = field
    | .spans => false

def weight (directive : Directive) : Nat :=
  2 * directive.scope.length +
    match directive.subject with
    | .events => 0
    | .eventsWith _ | .spans => 1

def admits (directive : Directive) (event : Event) : Bool :=
  match directive.limit with
  | none => false
  | some limit => event.level.rank ≤ limit.rank

end Directive

abbrev Filter := List Directive

namespace Filter

def better (event : Event) (best : Option Directive) (directive : Directive) : Option Directive :=
  if directive.covers event && best.all (fun best => best.weight ≤ directive.weight) then
    some directive
  else best

/-- The most specific directive that covers an event decides alone. Of equals
the last one counts. -/
def governing? (filter : Filter) (event : Event) : Option Directive :=
  filter.foldl (better event) none

def admits (filter : Filter) (event : Event) : Bool :=
  match filter.governing? event with
  | none => false
  | some directive => directive.admits event

def apply (filter : Filter) (events : List Event) : List Event := events.filter filter.admits

def ofLimit (limit : Level) : Filter := [⟨[], .events, some limit⟩]

end Filter

end Datapack.Event
