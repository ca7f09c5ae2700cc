import Datapack.Compile
import Datapack.Proofs.OpenBlocks
import Mathlib.Algebra.GroupWithZero.Nat

namespace Datapack.Proofs.Warnings

open LastBlock Feeding OpenBlocks

variable {statements : List Statement}

def isWarning (event : Event) : Bool := event.level == .warn

def isReplacement : Event → Bool
  | .bodyReplaced _ => true
  | _ => false

def isHeader : Statement → Bool
  | .header _ => true
  | _ => false

def commandsIn : Event → Nat
  | .bodyClosed _ commands => commands
  | _ => 0

def scriptEvents (t : Text) : List Event := Source.events t ++ Pack.events (Source.lines t)

structure Position where
  before : List Text
  line : Text

namespace Position

def all (before : List Text) : List Text → List Position
  | [] => []
  | line :: lines => ⟨before, line⟩ :: all (before ++ [line]) lines

def trimmed (p : Position) : Text := Line.trim p.line

def statement (p : Position) : Statement := Statement.ofText p.trimmed

def InBlock (p : Position) : Prop := LeftOpen (statementsOf p.before)

instance (p : Position) : Decidable p.InBlock := inferInstanceAs (Decidable (LeftOpen _))

/-- A line that says something, but nothing known, is missed inside of a block. -/
def IsDropped (p : Position) : Prop := p.InBlock ∧ p.trimmed ≠ [] ∧ p.statement = .unmatched

instance (p : Position) : Decidable p.IsDropped := inferInstanceAs (Decidable (_ ∧ _ ∧ _))

def IsCommand (p : Position) : Prop := p.InBlock ∧ p.statement.command?.isSome

instance (p : Position) : Decidable p.IsCommand := inferInstanceAs (Decidable (_ ∧ _))

end Position

def replaceWarning (statements : List Statement) : List Event :=
  match openName? statements with
  | some name => if WasClosed name statements then [.bodyReplaced name] else []
  | none => []

def lineWarnings (p : Position) : List Event :=
  (if p.IsDropped then [.lineDropped (p.before.length + 1) p.trimmed] else []) ++
    if isBoundary p.statement then replaceWarning (statementsOf p.before) else []

def numbered (start : Nat) (raws : List Text) : List Line :=
  (raws.zipIdx start).map (fun entry => Line.ofNumbered entry.1 entry.2)

theorem feedAll_position (before : List Text) (raw : Text) :
    Blocks.start.feedAll (statementsOf (before ++ [raw])) =
      (Blocks.start.feedAll (statementsOf before)).feed (Position.mk before raw).statement := by
  rw [statementsOf, List.map_append]
  exact feedAll_concat _ _ _

theorem closeEvents_warnings (statements : List Statement) :
    (Blocks.start.feedAll statements).closeEvents.filter isWarning = replaceWarning statements := by
  have hname := current_feedAll statements
  have hclosed := mem_names_feedAll statements
  generalize Blocks.start.feedAll statements = b at hname hclosed
  rcases b with ⟨_ | body, functions⟩
  · simp [replaceWarning, ← hname, Blocks.closeEvents]
  · have hcontains : functions.contains body.name = true ↔ WasClosed body.name statements :=
      FunctionTable.contains_iff.trans (hclosed body.name)
    simp only [replaceWarning, ← hname, Blocks.closeEvents, Option.map_some,
      if_congr hcontains rfl rfl]
    split <;> rfl

theorem feedEvents_warnings (b : Blocks) (s : Statement) :
    (b.feedEvents s).filter isWarning =
      if isBoundary s then b.closeEvents.filter isWarning else [] := by
  cases s <;> simp [Blocks.feedEvents, isBoundary, isWarning, Event.level]

theorem lineEvents_warnings (before : List Text) (raw : Text) :
    let p : Position := ⟨before, raw⟩
    ((Blocks.start.feedAll (statementsOf before)).lineEvents
      (Line.ofNumbered raw (before.length + 1)) p.statement).filter isWarning =
        if p.IsDropped then [.lineDropped (before.length + 1) p.trimmed] else [] := by
  intro p
  let b := Blocks.start.feedAll (statementsOf before)
  have hdropped : (p.statement = .unmatched && b.isOpen && !p.trimmed.isEmpty) = true ↔
      p.IsDropped := by
    rw [Position.IsDropped, Position.InBlock, ← isOpen_start]
    simp [b, p]
    tauto
  have hevents : b.lineEvents (Line.ofNumbered raw (before.length + 1)) p.statement =
      .lineRead (before.length + 1) p.statement.kind ::
        if p.IsDropped then [.lineDropped (before.length + 1) p.trimmed] else [] :=
    congrArg _ (if_congr hdropped rfl rfl)
  rw [hevents]
  split <;> rfl

theorem events_warnings (before raws : List Text) :
    ((Blocks.start.feedAll (statementsOf before)).events
      (numbered (before.length + 1) raws)).filter isWarning =
        (Position.all before raws).flatMap lineWarnings ++
          replaceWarning (statementsOf (before ++ raws)) := by
  induction raws generalizing before with
  | nil => simpa [numbered, Position.all, Blocks.events] using closeEvents_warnings _
  | cons raw raws ih =>
      -- the line moves to the ones before it, so the number and the prefix grow together
      let b := Blocks.start.feedAll (statementsOf before)
      let p : Position := ⟨before, raw⟩
      have hevents : b.events (numbered (before.length + 1) (raw :: raws)) =
          b.lineEvents (Line.ofNumbered raw (before.length + 1)) p.statement ++
            b.feedEvents p.statement ++
              (b.feed p.statement).events (numbered (before.length + 2) raws) := rfl
      have hline := lineEvents_warnings before raw
      have hboundary := feedEvents_warnings b p.statement
      have hrest : ((b.feed p.statement).events (numbered (before.length + 2) raws)).filter
          isWarning = (Position.all (before ++ [raw]) raws).flatMap lineWarnings ++
            replaceWarning (statementsOf (before ++ raw :: raws)) := by
        have hfed := ih (before ++ [raw])
        rwa [feedAll_position, List.length_append, List.append_assoc] at hfed
      rw [closeEvents_warnings] at hboundary
      rw [hevents, List.filter_append, List.filter_append, hline, hboundary, hrest,
        ← List.append_assoc]
      rfl

def bodies (b : Blocks) : Nat := b.functions.size + if b.isOpen then 1 else 0

def pending (b : Blocks) : Nat := (b.current.map (fun body => body.commands.length)).getD 0

theorem lineEvents_counts (b : Blocks) (line : Line) (s : Statement) :
    (b.lineEvents line s).countP isReplacement = 0 ∧
      ((b.lineEvents line s).map commandsIn).sum = 0 := by
  rw [Blocks.lineEvents]
  split <;> simp [isReplacement, commandsIn]

theorem closeEvents_replacements (b : Blocks) :
    b.closeEvents.countP isReplacement + b.finish.size = bodies b := by
  rcases b with ⟨_ | body, functions⟩
  · simp [Blocks.closeEvents, Blocks.finish, Blocks.close, bodies, Blocks.isOpen]
  · have hsize := functions.size_insert body.name body.commands
    simp only [Blocks.closeEvents, Blocks.finish, Blocks.close, bodies, Blocks.isOpen, hsize]
    cases functions.contains body.name <;> simp [isReplacement, Nat.add_comm]

theorem feedEvents_replacements (b : Blocks) (s : Statement) :
    (b.feedEvents s).countP isReplacement + bodies (b.feed s) =
      bodies b + if isHeader s then 1 else 0 := by
  have hclose := closeEvents_replacements b
  cases hs : isBoundary s with
  | true =>
      rcases isBoundary_iff.1 hs with ⟨name, rfl⟩ | rfl
      · rw [feed_header, ← hclose]
        simp [Blocks.feedEvents, bodies, Blocks.isOpen, isHeader, isReplacement, Nat.add_assoc]
      · rw [feed_close, ← hclose]
        simp [Blocks.feedEvents, bodies, Blocks.isOpen, isHeader]
  | false =>
      have hevents : b.feedEvents s = [] := by cases s <;> first | rfl | cases hs
      have hheader : isHeader s = false := by cases s <;> first | rfl | cases hs
      have hopen : (b.feed s).isOpen = b.isOpen := by
        rw [feed_inner b hs, Blocks.isOpen, Option.isSome_map]
        rfl
      simp [hevents, hheader, bodies, hopen, functions_feed, hs]

theorem closeEvents_commands (b : Blocks) : (b.closeEvents.map commandsIn).sum = pending b := by
  rcases b with ⟨_ | body, functions⟩
  · rfl
  · cases hc : functions.contains body.name <;>
      simp [Blocks.closeEvents, pending, commandsIn, hc]

theorem feedEvents_commands (b : Blocks) (s : Statement) :
    ((b.feedEvents s).map commandsIn).sum + pending (b.feed s) =
      pending b + if b.isOpen ∧ s.command?.isSome then 1 else 0 := by
  have hclose := closeEvents_commands b
  cases hs : isBoundary s with
  | true =>
      rcases isBoundary_iff.1 hs with ⟨name, rfl⟩ | rfl
      · have hempty : pending (b.feed (.header name)) = 0 := rfl
        simp [Blocks.feedEvents, hempty, Statement.command?, commandsIn, hclose]
      · have hempty : pending (b.feed .close) = 0 := by
          rw [feed_close]
          rfl
        simp [Blocks.feedEvents, hempty, Statement.command?, hclose]
  | false =>
      have hevents : b.feedEvents s = [] := by cases s <;> first | rfl | cases hs
      rw [hevents, feed_inner b hs]
      rcases b with ⟨_ | body, functions⟩
      · simp [pending, Blocks.isOpen]
      · cases s.command? <;> simp [pending, Blocks.isOpen]

theorem events_replacements (b : Blocks) (start : Nat) (raws : List Text) :
    (b.events (numbered start raws)).countP isReplacement +
        (b.feedAll (statementsOf raws)).finish.size =
      bodies b + (statementsOf raws).countP isHeader := by
  induction raws generalizing b start with
  | nil => exact closeEvents_replacements b
  | cons raw raws ih =>
      let s := Statement.ofText (Line.trim raw)
      have hline := (lineEvents_counts b (Line.ofNumbered raw start) s).1
      -- one line changes `bodies` by its header and by what it replaces
      have hstep := feedEvents_replacements b s
      have hrest := ih (b.feed s) (start + 1)
      have hevents : b.events (numbered start (raw :: raws)) =
          b.lineEvents (Line.ofNumbered raw start) s ++ b.feedEvents s ++
            (b.feed s).events (numbered (start + 1) raws) := rfl
      have hfed : b.feedAll (statementsOf (raw :: raws)) =
          (b.feed s).feedAll (statementsOf raws) := rfl
      have hheaders : (statementsOf (raw :: raws)).countP isHeader =
          (statementsOf raws).countP isHeader + if isHeader s then 1 else 0 := List.countP_cons
      rw [hevents, List.countP_append, List.countP_append, hline, hfed, hheaders]
      omega

theorem events_commands (before raws : List Text) (start : Nat) :
    let b := Blocks.start.feedAll (statementsOf before)
    ((b.events (numbered start raws)).map commandsIn).sum =
      pending b + (Position.all before raws).countP (·.IsCommand) := by
  induction raws generalizing before start with
  | nil => exact closeEvents_commands _
  | cons raw raws ih =>
      intro b
      let p : Position := ⟨before, raw⟩
      have hevents : b.events (numbered start (raw :: raws)) =
          b.lineEvents (Line.ofNumbered raw start) p.statement ++ b.feedEvents p.statement ++
            (b.feed p.statement).events (numbered (start + 1) raws) := rfl
      have hline := (lineEvents_counts b (Line.ofNumbered raw start) p.statement).2
      have hstep := feedEvents_commands b p.statement
      have hcommand : (b.isOpen ∧ p.statement.command?.isSome) ↔ p.IsCommand :=
        and_congr_left' (isOpen_start (statementsOf before))
      have hcount : (Position.all before (raw :: raws)).countP (·.IsCommand) =
          (Position.all (before ++ [raw]) raws).countP (·.IsCommand) +
            if p.IsCommand then 1 else 0 := by
        simp [Position.all, List.countP_cons, p]
      have hrest : (((b.feed p.statement).events (numbered (start + 1) raws)).map commandsIn).sum =
          pending (b.feed p.statement) +
            (Position.all (before ++ [raw]) raws).countP (·.IsCommand) := by
        have hfed := ih (before ++ [raw]) (start + 1)
        rwa [feedAll_position] at hfed
      rw [if_congr hcommand rfl rfl] at hstep
      rw [hevents, List.map_append, List.map_append, List.sum_append, List.sum_append, hline,
        hcount]
      omega

theorem artifact_warnings {functions : FunctionTable}
    (hdeclared : ∀ name, functions.contains name = true ↔ .header name ∈ statements) :
    (Artifact.events functions).filter isWarning =
      (if .header Layout.loadName ∈ statements then
        [.loadReplaced ((functions.get? Layout.loadName).getD []).length] else []) ++
        (Layout.tags.filter (fun tag => .header tag ∉ statements)).map .tagUndeclared := by
  have htags : Layout.tags.filter (fun tag => !functions.contains tag) =
      Layout.tags.filter (fun tag => .header tag ∉ statements) := by
    refine List.filter_congr fun tag _ => ?_
    rw [Bool.eq_iff_iff]
    simp [← hdeclared]
  have hload := hdeclared Layout.loadName
  have hall (tags : List Text) :
      (tags.map Event.tagUndeclared).filter isWarning = tags.map .tagUndeclared := by
    simp [List.filter_map, Function.comp_def, isWarning, Event.level]
  rw [FunctionTable.contains] at hload
  rw [Artifact.events, List.filter_append, List.filter_append, htags, hall]
  cases hget : functions.get? Layout.loadName with
  | none =>
      have hnone : .header Layout.loadName ∉ statements := by simpa [hget] using hload
      simp [hnone, isWarning, Event.level]
  | some body =>
      have hsome : .header Layout.loadName ∈ statements := by simpa [hget] using hload
      simp [hsome, isWarning, Event.level]

theorem artifact_counts (functions : FunctionTable) :
    (Artifact.events functions).countP isReplacement = 0 ∧
      ((Artifact.events functions).map commandsIn).sum = 0 := by
  cases hget : functions.get? Layout.loadName <;>
    simp [Artifact.events, hget, isReplacement, commandsIn, Function.comp_def]

/-- Each warning has its reason in the script and each reason its warning, in the
order of the script: dropped lines and replaced blocks line by line, then what
becomes of `load` and which tags point nowhere. -/
theorem warnings_account (t : Text) :
    let statements := statementsOf t.lines
    let functions := (Pack.ofLines (Source.lines t)).functions
    let events := scriptEvents t
    events.filter isWarning =
        (Position.all [] t.lines).flatMap lineWarnings ++ replaceWarning statements ++
          (if .header Layout.loadName ∈ statements then
            [.loadReplaced ((functions.get? Layout.loadName).getD []).length] else []) ++
          (Layout.tags.filter (fun tag => .header tag ∉ statements)).map .tagUndeclared ∧
      events.countP isReplacement + functions.size = statements.countP isHeader ∧
      (events.map commandsIn).sum = (Position.all [] t.lines).countP (·.IsCommand) := by
  intro statements functions events
  have hfunctions : functions = .ofStatements statements := ofLines_source t
  have hevents : events = Source.events t ++ (Blocks.start.events (numbered 1 t.lines) ++
      Artifact.events functions) := rfl
  have hdeclared (name : Text) : functions.contains name = true ↔ .header name ∈ statements := by
    rw [← mem_names_ofStatements, ← hfunctions]
    exact FunctionTable.contains_iff
  refine ⟨?_, ?_, ?_⟩
  · have hscript : (Blocks.start.events (numbered 1 t.lines)).filter isWarning =
        (Position.all [] t.lines).flatMap lineWarnings ++ replaceWarning statements :=
      events_warnings [] t.lines
    rw [hevents, List.filter_append, List.filter_append, hscript, artifact_warnings hdeclared]
    simp [Source.events, isWarning, Event.level]
  · have hscript : (Blocks.start.events (numbered 1 t.lines)).countP isReplacement +
        functions.size = bodies .start + statements.countP isHeader := by
      rw [hfunctions]
      exact events_replacements .start 1 t.lines
    have hsource : (Source.events t).countP isReplacement = 0 := rfl
    have hstart : bodies .start = 0 := rfl
    rw [hevents, List.countP_append, List.countP_append, hsource, (artifact_counts functions).1]
    omega
  · have hscript : ((Blocks.start.events (numbered 1 t.lines)).map commandsIn).sum =
        pending .start + (Position.all [] t.lines).countP (·.IsCommand) :=
      events_commands [] t.lines 1
    have hsource : ((Source.events t).map commandsIn).sum = 0 := rfl
    have hstart : pending .start = 0 := rfl
    rw [hevents, List.map_append, List.map_append, List.sum_append, List.sum_append, hsource,
      (artifact_counts functions).2]
    omega

end Datapack.Proofs.Warnings
