import Datapack.Proofs.PrintedLines

namespace Datapack.Proofs.RoundTrip

open Grammar LineEnds LastBlock Feeding Printing PrintedLines

variable {statements : List Statement} {lines : List Text} {text : Text}

structure Block where
  name : Text
  body : List Statement
  isName : IsName name
  printable : ∀ s ∈ body, Printable s ∧ isBoundary s = false

def Block.entry (block : Block) : Text × List Text := (block.name, commandsOf block.body)

variable {program : List Block}

/-- The statements of a program in their order. A block may do without its end. -/
inductive Spoken : List Block → List Statement → Prop
  | nil : Spoken [] []
  | cons {block program closing statements} (hclosing : closing = [] ∨ closing = [.close])
      (h : Spoken program statements) :
      Spoken (block :: program) (.header block.name :: (block.body ++ closing ++ statements))

def Prints (program : List Block) (text : Text) : Prop :=
  ∃ statements lines, Spoken program statements ∧ List.Forall₂ PrintedLine statements lines ∧
    Ended lines text

theorem printable_of_spoken (h : Spoken program statements) : ∀ s ∈ statements, Printable s := by
  induction h with
  | nil => simp
  | @cons block program closing statements hclosing _ ih =>
      have hend : ∀ s ∈ closing, Printable s := by
        rcases hclosing with rfl | rfl
        · simp
        · simpa using Printable.close
      simp only [List.forall_mem_cons, List.forall_mem_append]
      exact ⟨.header block.isName, ⟨fun s hs => (block.printable s hs).1, hend⟩, ih⟩

theorem exists_spoken (program : List Block) : ∃ statements, Spoken program statements := by
  induction program with
  | nil => exact ⟨[], .nil⟩
  | cons block program ih =>
      obtain ⟨statements, h⟩ := ih
      exact ⟨_, .cons (.inr rfl) h⟩

theorem exists_printedLines (hs : ∀ s ∈ statements, Printable s) :
    ∃ lines, List.Forall₂ PrintedLine statements lines := by
  induction statements with
  | nil => exact ⟨[], .nil⟩
  | cons s statements ih =>
      obtain ⟨hfirst, hrest⟩ := List.forall_mem_cons.1 hs
      obtain ⟨line, hline⟩ := exists_printedLine hfirst
      obtain ⟨lines, hlines⟩ := ih hrest
      exact ⟨line :: lines, .cons hline hlines⟩

theorem exists_text (program : List Block) : ∃ text, Prints program text := by
  obtain ⟨statements, hprogram⟩ := exists_spoken program
  obtain ⟨lines, hlines⟩ := exists_printedLines (printable_of_spoken hprogram)
  obtain ⟨text, htext⟩ := exists_ended lines
  exact ⟨text, statements, lines, hprogram, hlines, htext⟩

theorem lines_printed (hs : ∀ s ∈ statements, Printable s)
    (h : List.Forall₂ PrintedLine statements lines) : ∀ l ∈ lines, IsBreakFree l ∧ l ≠ [] := by
  induction h with
  | nil => simp
  | cons hline _ ih =>
      obtain ⟨hfirst, hrest⟩ := List.forall_mem_cons.1 hs
      exact List.forall_mem_cons.2
        ⟨⟨isBreakFree_of_printedLine hfirst hline, ne_nil_of_printedLine hline⟩, ih hrest⟩

theorem alike_printed (hs : ∀ s ∈ statements, Printable s)
    (h : List.Forall₂ PrintedLine statements lines) :
    List.Forall₂ Alike (statementsOf lines) statements := by
  induction h with
  | nil => exact .nil
  | cons hline _ ih =>
      obtain ⟨hfirst, hrest⟩ := List.forall_mem_cons.1 hs
      exact .cons (alike_of_printedLine hfirst hline) (ih hrest)

theorem ofLines_printed (hprogram : Spoken program statements)
    (hlines : List.Forall₂ PrintedLine statements lines) (htext : Ended lines text) :
    FunctionTable.ofLines (Source.lines text) = .ofStatements statements := by
  have hs := printable_of_spoken hprogram
  rw [ofLines_source, lines_ended htext (lines_printed hs hlines), FunctionTable.ofStatements,
    FunctionTable.ofStatements, feedAll_alike (alike_printed hs hlines)]

/-- Each block puts its own entry into what was there before. -/
theorem finish_spoken (h : Spoken program statements) (b : Blocks) :
    (b.feedAll statements).finish = (program.map Block.entry).foldl
      (fun functions entry => functions.insert entry.1 entry.2) b.finish := by
  induction h generalizing b with
  | nil => rfl
  | @cons block program closing statements hclosing _ ih =>
      let full : Blocks := ⟨some ⟨block.name, commandsOf block.body⟩, b.finish⟩
      have hbody : (b.feed (.header block.name)).feedAll block.body = full :=
        feedAll_inside block.name [] b.finish fun s hs => (block.printable s hs).2
      have hend : (full.feedAll closing).finish =
          b.finish.insert block.name (commandsOf block.body) := by
        rcases hclosing with rfl | rfl <;> rfl
      have hrun : b.feedAll (.header block.name :: (block.body ++ closing ++ statements)) =
          (full.feedAll closing).feedAll statements := by
        rw [← hbody, ← feedAll_append, ← feedAll_append, ← List.append_assoc]
        rfl
      rw [hrun, ih, hend]
      rfl

theorem get?_inserted (entries : List (Text × List Text)) (functions : FunctionTable)
    (name : Text) :
    (entries.foldl (fun functions entry => functions.insert entry.1 entry.2) functions).get? name =
      ((entries.reverse.find? (fun entry => entry.1 = name)).map Prod.snd).or
        (functions.get? name) := by
  induction entries generalizing functions with
  | nil => rfl
  | cons entry entries ih =>
      rw [List.foldl_cons, ih, List.reverse_cons, List.find?_append, FunctionTable.get?_insert]
      cases entries.reverse.find? (fun entry => entry.1 = name) with
      | some _ => rfl
      | none =>
          by_cases h : entry.1 = name
          · simp [h]
          · simp [h, Ne.symm h]

/-- Every program can be printed. However its lines are laid out and ended, a
name has the commands of the last block of this name, and a name without a block
has none. -/
theorem printed_program_compiles (program : List Block) :
    (∃ text, Prints program text) ∧ ∀ text, Prints program text → ∀ name,
      (FunctionTable.ofLines (Source.lines text)).get? name =
        (program.reverse.find? (fun block => block.name = name)).map
          (fun block => commandsOf block.body) := by
  refine ⟨exists_text program, fun text h name => ?_⟩
  obtain ⟨statements, lines, hprogram, hlines, htext⟩ := h
  have hstart : Blocks.start.finish.get? name = none := rfl
  rw [ofLines_printed hprogram hlines htext, FunctionTable.ofStatements, finish_spoken hprogram,
    get?_inserted, hstart, Option.or_none, ← List.map_reverse, List.find?_map, Option.map_map]
  rfl

/-- A name with two blocks, an open one and a closed one, and lines ended in all
the ways there are. -/
theorem rewritten_function_compiles :
    let text : Text := ("function f(=> void)\rsay \"old\"\r\n\tfunction\tf (a)=> b=> int)\n" ++
      "execute(=>\x7b@s\x7d,\x7b@p\x7d, \x7bsay hi\x7d)\nkill\t@e \nend\r").toList
    ∃ program, Prints program text ∧ (FunctionTable.ofLines (Source.lines text)).get? "f".toList =
      some ["execute @s\x7d,\x7b@p run say hi".toList, "kill @e".toList] := by
  intro text
  let conditions : Text := "@s\x7d,\x7b@p".toList
  have hbare : ∀ first second, ¬Split first second "say hi".toList := by
    rintro first second ⟨blanks, -, -, -, h⟩
    have hm : '}' ∈ "say hi".toList := by
      rw [h]
      simp
    exact absurd hm (by decide)
  let open' : Block := ⟨"f".toList, [.say "old".toList], by decide, by
    simpa using ⟨Printable.say (by decide), rfl⟩⟩
  let closed : Block := ⟨"f".toList, [.execute conditions "say hi".toList,
    .command "kill".toList "@e".toList], by decide, by
      simp only [List.forall_mem_cons]
      exact ⟨⟨.execute (by decide) (by decide) (by decide) (by decide) hbare, rfl⟩,
        ⟨.command (by decide) (by decide) (by decide) (by decide) (by decide) (by decide), rfl⟩,
        by simp⟩⟩
  have hspoken : Spoken [open', closed] (.header open'.name :: (open'.body ++ [] ++
      .header closed.name :: (closed.body ++ [.close] ++ []))) :=
    .cons (.inl rfl) (.cons (.inr rfl) .nil)
  let header : Text := "function f(=> void)".toList
  let said : Text := "say \"old\"".toList
  let header' : Text := "\tfunction\tf (a)=> b=> int)".toList
  let executed : Text := "execute(=>\x7b@s\x7d,\x7b@p\x7d, \x7bsay hi\x7d)".toList
  let killed : Text := "kill\t@e ".toList
  have hheader : PrintedLine (.header "f".toList) header :=
    .pad [] [] (by decide) (.header [' '] [] [] [' '] "void".toList (by decide) (by decide)
      (by decide) (by decide) (by decide) (by decide)) (by decide)
  have hsaid : PrintedLine (.say "old".toList) said :=
    .pad [] [] (by decide) (.say [' '] [] (by decide) (by decide) (by decide)) (by decide)
  have hheader' : PrintedLine (.header "f".toList) header' :=
    .pad ['\t'] [] (by decide) (.header ['\t'] [' '] "a)=> b".toList [' '] "int".toList
      (by decide) (by decide) (by decide) (by decide) (by decide) (by decide)) (by decide)
  have hexecuted : PrintedLine (.execute conditions "say hi".toList) executed :=
    .pad [] [] (by decide) (.execute [] [' '] (by decide) (by decide)) (by decide)
  have hkilled : PrintedLine (.command "kill".toList "@e".toList) killed :=
    .pad [] [' '] (by decide) (.command ['\t'] (by decide) (by decide)) (by decide)
  have hend : PrintedLine .close "end".toList := .pad [] [] (by decide) .close (by decide)
  have hended : Ended [header, said, header', executed, killed, "end".toList] text := by
    have hcut : text = header ++ ['\r'] ++ (said ++ ['\r', '\n'] ++ (header' ++ ['\n'] ++
        (executed ++ ['\n'] ++ (killed ++ ['\n'] ++ ("end".toList ++ ['\r'] ++ []))))) := by
      decide
    rw [hcut]
    exact .cons (by decide) (.cons (by decide) (.cons (by decide) (.cons (by decide)
      (.cons (by decide) (.cons (by decide) .nil)))))
  have hprints : Prints [open', closed] text :=
    ⟨_, _, hspoken, .cons hheader (.cons hsaid (.cons hheader' (.cons hexecuted (.cons hkilled
      (.cons hend .nil))))), hended⟩
  refine ⟨_, hprints, ?_⟩
  rw [(printed_program_compiles _).2 text hprints]
  rfl

end Datapack.Proofs.RoundTrip
