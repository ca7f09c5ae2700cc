import Datapack.Proofs.LineEnds
import Datapack.Proofs.LineTexts
import Datapack.Proofs.PackPaths

namespace Datapack.Proofs.FunctionFiles

open LastBlock LineEnds LineTexts Margins PackPaths Grammar RuleForms

variable {t name command : Text} {lines : List Line} {commands : List Text}

theorem file?_of_get? (h : (FunctionTable.ofLines lines).get? name = some commands) :
    (Pack.ofLines lines).artifact.file? (Layout.functionPath name) =
      some ⟨Layout.functionPath name, endLines ['\n'] (Artifact.functionCommands name commands)⟩ := by
  have hslash : ∀ other ∈ (FunctionTable.ofLines lines).names, '/' ∉ other :=
    fun other ho => slash_not_mem_names ho
  have hname : '/' ∉ name := hslash name (FunctionTable.mem_names.2 ⟨commands, h⟩)
  rw [Pack.ofLines, Pack.ofFunctions, file?_functionPath hname hslash, h]
  rfl

theorem isBreakFree_command (h : (FunctionTable.ofLines (Source.lines t)).get? name = some commands)
    (hc : command ∈ commands) : IsBreakFree command := by
  obtain ⟨line, hline, hcommand⟩ := exists_line_of_mem h hc
  have hraw : line.raw ∈ t.lines := map_raw_lines t ▸ List.mem_map_of_mem hline
  have htrimmed : line.trimmed = Line.trim line.raw := by
    obtain ⟨entry, -, rfl⟩ := List.mem_map.1 hline
    rfl
  intro c hm
  refine Bool.eq_false_iff.2 fun hbreak => ?_
  obtain ⟨hmem, -⟩ := isLineBreak_of_mem_command? hcommand hm hbreak
  rw [htrimmed] at hmem
  have hfree := isBreakFree_of_mem_lines hraw c (mem_of_mem_strip hmem)
  rw [hbreak] at hfree
  cases hfree

theorem isBreakFree_functionCommands
    (h : (FunctionTable.ofLines (Source.lines t)).get? name = some commands) :
    ∀ command ∈ Artifact.functionCommands name commands, IsBreakFree command := by
  have hload : IsBreakFree Layout.loadCommand := by decide
  intro command hc
  rw [Artifact.functionCommands] at hc
  split at hc
  · rwa [List.mem_singleton.1 hc]
  · exact isBreakFree_command h hc

theorem raw_functionCommands
    (h : (FunctionTable.ofLines (Source.lines t)).get? name = some commands) :
    (Source.lines (endLines ['\n'] (Artifact.functionCommands name commands))).map Line.raw =
      Artifact.functionCommands name commands := by
  rw [map_raw_lines]
  exact lines_endLines (isBreakFree_functionCommands h) (by simp [endings])

theorem get?_of_header {line : Line} (hline : line ∈ lines) (h : Header name line.trimmed) :
    ∃ commands, (FunctionTable.ofLines lines).get? name = some commands := by
  apply FunctionTable.mem_names.1
  apply (mem_names_ofStatements _ _).2
  exact List.mem_map.2 ⟨line, hline, ofText_of_keyword (.header h)⟩

theorem length_commandsOf (body : List Statement) :
    (commandsOf body).length = body.countP (fun s => s.command?.isSome) := by
  rw [commandsOf, List.length_filterMap_eq_countP]

/-- Each command of a table is a line of its own in its function's file. For a
table from a script the file is read back as the commands in any way to end
lines, so it has as many lines as the last block has statements that become
commands. Only the file of `load` has another line in place of its commands. Every
header of the script has such a file. -/
theorem function_files_read_back :
    (∀ lines name commands, (FunctionTable.ofLines lines).get? name = some commands →
      (∀ command ∈ commands, '\n' ∉ command) ∧
      (name ≠ Layout.loadName → ∃ file,
        (Pack.ofLines lines).artifact.file? (Layout.functionPath name) = some file ∧
        file.contents.splitOn '\n' = commands ++ [[]])) ∧
    (∀ t name commands, (FunctionTable.ofLines (Source.lines t)).get? name = some commands →
      (∀ command ∈ commands, '\n' ∉ command ∧ '\r' ∉ command) ∧
      ∃ file, (Pack.ofLines (Source.lines t)).artifact.file? (Layout.functionPath name) = some file ∧
        (name ≠ Layout.loadName →
          (Source.lines file.contents).map Line.raw = commands ∧
          (∀ ending ∈ endings, (withEnding ending file.contents).lines = commands) ∧
          (∀ p : Char → Bool, p '\n' = true → (∀ c, p c = true → isLineBreak c = true) →
            file.contents.splitOnP p = commands ++ [[]]) ∧
          ∃ body, IsLastBlock name
              ((Source.lines t).map (fun line => Statement.ofText line.trimmed)) body ∧
            commands.length = body.countP (fun s => s.command?.isSome)) ∧
        (name = Layout.loadName →
          (Source.lines file.contents).map Line.raw = [Layout.loadCommand])) ∧
    ∀ t, ∀ line ∈ Source.lines t, ∀ name, Header name line.trimmed → ∃ commands file,
      (FunctionTable.ofLines (Source.lines t)).get? name = some commands ∧
      (Pack.ofLines (Source.lines t)).artifact.file? (Layout.functionPath name) = some file ∧
      (Source.lines file.contents).map Line.raw =
        if name = Layout.loadName then [Layout.loadCommand] else commands := by
  refine ⟨fun lines name commands h => ?_, fun t name commands h => ?_,
    fun t line hline name hheader => ?_⟩
  · have hfeed : ∀ command ∈ commands, '\n' ∉ command := fun _ hc => newline_not_mem_command h hc
    refine ⟨hfeed, fun hload => ⟨_, file?_of_get? h, ?_⟩⟩
    simp only [Artifact.functionCommands, if_neg hload]
    rw [List.splitOn_eq_splitOnP]
    refine splitOnP_endLines rfl fun command hc c hm => ?_
    exact beq_eq_false_iff_ne.2 fun he => hfeed command hc (he ▸ hm)
  · have hfree : ∀ command ∈ commands, IsBreakFree command := fun _ hc => isBreakFree_command h hc
    have hfeed : ∀ command ∈ commands, '\n' ∉ command := fun _ hc => (hfree _ hc).newline_not_mem
    have hraw := raw_functionCommands h
    refine ⟨fun _ hc => ⟨hfeed _ hc, fun hm => absurd (hfree _ hc _ hm) (by decide)⟩, _,
      file?_of_get? h, fun hload => ?_, fun hload => ?_⟩
    · simp only [Artifact.functionCommands, if_neg hload] at hraw ⊢
      obtain ⟨body, hbody, rfl⟩ := (get?_ofStatements_iff _ _ _).1 h
      refine ⟨hraw, fun ending he => ?_, fun p hp hbreak => ?_, body, hbody, length_commandsOf body⟩
      · rw [withEnding_endLines ending hfeed, lines_endLines hfree he]
      · refine splitOnP_endLines hp fun command hc c hm => Bool.eq_false_iff.2 fun hpc => ?_
        exact absurd (hbreak c hpc) (Bool.eq_false_iff.1 (hfree command hc c hm))
    · rwa [Artifact.functionCommands, if_pos hload] at hraw ⊢
  · obtain ⟨commands, h⟩ := get?_of_header hline hheader
    exact ⟨commands, _, h, file?_of_get? h, raw_functionCommands h⟩

/-- The value of the declaration looks like the end of the block. -/
theorem load_and_greeting_read_back :
    let header : Text := "function greet(who => void)".toList
    let t : Text := header ++ ("\nvar n =\tend\n say \"hi\"\nend\r\n" ++
      "function load( => void)\rsay \"no\"").toList
    let greet : Text := "greet".toList
    let table := FunctionTable.ofLines (Source.lines t)
    let artifact := (Pack.ofLines (Source.lines t)).artifact
    let commands : List Text := ["scoreboard objectives add n dummy".toList, "say hi".toList]
    Header greet header ∧ table.get? greet = some commands ∧ greet ≠ Layout.loadName ∧
      table.get? Layout.loadName = some ["say no".toList] ∧
      (∃ file, artifact.file? (Layout.functionPath greet) = some file ∧
        (Source.lines file.contents).map Line.raw = commands ∧
        (withEnding ['\r', '\n'] file.contents).lines = commands) ∧
      ∃ file, artifact.file? (Layout.functionPath Layout.loadName) = some file ∧
        (Source.lines file.contents).map Line.raw = [Layout.loadCommand] := by
  intro header t greet table artifact commands
  have hblanks : IsBlanks [' '] := by simp [IsBlanks, isBlank]
  have hheader : Header greet header := by
    refine ⟨[' '], [], "who ".toList, [' '], "void".toList, hblanks, by simp, by decide, ?_,
      by decide, hblanks, by decide, rfl⟩
    simp [IsBlanks]
  have hline : ⟨1, header, header⟩ ∈ Source.lines t := by decide +kernel
  have hgreet : table.get? greet = some commands := by decide +kernel
  have hload : table.get? Layout.loadName = some ["say no".toList] := by decide +kernel
  have hne : greet ≠ Layout.loadName := by decide
  obtain ⟨-, hread, hfound⟩ := function_files_read_back
  obtain ⟨commands', file, hget, hfile, hraw⟩ := hfound t _ hline greet hheader
  obtain rfl : commands' = commands := Option.some.inj (hget.symm.trans hgreet)
  obtain ⟨-, _, hfile', hlines, -⟩ := hread t greet _ hget
  obtain rfl := Option.some.inj (hfile'.symm.trans hfile)
  obtain ⟨-, loadFile, hloadFile, -, hreplaced⟩ := hread t Layout.loadName _ hload
  have hending : ['\r', '\n'] ∈ endings := by simp [endings]
  rw [if_neg hne] at hraw
  exact ⟨hheader, hget, hne, hload, ⟨_, hfile, hraw, (hlines hne).2.1 _ hending⟩, loadFile,
    hloadFile, hreplaced rfl⟩

end Datapack.Proofs.FunctionFiles
