import Datapack.Proofs.Continuation
import Datapack.Proofs.LineScan
import Datapack.Proofs.LineTexts
import Datapack.Proofs.PackPaths

namespace Datapack.Proofs.Concatenation

open LineEnds LineScan LineTexts PackPaths Feeding Continuation

variable {t t' : Text} {functions : FunctionTable} {file : PackFile}

/-- Between these texts no line goes on and no two breaks become one. -/
structure Seam (t t' : Text) : Prop where
  ended : ∀ c ∈ t.getLast?, isLineBreak c = true
  apart : t.getLast? = some '\r' → t'.head? ≠ some '\n'

theorem lines_textOf_append {scanned : List Scanned} (hscanned : Separated scanned)
    (h : Seam (textOf scanned) t') :
    (textOf scanned ++ t').lines = scanned.map Scanned.line ++ t'.lines := by
  induction hscanned with
  | nil => rfl
  | @last line hline hne =>
      have hended := h.ended _ (List.getLast?_eq_some_getLast (by simpa [textOf] using hne))
      have hfree : IsBreakFree (textOf [⟨line, []⟩]) := by simpa [textOf] using hline
      cases hended.symm.trans (hfree _ (List.getLast_mem _))
  | @cons line ending later hline hending hnext _ ih =>
      have hlast {c : Char} (hc : (textOf later).getLast? = some c) :
          (textOf (⟨line, ending⟩ :: later)).getLast? = some c := by
        simp [textOf_cons, List.getLast?_append, hc]
      -- what follows the first line meets the second text in a seam again
      have hrest : Seam (textOf later) t' :=
        ⟨fun c hc => h.ended c (hlast hc), fun hc => h.apart (hlast hc)⟩
      have hnext' : ending = ['\r'] → (textOf later ++ t').head? ≠ some '\n' := by
        rintro rfl
        cases hlater : textOf later with
        | nil => exact h.apart (by simp [textOf_cons, hlater])
        | cons c r => simpa [hlater] using hnext rfl
      rw [textOf_cons, List.append_assoc, lines_append hline hending hnext', ih hrest]
      rfl

theorem lines_concat (h : Seam t t') : (t ++ t').lines = t.lines ++ t'.lines := by
  have hseam : Seam (textOf (scan t)) t' := by rwa [textOf_scan]
  have hlines := lines_textOf_append (separated_scan t) hseam
  rwa [textOf_scan, ← lines_eq_scan] at hlines

theorem mem_files_iff : file ∈ (Artifact.ofFunctions functions).files ↔
    (∃ name commands, functions.get? name = some commands ∧
      file = Artifact.functionFile name commands) ∨
    file ∈ Layout.tags.map Artifact.tagFile ++ [Artifact.manifestFile] := by
  simp only [Artifact.ofFunctions, List.append_assoc, List.mem_append (s := functions.entries.map _),
    List.mem_map (l := functions.entries), Prod.exists, FunctionTable.get?_eq_some_iff,
    eq_comm (a := file)]

/-- Of two tables, one over the other, the upper one has all its files and the
lower one those of the names that only it has. -/
theorem mem_files_of_override {lower upper : FunctionTable}
    (hslash : ∀ name ∈ lower.names, '/' ∉ name)
    (hget : ∀ name, functions.get? name = (upper.get? name).or (lower.get? name)) :
    file ∈ (Artifact.ofFunctions functions).files ↔ file ∈ (Artifact.ofFunctions upper).files ∨
      ∃ name ∈ lower.names, name ∉ upper.names ∧
        (Artifact.ofFunctions lower).file? (Layout.functionPath name) = some file := by
  rw [mem_files_iff, mem_files_iff]
  constructor
  · rintro (⟨name, commands, hcommands, rfl⟩ | hfixed)
    · cases hupper : upper.get? name with
      | some commands' =>
          rw [hget, hupper, Option.some_or] at hcommands
          exact .inl (.inl ⟨name, commands, hupper.trans hcommands, rfl⟩)
      | none =>
          rw [hget, hupper, Option.none_or] at hcommands
          have hname : name ∈ lower.names := FunctionTable.mem_names.2 ⟨commands, hcommands⟩
          refine .inr ⟨name, hname, FunctionTable.get?_eq_none_iff.1 hupper, ?_⟩
          rw [file?_functionPath (hslash name hname) hslash, hcommands]
          rfl
    · exact .inl (.inr hfixed)
  · rintro ((⟨name, commands, hcommands, rfl⟩ | hfixed) | ⟨name, hname, hother, hfile⟩)
    · exact .inl ⟨name, commands, by rw [hget, hcommands]; rfl, rfl⟩
    · exact .inr hfixed
    · rw [file?_functionPath (hslash name hname) hslash, Option.map_eq_some_iff] at hfile
      obtain ⟨commands, hcommands, rfl⟩ := hfile
      refine .inl ⟨name, commands, ?_, rfl⟩
      rw [hget, FunctionTable.get?_eq_none_iff.2 hother, hcommands]
      rfl

/-- A script in two parts says what its second part says and, where that part is
silent, what the first one says, unless commands at the start of the second part
go on with a body that the first part leaves open. -/
theorem concatenation_overrides (h : Seam t t') :
    (Source.lines (t ++ t')).map Line.raw =
      (Source.lines t).map Line.raw ++ (Source.lines t').map Line.raw ∧
    ((Blocks.start.feedAll (statementsOf t.lines)).isOpen = false ∨
        StartsAfresh (statementsOf t'.lines) →
      let pack := Pack.ofLines (Source.lines (t ++ t'))
      let first := Pack.ofLines (Source.lines t)
      let second := Pack.ofLines (Source.lines t')
      (∀ name, pack.functions.get? name =
        (second.functions.get? name).or (first.functions.get? name)) ∧
      ∀ file, file ∈ pack.artifact.files ↔ file ∈ second.artifact.files ∨
        ∃ name ∈ first.functions.names, name ∉ second.functions.names ∧
          first.artifact.file? (Layout.functionPath name) = some file) := by
  refine ⟨by simp only [map_raw_lines, lines_concat h], ?_⟩
  intro hafresh pack first second
  have hget (name : Text) : pack.functions.get? name =
      (second.functions.get? name).or (first.functions.get? name) := by
    have hpack : pack.functions = .ofStatements (statementsOf t.lines ++ statementsOf t'.lines) := by
      rw [statementsOf, statementsOf, ← List.map_append, ← lines_concat h]
      exact ofLines_source (t ++ t')
    have hfirst : first.functions = .ofStatements (statementsOf t.lines) := ofLines_source t
    have hsecond : second.functions = .ofStatements (statementsOf t'.lines) := ofLines_source t'
    rw [hpack, hfirst, hsecond]
    exact get?_append hafresh name
  exact ⟨hget, fun file => mem_files_of_override (fun name hname => slash_not_mem_names hname) hget⟩

/-- The second part ends the body that the first one leaves open, and its first
break is of the same kind as the last break of the first part. -/
theorem reopened_function_overridden :
    let first : Text := "function a(=> void)\nsay \"1\"\nfunction b(=> void)\nsay \"2\"\r".toList
    let second : Text := "\r# b goes on\nend\nsay \"3\"\nfunction a(=> void)\nsay \"4\"".toList
    let pack := Pack.ofLines (Source.lines (first ++ second))
    Seam first second ∧ StartsAfresh (statementsOf second.lines) ∧
      pack.functions.get? "a".toList = some ["say 4".toList] ∧
      pack.functions.get? "b".toList = some ["say 2".toList] := by
  intro first second pack
  have hlast : first.getLast? = some '\r' := by decide
  have hseam : Seam first second := ⟨by simp [hlast, isLineBreak], by decide⟩
  have hafresh : StartsAfresh (statementsOf second.lines) := by decide +kernel
  obtain ⟨hget, -⟩ := (concatenation_overrides hseam).2 (.inr hafresh)
  refine ⟨hseam, hafresh, ?_, ?_⟩
  · rw [hget]
    decide +kernel
  · rw [hget]
    decide +kernel

end Datapack.Proofs.Concatenation
