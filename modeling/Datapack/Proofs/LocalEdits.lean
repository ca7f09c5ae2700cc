import Datapack.Proofs.Continuation
import Mathlib.Data.List.Sort

namespace Datapack.Proofs.LocalEdits

open LastBlock Feeding Continuation Layout

variable {name : Text} {functions functions' : FunctionTable}

/-- Other lines in place of those between a header and what closes its body. The
lines are without their margins. -/
structure BodyEdit where
  name : Text
  before : List Text
  header : Text
  old : List Text
  new : List Text
  after : List Text
  opens : Statement.ofText header = .header name
  old_inside : ∀ line ∈ old, isBoundary (Statement.ofText line) = false
  new_inside : ∀ line ∈ new, isBoundary (Statement.ofText line) = false
  closes : ∀ line ∈ after.head?, isBoundary (Statement.ofText line) = true

structure AgreeBut (name : Text) (functions functions' : FunctionTable) : Prop where
  names : functions.names = functions'.names
  get? : ∀ other, other ≠ name → functions.get? other = functions'.get? other

structure SameBut (changed : Path) (file file' : PackFile) : Prop where
  path : file.path = file'.path
  contents : file.path ≠ changed → file.contents = file'.contents

namespace BodyEdit

def source (edit : BodyEdit) : List Text :=
  edit.before ++ edit.header :: (edit.old ++ edit.after)

def result (edit : BodyEdit) : List Text :=
  edit.before ++ edit.header :: (edit.new ++ edit.after)

def Reopened (edit : BodyEdit) : Prop :=
  ∃ line ∈ edit.after, Statement.ofText line = .header edit.name

end BodyEdit

/-- A body counts for its own name, unless the name is opened again after it. -/
theorem get?_around {before body after : List Statement}
    (hbody : ∀ s ∈ body, isBoundary s = false) (hafter : ∀ s ∈ after.head?, isBoundary s = true)
    (other : Text) :
    (FunctionTable.ofStatements (before ++ .header name :: (body ++ after))).get? other =
      ((FunctionTable.ofStatements after).get? other).or
        (if other = name then some (commandsOf body)
          else (FunctionTable.ofStatements before).get? other) := by
  have hafresh : StartsAfresh after := by
    intro s hs
    cases after with
    | nil => cases hs
    | cons first after =>
        have hfirst : isBoundary first = true := hafter first rfl
        have hheard : first ≠ .unmatched := by
          rintro rfl
          cases hfirst
        obtain rfl : first = s := by simpa [hheard] using hs
        exact hfirst
  have hfront : (FunctionTable.ofStatements (before ++ .header name :: body)) =
      (FunctionTable.ofStatements before).insert name (commandsOf body) := by
    have hrun : Blocks.start.feedAll (before ++ .header name :: body) =
        ⟨some ⟨name, commandsOf body⟩, FunctionTable.ofStatements before⟩ := by
      rw [feedAll_append]
      exact feedAll_inside name [] _ hbody
    rw [FunctionTable.ofStatements, hrun]
    rfl
  have hsplit : before ++ .header name :: (body ++ after) =
      before ++ .header name :: body ++ after := by simp
  rw [hsplit, get?_append (.inr hafresh), hfront, FunctionTable.get?_insert]

theorem names_eq (h : ∀ other, other ∈ functions.names ↔ other ∈ functions'.names) :
    functions.names = functions'.names := by
  have hsorted := List.pairwise_map.2 functions.sorted
  exact hsorted.eq_of_mem_iff (List.pairwise_map.2 functions'.sorted) h

theorem header_not_mem {body : List Text}
    (h : ∀ line ∈ body, isBoundary (Statement.ofText line) = false) (other : Text) :
    .header other ∉ body.map Statement.ofText := by
  intro hm
  obtain ⟨line, hline, hheader⟩ := List.mem_map.1 hm
  have hinside := h line hline
  rw [hheader] at hinside
  cases hinside

theorem get?_edit (edit : BodyEdit) {body : List Text}
    (hbody : ∀ line ∈ body, isBoundary (Statement.ofText line) = false) (other : Text) :
    (FunctionTable.ofStatements
        ((edit.before ++ edit.header :: (body ++ edit.after)).map Statement.ofText)).get? other =
      ((FunctionTable.ofStatements (edit.after.map Statement.ofText)).get? other).or
        (if other = edit.name then some (commandsOf (body.map Statement.ofText))
          else (FunctionTable.ofStatements (edit.before.map Statement.ofText)).get? other) := by
  have hafter : ∀ s ∈ (edit.after.map Statement.ofText).head?, isBoundary s = true := by
    simpa [List.head?_map] using edit.closes
  rw [List.map_append, List.map_cons, edit.opens, List.map_append]
  exact get?_around (by simpa using hbody) hafter other

theorem agreeBut_edit (edit : BodyEdit) : AgreeBut edit.name
    (.ofStatements (edit.source.map Statement.ofText))
    (.ofStatements (edit.result.map Statement.ofText)) where
  names := by
    apply names_eq
    intro other
    rw [mem_names_ofStatements, mem_names_ofStatements]
    simp only [BodyEdit.source, BodyEdit.result, List.map_append, List.map_cons, List.mem_append,
      List.mem_cons, header_not_mem edit.old_inside, header_not_mem edit.new_inside, false_or]
  get? := fun other hne => by
    rw [BodyEdit.source, BodyEdit.result, get?_edit edit edit.old_inside,
      get?_edit edit edit.new_inside, if_neg hne, if_neg hne]

theorem eq_of_reopened {edit : BodyEdit} (h : edit.Reopened) :
    FunctionTable.ofStatements (edit.source.map Statement.ofText) =
      .ofStatements (edit.result.map Statement.ofText) := by
  obtain ⟨commands, hcommands⟩ : ∃ commands,
      (FunctionTable.ofStatements (edit.after.map Statement.ofText)).get? edit.name =
        some commands := by
    rw [← FunctionTable.mem_names, mem_names_ofStatements]
    exact List.mem_map.2 h
  ext1 other
  by_cases hname : other = edit.name
  · rw [BodyEdit.source, BodyEdit.result, get?_edit edit edit.old_inside,
      get?_edit edit edit.new_inside, hname, hcommands]
    rfl
  · exact (agreeBut_edit edit).get? other hname

section Files

variable (h : AgreeBut name functions functions')

include h

theorem entries_agree : List.Forall₂
    (fun entry entry' => entry.1 = entry'.1 ∧ (entry.1 ≠ name → entry.2 = entry'.2))
    functions.entries functions'.entries := by
  have hnames : List.Forall₂ (fun entry entry' => entry.1 = entry'.1)
      functions.entries functions'.entries := by
    have heq := h.names
    rwa [FunctionTable.names, FunctionTable.names, ← List.forall₂_eq_eq_eq,
      List.forall₂_map_left_iff, List.forall₂_map_right_iff] at heq
  obtain ⟨hlength, hzip⟩ := List.forall₂_iff_zip.1 hnames
  refine List.forall₂_iff_zip.2 ⟨hlength, fun {entry entry'} hm => ⟨hzip hm, fun hne => ?_⟩⟩
  obtain ⟨hentry, hentry'⟩ := List.of_mem_zip hm
  have hget : functions.get? entry.1 = some entry.2 := FunctionTable.get?_eq_some_iff.2 hentry
  have hget' : functions'.get? entry'.1 = some entry'.2 := FunctionTable.get?_eq_some_iff.2 hentry'
  rw [h.get? _ hne, hzip hm, hget'] at hget
  exact (Option.some.inj hget).symm

theorem files_agree : List.Forall₂ (SameBut (functionPath name))
    (Artifact.ofFunctions functions).files (Artifact.ofFunctions functions').files := by
  have hfixed (files : List PackFile) : List.Forall₂ (SameBut (functionPath name)) files files :=
    List.forall₂_same.2 fun _ _ => ⟨rfl, fun _ => rfl⟩
  refine List.rel_append (List.rel_append ?_ (hfixed _)) (hfixed _)
  rw [List.forall₂_map_left_iff, List.forall₂_map_right_iff]
  refine (entries_agree h).imp fun entry entry' hentry => ⟨?_, fun hpath => ?_⟩
  · simp only [Artifact.functionFile, hentry.1]
  · have hne : entry.1 ≠ name := fun he => hpath (congrArg functionPath he)
    simp only [Artifact.functionFile, hentry.1, hentry.2 hne]

end Files

/-- The body of `load` is in no file. -/
theorem artifact_eq_of_load (h : AgreeBut loadName functions functions') :
    Artifact.ofFunctions functions = Artifact.ofFunctions functions' := by
  have hfiles : functions.entries.map (fun entry => Artifact.functionFile entry.1 entry.2) =
      functions'.entries.map (fun entry => Artifact.functionFile entry.1 entry.2) := by
    rw [← List.forall₂_eq_eq_eq, List.forall₂_map_left_iff, List.forall₂_map_right_iff]
    refine (entries_agree h).imp fun entry entry' ⟨hname, hcommands⟩ => ?_
    by_cases hload : entry.1 = loadName
    · simp [Artifact.functionFile, Artifact.functionCommands, ← hname, hload]
    · rw [hname, hcommands hload]
  rw [Artifact.ofFunctions, Artifact.ofFunctions, hfiles]

/-- However the body under one header is rewritten, the functions keep their names
and all others their bodies, and the pack its files but for the contents of one.
If the function is opened again later nothing changes, and the body of `load`
changes no file. -/
theorem body_edit_is_local (edit : BodyEdit) (lines lines' : List Line)
    (hlines : lines.map Line.trimmed = edit.source)
    (hlines' : lines'.map Line.trimmed = edit.result) :
    let pack := Pack.ofLines lines
    let pack' := Pack.ofLines lines'
    AgreeBut edit.name pack.functions pack'.functions ∧
    pack.artifact.directories = pack'.artifact.directories ∧
    List.Forall₂ (SameBut (functionPath edit.name)) pack.artifact.files pack'.artifact.files ∧
    (edit.Reopened → pack.functions = pack'.functions) ∧
    (edit.Reopened ∨ edit.name = loadName → pack.artifact = pack'.artifact) := by
  intro pack pack'
  have hpack : pack.functions = .ofStatements (edit.source.map Statement.ofText) := by
    rw [← hlines, List.map_map]
    rfl
  have hpack' : pack'.functions = .ofStatements (edit.result.map Statement.ofText) := by
    rw [← hlines', List.map_map]
    rfl
  have hagree : AgreeBut edit.name pack.functions pack'.functions := by
    rw [hpack, hpack']
    exact agreeBut_edit edit
  have hsame (h : edit.Reopened) : pack.functions = pack'.functions := by
    rw [hpack, hpack', eq_of_reopened h]
  refine ⟨hagree, rfl, files_agree hagree, hsame, ?_⟩
  rintro (h | h)
  · exact congrArg Artifact.ofFunctions (hsame h)
  · exact artifact_eq_of_load (h ▸ hagree)

/-- Lines that look like a header and like an end do not close the body. -/
theorem near_header_changes_one_file :
    let edit : BodyEdit :=
      { name := "a".toList
        before := ["function b(=> void)".toList]
        header := "function a(=> void)".toList
        old := ["say \"1\"".toList]
        new := ["function c(void)".toList, "end of a".toList]
        after := ["end".toList, "say \"2\"".toList]
        opens := by decide
        old_inside := by decide
        new_inside := by decide
        closes := by decide }
    let lines := Source.lines
      "function b(=> void)\nfunction a(=> void)\n say \"1\"\nend\nsay \"2\"".toList
    let lines' := Source.lines
      "function b(=> void)\nfunction a(=> void)\nfunction c(void)\nend of a\nend\nsay \"2\"".toList
    lines.map Line.trimmed = edit.source ∧ lines'.map Line.trimmed = edit.result ∧
      List.Forall₂ (SameBut (functionPath "a".toList)) (Pack.ofLines lines).artifact.files
        (Pack.ofLines lines').artifact.files := by
  intro edit lines lines'
  have hlines : lines.map Line.trimmed = edit.source := by decide +kernel
  have hlines' : lines'.map Line.trimmed = edit.result := by decide +kernel
  obtain ⟨-, -, hfiles, -⟩ := body_edit_is_local edit lines lines' hlines hlines'
  exact ⟨hlines, hlines', hfiles⟩

end Datapack.Proofs.LocalEdits
