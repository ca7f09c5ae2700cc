import Datapack.Proofs.LocalEdits
import Datapack.Proofs.LineEnds
import Datapack.Proofs.PackPaths

namespace Datapack.Proofs.Rendering

open Layout LineEnds PackPaths LocalEdits

variable {name : Text} {functions functions' : FunctionTable} {lines lines' : List Text}

structure SameFile (file file' : PackFile) : Prop where
  path : file.path.samePlace file'.path = true
  contents : file.contents = file'.contents

/-- The same contents at the same places. How a path is written does not count. -/
structure SameArtifact (artifact artifact' : Artifact) : Prop where
  directories : List.Forall₂ (fun path path' => path.samePlace path' = true)
    artifact.directories artifact'.directories
  files : List.Forall₂ SameFile artifact.files artifact'.files

structure Plain (functions : FunctionTable) : Prop where
  names : ∀ name ∈ functions.names, '/' ∉ name
  commands : ∀ entry ∈ functions.entries, ∀ command ∈ entry.2, '\n' ∉ command

theorem SameArtifact.refl (artifact : Artifact) : SameArtifact artifact artifact where
  directories := List.forall₂_same.2 fun _ _ => decide_eq_true rfl
  files := List.forall₂_same.2 fun _ _ => ⟨decide_eq_true rfl, rfl⟩

/-- No command at all is told from one empty command. -/
theorem unlines_injective (h : ∀ l ∈ lines, '\n' ∉ l) (h' : ∀ l ∈ lines', '\n' ∉ l)
    (heq : Text.unlines lines = Text.unlines lines') : lines = lines' := by
  have hsplit {ls : List Text} (hls : ∀ l ∈ ls, '\n' ∉ l) :
      (Text.unlines ls).splitOnP (fun c => c = '\n') = ls ++ [[]] := by
    refine splitOnP_endLines (by simp) fun l hl c hc => ?_
    exact decide_eq_false fun he => hls l hl (he ▸ hc)
  have hpieces : lines ++ [[]] = lines' ++ [[]] := by
    rw [← hsplit h, ← hsplit h', heq]
  exact List.append_cancel_right hpieces

theorem lookup_agree {entries entries' : List (Text × List Text)} {other : Text}
    (h : List.Forall₂ (fun entry entry' => entry.1 = entry'.1 ∧
      (entry.1 ≠ name → entry.2 = entry'.2)) entries entries')
    (hother : other ≠ name) : entries.lookup other = entries'.lookup other := by
  induction h with
  | nil => rfl
  | cons hentry _ ih =>
      rw [Lookup.lookup_cons, Lookup.lookup_cons, ih, ← hentry.1]
      split
      · rename_i he
        rw [hentry.2 (he ▸ hother)]
      · rfl

theorem agreeBut_iff : AgreeBut name functions functions' ↔ List.Forall₂
    (fun entry entry' => entry.1 = entry'.1 ∧ (entry.1 ≠ name → entry.2 = entry'.2))
    functions.entries functions'.entries := by
  refine ⟨entries_agree, fun h => ⟨?_, fun other hother => lookup_agree h hother⟩⟩
  rw [FunctionTable.names, FunctionTable.names, ← List.forall₂_eq_eq_eq,
    List.forall₂_map_left_iff, List.forall₂_map_right_iff]
  exact h.imp fun _ _ hentry => hentry.1

theorem length_files (functions : FunctionTable) :
    (Artifact.ofFunctions functions).files.length = functions.size + 3 := by
  simp [Artifact.ofFunctions, FunctionTable.size, tags]

theorem functionFiles_same
    (h : SameArtifact (.ofFunctions functions) (.ofFunctions functions')) :
    List.Forall₂ (fun entry entry' => SameFile (Artifact.functionFile entry.1 entry.2)
      (Artifact.functionFile entry'.1 entry'.2)) functions.entries functions'.entries := by
  have hlength := h.files.length_eq
  rw [length_files, length_files, FunctionTable.size, FunctionTable.size] at hlength
  have hfiles := h.files
  rw [Artifact.ofFunctions, Artifact.ofFunctions, List.append_assoc, List.append_assoc] at hfiles
  have hfront := List.forall₂_take_append _ _ _ hfiles
  rw [List.take_left' (by simpa using hlength)] at hfront
  rwa [List.forall₂_map_left_iff, List.forall₂_map_right_iff] at hfront

theorem entry_of_sameFile {other : Text} {commands commands' : List Text}
    (hname : '/' ∉ name) (hother : '/' ∉ other) (h : ∀ c ∈ commands, '\n' ∉ c)
    (h' : ∀ c ∈ commands', '\n' ∉ c)
    (hsame : SameFile (Artifact.functionFile name commands) (Artifact.functionFile other commands')) :
    name = other ∧ (name ≠ loadName → commands = commands') := by
  obtain rfl : name = other := (functionPath_samePlace_iff hname hother).1 hsame.path
  refine ⟨rfl, fun hload => unlines_injective h h' ?_⟩
  simpa [Artifact.functionFile, Artifact.functionCommands, hload] using hsame.contents

theorem agreeBut_of_sameArtifact (hplain : Plain functions) (hplain' : Plain functions')
    (h : SameArtifact (.ofFunctions functions) (.ofFunctions functions')) :
    AgreeBut loadName functions functions' := by
  have hsame := functionFiles_same h
  obtain ⟨hlength, hzip⟩ := List.forall₂_iff_zip.1 hsame
  refine agreeBut_iff.2 (List.forall₂_iff_zip.2 ⟨hlength, fun {entry entry'} hm => ?_⟩)
  obtain ⟨hentry, hentry'⟩ := List.of_mem_zip hm
  exact entry_of_sameFile (hplain.names _ (List.mem_map_of_mem hentry))
    (hplain'.names _ (List.mem_map_of_mem hentry')) (hplain.commands _ hentry)
    (hplain'.commands _ hentry') (hzip hm)

def commonFiles : List PackFile :=
  [⟨Path.ofString "data/mynamespace/tags/functions/load.json", tagContents loadName⟩,
    ⟨Path.ofString "data/mynamespace/tags/functions/update.json", tagContents "update".toList⟩,
    ⟨Path.ofString "pack.mcmeta", manifestContents⟩]

/-- Two tables of functions become one pack exactly when they differ in the
body of `load` at most. What comes after the files of the functions depends on
no function. -/
theorem rendering_forgets_only_load :
    (∀ functions functions' : FunctionTable, Plain functions → Plain functions' →
      (SameArtifact (.ofFunctions functions) (.ofFunctions functions') ↔
        AgreeBut loadName functions functions') ∧
      (Artifact.ofFunctions functions = .ofFunctions functions' ↔
        AgreeBut loadName functions functions')) ∧
    ∀ functions : FunctionTable,
      (Artifact.ofFunctions functions).directories =
        [Path.ofString "data/mynamespace/functions",
          Path.ofString "data/mynamespace/tags/functions"] ∧
      (Artifact.ofFunctions functions).files.length = functions.size + 3 ∧
      (Artifact.ofFunctions functions).files.drop functions.size = commonFiles := by
  refine ⟨fun functions functions' hplain hplain' => ?_, fun functions => ⟨rfl, ?_, ?_⟩⟩
  · have hread (h : SameArtifact (.ofFunctions functions) (.ofFunctions functions')) :
        AgreeBut loadName functions functions' := agreeBut_of_sameArtifact hplain hplain' h
    have hsame (h : Artifact.ofFunctions functions = .ofFunctions functions') :
        SameArtifact (.ofFunctions functions) (.ofFunctions functions') := h ▸ .refl _
    exact ⟨⟨hread, fun h => hsame (artifact_eq_of_load h)⟩,
      ⟨fun h => hread (hsame h), artifact_eq_of_load⟩⟩
  · exact length_files functions
  · rw [Artifact.ofFunctions, List.append_assoc, List.drop_left' (by simp [FunctionTable.size])]
    rfl

/-- A function without commands and one with an empty command, beside a `load`
whose body is lost. -/
theorem load_body_lost :
    let silent := FunctionTable.ofList [("load".toList, []), ("start".toList, [])]
    let loud := FunctionTable.ofList [("load".toList, ["say hi".toList]), ("start".toList, [])]
    let blank := FunctionTable.ofList [("load".toList, []), ("start".toList, [[]])]
    (Plain silent ∧ Plain loud ∧ Plain blank) ∧
      Artifact.ofFunctions silent = .ofFunctions loud ∧
      ¬SameArtifact (.ofFunctions silent) (.ofFunctions blank) := by
  intro silent loud blank
  have hsilent : Plain silent := ⟨by decide, by decide⟩
  have hloud : Plain loud := ⟨by decide, by decide⟩
  have hblank : Plain blank := ⟨by decide, by decide⟩
  refine ⟨⟨hsilent, hloud, hblank⟩, ?_, fun hsame => ?_⟩
  · refine ((rendering_forgets_only_load.1 silent loud hsilent hloud).2).2 (agreeBut_iff.2 ?_)
    refine .cons ⟨rfl, fun hne => absurd rfl hne⟩ (.cons ⟨rfl, fun _ => rfl⟩ .nil)
  · have hagree := ((rendering_forgets_only_load.1 silent blank hsilent hblank).1).1 hsame
    have hbody := hagree.get? "start".toList (by decide)
    exact absurd hbody (by decide)

end Datapack.Proofs.Rendering
