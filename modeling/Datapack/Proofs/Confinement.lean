import Datapack.Proofs.LineTexts
import Datapack.Proofs.PackPaths

namespace Datapack.Proofs.Confinement

open Layout Grammar LastBlock LineTexts PackPaths

/-- Whatever a script says, the functions it declares have plain names, its
files are these functions in the order of their names and then the fixed files,
each function stays right below the directory of functions, no file is in the
way of another or of a directory, and a place that a slash-free name stands for
holds that function's file or none. -/
theorem pack_confined (t : Text) :
    let pack := Pack.ofLines (Source.lines t)
    (∀ name, name ∈ pack.functions.names ↔
      ∃ line ∈ Source.lines t, Statement.ofText line.trimmed = .header name) ∧
    (∀ name ∈ pack.functions.names, IsName name) ∧
    pack.functions.names.Pairwise (· < ·) ∧
    pack.artifact.files.map PackFile.path = pack.functions.names.map functionPath ++
      [tagPath loadName, tagPath "update".toList, manifestPath] ∧
    (∀ name ∈ pack.functions.names, (functionPath name).isAbsolute = false ∧
      (functionPath name).components =
        functionsDirectory.components ++ [.name (name ++ ".mcfunction".toList)]) ∧
    pack.artifact.files.Pairwise (fun a b => Apart a.path b.path) ∧
    (∀ file ∈ pack.artifact.files, ∀ directory ∈ pack.artifact.directories,
      ¬file.path.components <+: directory.components) ∧
    ∀ name, '/' ∉ name →
      (name ∉ pack.functions.names → pack.artifact.file? (functionPath name) = none) ∧
      ∀ commands, pack.functions.get? name = some commands →
        pack.artifact.file? (functionPath name) = some (Artifact.functionFile name commands) := by
  intro pack
  have hslash : ∀ name ∈ pack.functions.names, '/' ∉ name := fun name h => slash_not_mem_names h
  have hfile (name : Text) (h : '/' ∉ name) : pack.artifact.file? (functionPath name) =
      (pack.functions.get? name).map (Artifact.functionFile name) := file?_functionPath h hslash
  refine ⟨fun name => ?_, fun name h => isName_of_mem_names h, ?_, ?_, ?_, files_apart hslash,
    file_not_above_directory hslash, fun name h => ⟨fun hm => ?_, fun commands hget => ?_⟩⟩
  · exact (mem_names_ofStatements _ name).trans List.mem_map
  · exact List.pairwise_map.2 pack.functions.sorted
  · simp [pack, Pack.ofLines, Pack.ofFunctions, Artifact.ofFunctions, FunctionTable.names, tags,
      Artifact.functionFile, Artifact.tagFile, Artifact.manifestFile, Function.comp_def]
  · intro name h
    exact ⟨functionPath_relative (hslash name h), functionPath_components (hslash name h)⟩
  · have hnone : pack.functions.get? name = none :=
      Option.eq_none_iff_forall_ne_some.2 fun commands hget =>
        hm (FunctionTable.mem_names.2 ⟨commands, hget⟩)
    rw [hfile name h, hnone]
    rfl
  · rw [hfile name h, hget]
    rfl

end Datapack.Proofs.Confinement
