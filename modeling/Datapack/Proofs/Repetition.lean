import Datapack.Proofs.PackOnDisk
import Datapack.Proofs.Parents

namespace Datapack.Proofs.Repetition

open Emission Lookups Places DiskSteps PackPaths Parents PackOnDisk

variable {disk : Disk} {path target : Path} {place : Location} {name : Text}
  {contents : Text} {bytes : Bytes} {request : Request} {asked : List Request}

theorem makeDirectory_of_found (h : disk.find path = .ok .directory) :
    disk.makeDirectory path = .error .alreadyExists := by
  obtain ⟨spot, hl, hshows⟩ := find_eq_ok_iff.1 h
  rw [Disk.makeDirectory, hl]
  cases hshows with
  | directory => rfl
  | name hsize hget hslash => simp [bind, Except.bind, hsize, hget]

theorem settle_of_found (h : disk.find path = .ok .directory) (cause : Cause) :
    Disk.files.settle path (.error cause) disk = (.ok (), disk) := by
  have hread : disk.read path = .error .isDirectory := by
    rw [Disk.read, h]
    rfl
  rw [settle_run, isDirectory_run, hread]
  rfl

/-- Where a directory is, making it changes nothing. The empty path asks for nothing. -/
theorem createDirectory_of_found (h : path.text ≠ [] → disk.find path = .ok .directory) :
    Disk.files.createDirectory path disk = (.ok (), disk) := by
  have hmade : Disk.files.makeAll path.ancestors disk = (.ok (), disk) := by
    by_cases hne : path.text = []
    · rw [Path.ancestors_eq_nil hne]
      rfl
    · obtain ⟨above, habove⟩ := List.head?_eq_some_iff.1 (Path.head?_ancestors hne)
      rw [habove, makeAll_run, makeDirectory_of_found (h hne)]
      exact settle_of_found (h hne) .alreadyExists
  rw [createDirectory_run, hmade]
  rfl

/-- The directories above the file are there. -/
theorem writeFile_of_locate (h : disk.locate path = .ok (.name place name false)) :
    Disk.files.writeFile path contents disk = Disk.files.writeContents path contents disk := by
  obtain ⟨above, hparent, hfound⟩ := parent?_of_locate h
  simp only [FileSystem.writeFile, hparent, bind_run, createDirectory_of_found hfound]

theorem writeFile_ok (h : disk.locate path = .ok (.name place name false))
    (hsize : ¬Disk.maxNameSize < name.utf8Size)
    (hentry : disk.tree.get? (place ++ [name]) ≠ some .directory) :
    Disk.files.writeFile path contents disk =
      (.ok (), put disk (place ++ [name]) (.file contents.toUtf8)) := by
  rw [writeFile_of_locate h, writeContents_run,
    write_eq_ok_iff.2 ⟨place, name, h, hsize, hentry, rfl⟩]
  rfl

/-- A file has a place below a directory, and its path does not end in a slash. -/
theorem locate_of_file (h : disk.find path = .ok (.file bytes)) :
    ∃ place name, disk.locate path = .ok (.name place name false) ∧
      ¬Disk.maxNameSize < name.utf8Size ∧
      disk.tree.get? (place ++ [name]) = some (.file bytes) := by
  obtain ⟨spot, hl, hshows⟩ := find_eq_ok_iff.1 h
  cases hshows with
  | @name place name slash entry hsize hget hslash =>
      cases slash with
      | true => cases hslash rfl
      | false => exact ⟨place, name, hl, hsize, hget⟩

theorem writeFile_again (h : disk.find path = .ok (.file contents.toUtf8)) :
    Disk.files.writeFile path contents disk = (.ok (), disk) := by
  obtain ⟨place, name, hl, hsize, hget⟩ := locate_of_file h
  rw [writeFile_ok hl hsize (by simp [hget]), put, Tree.put_of_get? (by simp) hget]

theorem ask_done (h : Done target disk request) :
    ask (Disk.files.store target) request disk = (.ok (), disk) := by
  cases request with
  | directory path => exact createDirectory_of_found h
  | file path contents => exact writeFile_again h

theorem askAll_done (h : ∀ request ∈ asked, Done target disk request) :
    askAll (Disk.files.store target) asked disk = (.ok (), disk) := by
  induction asked with
  | nil => rfl
  | cons request asked ih =>
      obtain ⟨hrequest, hrest⟩ := List.forall_mem_cons.1 h
      rw [askAll_cons, ask_done hrequest]
      exact ih hrest

end Datapack.Proofs.Repetition
