import Datapack.Proofs.Repetition

namespace Datapack.Proofs.Directories

open Emission Lookups Places DiskSteps PackPaths PackOnDisk Repetition

variable {disk disk' last : Disk} {path target directory : Path} {place : Location}
  {name contents : Text} {bytes : Bytes} {file : PackFile} {files : List PackFile}
  {functions : FunctionTable}

structure SameDirectories (disk disk' : Disk) : Prop where
  forth : Keeps disk disk'
  back : Keeps disk' disk

theorem SameDirectories.refl (disk : Disk) : SameDirectories disk disk :=
  ⟨.refl disk, .refl disk⟩

theorem SameDirectories.symm (h : SameDirectories disk disk') : SameDirectories disk' disk :=
  ⟨h.back, h.forth⟩

theorem SameDirectories.trans (h : SameDirectories disk disk') (h' : SameDirectories disk' last) :
    SameDirectories disk last :=
  ⟨h.forth.trans h'.forth, h'.back.trans h.back⟩

theorem not_directory_of_file (h : Keeps disk disk')
    (hget : disk'.tree.get? place = some (.file bytes)) :
    disk.tree.get? place ≠ some .directory := by
  intro hdirectory
  have hkept := h.directory place hdirectory
  rw [hget] at hkept
  cases hkept

theorem sameDirectories_put (hne : place ≠ [])
    (hentry : disk.tree.get? place ≠ some .directory) :
    SameDirectories disk (put disk place (.file bytes)) := by
  refine ⟨⟨rfl, fun other h => ?_⟩, ⟨rfl, fun other h => ?_⟩⟩
  · have hother : other ≠ place := by
      rintro rfl
      exact hentry h
    rwa [put, Tree.get?_put other hne, if_neg hother]
  · rw [put, Tree.get?_put other hne] at h
    split at h
    · cases h
    · exact h

theorem writeFile_sameDirectories (hl : disk.locate path = .ok (.name place name false))
    (h : (Disk.files.writeFile path contents disk).1 = .ok ()) :
    SameDirectories disk (Disk.files.writeFile path contents disk).2 := by
  have hserves := writeFile_serves path contents disk
  obtain ⟨hfound, -⟩ := hserves.granted h
  obtain ⟨place', name', hl', hsize, hget⟩ := locate_of_file hfound
  cases hl'.symm.trans (hserves.grows.toKeeps.locate hl)
  have hentry : disk.tree.get? (place ++ [name]) ≠ some .directory :=
    not_directory_of_file hserves.grows.toKeeps hget
  rw [writeFile_ok hl hsize hentry]
  exact sameDirectories_put (by simp) hentry

structure Under (directory path : Path) : Prop where
  directory_relative : directory.isAbsolute = false
  relative : path.isAbsolute = false
  slash : path.endsInSlash = false
  last : ∃ inner name, namesOf path = inner ++ [name] ∧ inner <+: namesOf directory ∧
    name ≠ ['.'] ∧ name ≠ ['.', '.']

theorem origin_join (h : path.isAbsolute = false) :
    disk.origin (target.join path) = disk.origin target := by
  by_cases ht : target.text = []
  · have hjoin : target.join path = path := by simp [Path.join, ht]
    have htarget : target.isAbsolute = false := by simp [Path.isAbsolute, ht]
    rw [hjoin, Disk.origin, Disk.origin, h, htarget]
  · rw [Disk.origin, Disk.origin, isAbsolute_join h ht]

theorem endsInSlash_join (h : path.isAbsolute = false) (hne : path.text ≠ []) :
    (target.join path).endsInSlash = path.endsInSlash := by
  by_cases ht : target.text = []
  · simp [Path.join, ht]
  · obtain ⟨front, c, hc⟩ := List.eq_nil_or_concat path.text |>.resolve_left hne
    rw [join_relative h ht]
    split <;> simp [Path.endsInSlash, hc, List.getLast?_append, List.getLast?_cons]

theorem locate_of_under (hunder : Under directory path) (hfits : Fits (target.join path))
    (hfound : disk.find (target.join directory) = .ok .directory) :
    ∃ place name, disk.locate (target.join path) = .ok (.name place name false) := by
  obtain ⟨inner, name, hnames, ⟨rest, hrest⟩, hdot, hdots⟩ := hunder.last
  have hne : path.text ≠ [] := fun hnil => by
    have hempty : namesOf path = [] := (congrArg (fun t => namesOf ⟨t⟩) hnil).trans namesOf_nil
    simp [hnames] at hempty
  obtain ⟨-, next, hwalk⟩ := find_directory_iff.1 hfound
  rw [origin_join hunder.directory_relative, namesOf_join hunder.directory_relative, ← hrest,
    ← List.append_assoc] at hwalk
  obtain ⟨place, hplace, -⟩ := walk_append_eq_ok_iff.1 hwalk
  rw [← origin_join hunder.relative] at hplace
  have hjoined : namesOf (target.join path) = (namesOf target ++ inner) ++ [name] := by
    rw [namesOf_join hunder.relative, hnames, List.append_assoc]
  have hslash : (target.join path).endsInSlash = false :=
    (endsInSlash_join hunder.relative hne).trans hunder.slash
  exact ⟨place, name, locate_eq_ok_iff.2 ⟨hfits, .last hjoined hplace (hslash ▸ .name hdot hdots)⟩⟩

theorem under_join {segment : Text} (hne : directory.text ≠ [])
    (hrel : directory.isAbsolute = false) (h : IsPlain segment) :
    Under directory (directory.join ⟨segment⟩) where
  directory_relative := hrel
  relative := (isAbsolute_join (isAbsolute_plain h) hne).trans hrel
  slash := by
    rw [endsInSlash_join (isAbsolute_plain h) h.2.1]
    refine Bool.eq_false_iff.2 fun hend => h.1 ?_
    exact List.mem_of_getLast? (by simpa [Path.endsInSlash] using hend)
  last := by
    refine ⟨namesOf directory, segment, ?_, List.prefix_refl _, h.2.2.1, h.2.2.2⟩
    rw [namesOf_join (isAbsolute_plain h), namesOf_single h.1 h.2.1]

def packDirectories : List Path := [Layout.functionsDirectory, Layout.tagsDirectory]

theorem packDirectories_ne : ∀ directory ∈ packDirectories, directory.text ≠ [] := by decide

theorem under_directories (h : ∀ name ∈ functions.names, '/' ∉ name)
    (hfile : file ∈ (Artifact.ofFunctions functions).files) :
    ∃ directory ∈ packDirectories, Under directory file.path := by
  refine files_cases h hfile (fun name commands hname => ?_) (fun tag ht => ?_) ?_
  · exact ⟨Layout.functionsDirectory, by decide,
      under_join (by decide) (by decide) (isPlain_suffix hname)⟩
  · have hplain : IsPlain (tag ++ ".json".toList) := by
      simp only [Layout.tags, List.mem_cons, List.not_mem_nil, or_false] at ht
      rcases ht with rfl | rfl <;> exact ⟨by decide, by decide, by decide, by decide⟩
    exact ⟨Layout.tagsDirectory, by decide, under_join (by decide) (by decide) hplain⟩
  · exact ⟨Layout.functionsDirectory, by decide, by decide, by decide, by decide, [],
      "pack.mcmeta".toList, by decide, List.nil_prefix, by decide, by decide⟩

def fileRequests (files : List PackFile) : List Request :=
  files.map (fun file => .file file.path file.contents)

theorem askAll_files_sameDirectories
    (hfiles : ∀ file ∈ files, ∃ directory ∈ packDirectories, Under directory file.path)
    (hfound : ∀ directory ∈ packDirectories, disk.find (target.join directory) = .ok .directory)
    (h : (askAll (Disk.files.store target) (fileRequests files) disk).1 = .ok ()) :
    SameDirectories disk (askAll (Disk.files.store target) (fileRequests files) disk).2 := by
  induction files generalizing disk with
  | nil => exact .refl disk
  | cons file files ih =>
      obtain ⟨⟨directory, hmem, hunder⟩, hrest⟩ := List.forall_mem_cons.1 hfiles
      rw [fileRequests, List.map_cons, askAll_cons] at h ⊢
      have hserves := writeFile_serves (target.join file.path) file.contents disk
      cases hr : (ask (Disk.files.store target) (.file file.path file.contents) disk).1 with
      | error failure =>
          rw [hr] at h
          cases h
      | ok _ =>
          rw [hr] at h
          -- a granted path fits, and the directories lead to the place of its last name
          obtain ⟨hdone, -⟩ := hserves.granted hr
          obtain ⟨spot, hspot, -⟩ := find_eq_ok_iff.1 hdone
          obtain ⟨hfits, -⟩ := locate_eq_ok_iff.1 hspot
          obtain ⟨place, name, hl⟩ := locate_of_under hunder hfits (hfound directory hmem)
          have hsame := writeFile_sameDirectories hl hr
          refine hsame.trans (ih hrest (fun directory hd => ?_) h)
          exact hsame.forth.find_directory (hfound directory hd)

/-- Files that are found on one disk can be written on another one with the same directories. -/
theorem askAll_files_granted (hsame : SameDirectories last disk)
    (hfiles : ∀ file ∈ files, ∃ old, last.find (target.join file.path) = .ok (.file old)) :
    (askAll (Disk.files.store target) (fileRequests files) disk).1 = .ok () := by
  induction files generalizing disk with
  | nil => rfl
  | cons file files ih =>
      obtain ⟨⟨old, hold⟩, hrest⟩ := List.forall_mem_cons.1 hfiles
      obtain ⟨place, name, hl, hsize, hget⟩ := locate_of_file hold
      have hentry : disk.tree.get? (place ++ [name]) ≠ some .directory :=
        not_directory_of_file hsame.back hget
      have hasked : ask (Disk.files.store target) (.file file.path file.contents) disk =
          (.ok (), put disk (place ++ [name]) (.file file.contents.toUtf8)) :=
        writeFile_ok (hsame.forth.locate hl) hsize hentry
      rw [fileRequests, List.map_cons, askAll_cons, hasked]
      exact ih (hsame.trans (sameDirectories_put (by simp) hentry)) hrest

end Datapack.Proofs.Directories
