import Datapack.Proofs.DiskSteps

namespace Datapack.Proofs.TreeShape

open Emission Lookups DiskSteps

variable {disk disk' : Disk} {path : Path} {parent place next : Location} {name segment : Text}
  {segments : List Text} {entry : Entry}

/-- The root and the entries are at different places, all that is entered lies
in a directory, and relative paths start at one. -/
structure WellFormed (disk : Disk) : Prop where
  distinct : ([] :: disk.tree.entries.map Prod.fst).Nodup
  above : ∀ entry ∈ disk.tree.entries, disk.tree.get? entry.1.dropLast = some .directory
  home : disk.tree.get? disk.home = some .directory

instance (disk : Disk) : Decidable (WellFormed disk) :=
  decidable_of_iff (([] :: disk.tree.entries.map Prod.fst).Nodup ∧
      (∀ entry ∈ disk.tree.entries, disk.tree.get? entry.1.dropLast = some .directory) ∧
      disk.tree.get? disk.home = some .directory)
    ⟨fun ⟨hdistinct, habove, hhome⟩ => ⟨hdistinct, habove, hhome⟩,
      fun h => ⟨h.distinct, h.above, h.home⟩⟩

theorem mem_of_get? {tree : Tree} (hne : place ≠ []) (h : tree.get? place = some entry) :
    (place, entry) ∈ tree.entries := by
  rw [Tree.get?, if_neg hne] at h
  obtain ⟨before, after, hentries, -⟩ := List.lookup_eq_some_iff.1 h
  simp [hentries]

theorem WellFormed.dropLast (h : WellFormed disk) (hget : disk.tree.get? place = some entry) :
    disk.tree.get? place.dropLast = some .directory := by
  by_cases hne : place = []
  · rw [hne]
    rfl
  · exact h.above _ (mem_of_get? hne hget)

theorem WellFormed.put (h : WellFormed disk) (hparent : disk.tree.get? parent = some .directory)
    (hgrows : Grows disk (put disk (parent ++ [name]) entry)) :
    WellFormed (put disk (parent ++ [name]) entry) where
  distinct := by
    have hdistinct := h.distinct
    rcases Tree.map_fst_replace (parent ++ [name]) entry disk.tree.entries with
      ⟨-, heq⟩ | ⟨hnew, heq⟩
    · rwa [DiskSteps.put, Tree.put, heq]
    · rw [DiskSteps.put, Tree.put, heq, ← List.cons_append]
      refine List.nodup_append.2 ⟨hdistinct, by simp, ?_⟩
      rintro other hother _ hplace rfl
      obtain rfl := List.mem_singleton.1 hplace
      exact hnew (by simpa using hother)
  above := by
    intro other hother
    apply hgrows.directory
    rcases Tree.mem_replace hother with rfl | hother
    · rwa [List.dropLast_concat]
    · exact h.above other hother
  home := hgrows.directory _ h.home

theorem WellFormed.enters (h : WellFormed disk) (hplace : disk.tree.get? place = some .directory)
    (henter : Enters disk.tree place segment next) : disk.tree.get? next = some .directory := by
  cases henter with
  | here => exact hplace
  | up => exact h.dropLast hplace
  | name hdot hdots hsize hget => exact hget

theorem WellFormed.walk (h : WellFormed disk) (hplace : disk.tree.get? place = some .directory)
    (hwalk : disk.walk place segments = .ok next) : disk.tree.get? next = some .directory := by
  induction segments generalizing place with
  | nil =>
      cases hwalk
      exact hplace
  | cons segment segments ih =>
      obtain ⟨middle, henter, hrest⟩ := walk_cons_eq_ok_iff.1 hwalk
      exact ih (h.enters hplace henter) hrest

theorem WellFormed.origin (h : WellFormed disk) (path : Path) :
    disk.tree.get? (disk.origin path) = some .directory := by
  rw [Disk.origin]
  split
  · rfl
  · exact h.home

/-- A name that a path leads to is a name in a directory. -/
theorem WellFormed.locate {slash : Bool} (h : WellFormed disk)
    (hl : disk.locate path = .ok (.name parent name slash)) :
    disk.tree.get? parent = some .directory := by
  cases (locate_eq_ok_iff.1 hl).2 with
  | last hnames hwalk hend =>
      cases hend with
      | name hdot hdots => exact h.walk (h.origin path) hwalk

theorem WellFormed.makeDirectory (h : WellFormed disk) (hm : disk.makeDirectory path = .ok disk') :
    WellFormed disk' := by
  have hgrows := (makeDirectory_ok hm).1
  obtain ⟨parent, name, slash, hl, -, -, rfl⟩ := makeDirectory_eq_ok_iff.1 hm
  exact h.put (h.locate hl) hgrows

theorem WellFormed.write {contents : Bytes} (h : WellFormed disk)
    (hw : disk.write path contents = .ok disk') : WellFormed disk' := by
  have hgrows := (write_ok hw).1
  obtain ⟨parent, name, hl, -, -, rfl⟩ := write_eq_ok_iff.1 hw
  exact h.put (h.locate hl) hgrows

theorem WellFormed.settle (h : WellFormed disk) (path : Path) (answer : Except Cause Unit) :
    WellFormed (Disk.files.settle path answer disk).2 := by
  cases answer with
  | ok _ => exact h
  | error cause =>
      rw [settle_run, (isDirectory_found path disk).1]
      split <;> exact h

theorem WellFormed.attempt (h : WellFormed disk) (path : Path) :
    WellFormed (attempt path disk).2 := by
  rw [attempt_run]
  cases hm : disk.makeDirectory path with
  | ok made => exact h.makeDirectory hm
  | error cause => exact h.settle path _

/-- What was made before one that cannot be made is where it belongs too. -/
theorem WellFormed.attempts {paths : List Path} {run : Except Cause Unit × Disk}
    (h : WellFormed disk) (hrun : Attempts disk paths run) : WellFormed run.2 := by
  induction hrun with
  | nothing => exact h
  | alone path above => exact h.attempt path
  | stuck _ ih => exact ih
  | after _ ih => exact ih.attempt _

theorem WellFormed.createDirectory (h : WellFormed disk) (path : Path) :
    WellFormed (Disk.files.createDirectory path disk).2 := by
  rw [createDirectory_run]
  exact h.attempts (makeAll_attempts path.ancestors disk)

theorem WellFormed.writeContents (h : WellFormed disk) (path : Path) (contents : Text) :
    WellFormed (Disk.files.writeContents path contents disk).2 := by
  rw [writeContents_run]
  cases hw : disk.write path contents.toUtf8 with
  | ok written => exact h.write hw
  | error cause => exact h

theorem WellFormed.writeFile (h : WellFormed disk) (path : Path) (contents : Text) :
    WellFormed (Disk.files.writeFile path contents disk).2 := by
  rw [FileSystem.writeFile]
  cases path.parent? with
  | none => exact h.writeContents path contents
  | some parent =>
      have hparent := h.createDirectory parent
      dsimp only
      rw [bind_run]
      cases (Disk.files.createDirectory parent disk).1 with
      | error failure => exact hparent
      | ok _ => exact hparent.writeContents path contents

theorem WellFormed.ask (h : WellFormed disk) (target : Path) (request : Request) :
    WellFormed (ask (Disk.files.store target) request disk).2 := by
  cases request with
  | directory path => exact h.createDirectory (target.join path)
  | file path contents => exact h.writeFile (target.join path) contents

end Datapack.Proofs.TreeShape
