import Datapack.Proofs.Emission
import Datapack.Proofs.Places

namespace Datapack.Proofs.DiskSteps

open Emission Lookups Places

variable {disk disk' last : Disk} {path : Path} {place : Location} {segment : Text}
  {segments : List Text}

structure Keeps (disk disk' : Disk) : Prop where
  home : disk'.home = disk.home
  directory : ∀ place, disk.tree.get? place = some .directory →
    disk'.tree.get? place = some .directory

/-- Nothing disappears and nothing becomes of another kind. -/
structure Grows (disk disk' : Disk) : Prop extends Keeps disk disk' where
  file : ∀ place contents, disk.tree.get? place = some (.file contents) →
    ∃ contents', disk'.tree.get? place = some (.file contents')

/-- Outside some places there are the same files with the same contents. -/
def SameFiles (places : List Location) (disk disk' : Disk) : Prop :=
  ∀ place contents, place ∉ places →
    (disk'.tree.get? place = some (.file contents) ↔
      disk.tree.get? place = some (.file contents))

theorem Keeps.refl (disk : Disk) : Keeps disk disk := ⟨rfl, fun _ h => h⟩

theorem Keeps.trans (h : Keeps disk disk') (h' : Keeps disk' last) : Keeps disk last :=
  ⟨h'.home.trans h.home, fun place hplace => h'.directory place (h.directory place hplace)⟩

theorem Grows.refl (disk : Disk) : Grows disk disk :=
  ⟨.refl disk, fun _ contents h => ⟨contents, h⟩⟩

theorem Grows.trans (h : Grows disk disk') (h' : Grows disk' last) : Grows disk last where
  toKeeps := h.toKeeps.trans h'.toKeeps
  file := fun place contents hplace => by
    obtain ⟨contents', hcontents'⟩ := h.file place contents hplace
    exact h'.file place contents' hcontents'

theorem SameFiles.refl (places : List Location) (disk : Disk) : SameFiles places disk disk :=
  fun _ _ _ => Iff.rfl

theorem SameFiles.trans {places places' : List Location} (h : SameFiles places disk disk')
    (h' : SameFiles places' disk' last) : SameFiles (places ++ places') disk last := by
  intro place contents hplace
  rw [List.mem_append, not_or] at hplace
  exact (h' place contents hplace.2).trans (h place contents hplace.1)

theorem Keeps.enters {next : Location} (h : Keeps disk disk')
    (henter : Enters disk.tree place segment next) : Enters disk'.tree place segment next := by
  cases henter with
  | here => exact .here
  | up => exact .up
  | name hdot hdots hsize hget => exact .name hdot hdots hsize (h.directory _ hget)

theorem Keeps.walk {next : Location} (h : Keeps disk disk')
    (hwalk : disk.walk place segments = .ok next) : disk'.walk place segments = .ok next := by
  induction segments generalizing place with
  | nil => exact hwalk
  | cons segment segments ih =>
      obtain ⟨middle, henter, hrest⟩ := walk_cons_eq_ok_iff.1 hwalk
      exact walk_cons_eq_ok_iff.2 ⟨middle, h.enters henter, ih hrest⟩

theorem Keeps.locate {spot : Spot} (h : Keeps disk disk') (hl : disk.locate path = .ok spot) :
    disk'.locate path = .ok spot := by
  obtain ⟨hfits, hleads⟩ := locate_eq_ok_iff.1 hl
  have horigin : disk.origin path = disk'.origin path := by simp [Disk.origin, h.home]
  refine locate_eq_ok_iff.2 ⟨hfits, ?_⟩
  cases hleads with
  | origin hnames => exact horigin ▸ .origin hnames
  | last hnames hwalk hend => exact .last hnames (horigin ▸ h.walk hwalk) hend

theorem get?_of_find {contents : Bytes} (h : disk.find path = .ok (.file contents)) :
    disk.tree.get? (placeOf disk.home path) = some (.file contents) := by
  obtain ⟨spot, hl, hshows⟩ := find_eq_ok_iff.1 h
  rw [← locate_place hl]
  cases hshows with
  | name hsize hget hslash => exact hget

theorem Keeps.find_directory (h : Keeps disk disk') (hf : disk.find path = .ok .directory) :
    disk'.find path = .ok .directory := by
  obtain ⟨spot, hl, hshows⟩ := find_eq_ok_iff.1 hf
  refine find_eq_ok_iff.2 ⟨spot, h.locate hl, ?_⟩
  cases hshows with
  | directory => exact .directory
  | name hsize hget hslash => exact .name hsize (h.directory _ hget) hslash

theorem Grows.find_file {contents : Bytes} {places : List Location} (h : Grows disk disk')
    (hsame : SameFiles places disk disk') (hplace : placeOf disk.home path ∉ places)
    (hf : disk.find path = .ok (.file contents)) : disk'.find path = .ok (.file contents) := by
  obtain ⟨spot, hl, hshows⟩ := find_eq_ok_iff.1 hf
  refine find_eq_ok_iff.2 ⟨spot, h.toKeeps.locate hl, ?_⟩
  rw [← locate_place hl] at hplace
  cases hshows with
  | name hsize hget hslash => exact .name hsize ((hsame _ _ hplace).2 hget) hslash

def put (disk : Disk) (place : Location) (entry : Entry) : Disk :=
  { disk with tree := disk.tree.put place entry }

theorem grows_put {entry : Entry} (hne : place ≠ [])
    (hold : ∀ old, disk.tree.get? place = some old →
      ∃ contents contents', old = .file contents ∧ entry = .file contents') :
    Grows disk (put disk place entry) where
  home := rfl
  directory := fun other h => by
    rw [put, Tree.get?_put other hne]
    split
    · rename_i he
      obtain ⟨_, _, hold, -⟩ := hold _ (he ▸ h)
      cases hold
    · exact h
  file := fun other contents h => by
    rw [put, Tree.get?_put other hne]
    split
    · rename_i he
      obtain ⟨_, contents', -, rfl⟩ := hold _ (he ▸ h)
      exact ⟨contents', rfl⟩
    · exact ⟨contents, h⟩

theorem sameFiles_put (disk : Disk) (entry : Entry) (hne : place ≠ []) :
    SameFiles [place] disk (put disk place entry) := by
  intro other contents hother
  rw [put, Tree.get?_put other hne, if_neg (by simpa using hother)]

theorem sameFiles_putDirectory (hne : place ≠ []) (hfree : disk.tree.get? place = none) :
    SameFiles [] disk (put disk place .directory) := by
  intro other contents _
  rw [put, Tree.get?_put other hne]
  split
  · rename_i he
    simp [he, hfree]
  · rfl

theorem find_put {parent : Location} {name : Text} {slash : Bool} {entry : Entry}
    (hgrows : Grows disk (put disk (parent ++ [name]) entry))
    (hl : disk.locate path = .ok (.name parent name slash))
    (hsize : ¬Disk.maxNameSize < name.utf8Size) (hslash : slash = true → entry = .directory) :
    (put disk (parent ++ [name]) entry).find path = .ok entry := by
  have hget : (disk.tree.put (parent ++ [name]) entry).get? (parent ++ [name]) = some entry := by
    rw [Tree.get?_put _ (by simp), if_pos rfl]
  exact find_eq_ok_iff.2 ⟨_, hgrows.toKeeps.locate hl, .name hsize hget hslash⟩

theorem makeDirectory_eq_ok_iff : disk.makeDirectory path = .ok disk' ↔
    ∃ parent name slash, disk.locate path = .ok (.name parent name slash) ∧
      ¬Disk.maxNameSize < name.utf8Size ∧ disk.tree.get? (parent ++ [name]) = none ∧
      put disk (parent ++ [name]) .directory = disk' := by
  rw [Disk.makeDirectory, bind_eq_ok_iff]
  constructor
  · rintro ⟨spot, hl, h⟩
    cases spot with
    | directory place => cases h
    | name parent name slash =>
        simp only at h
        split at h
        · cases h
        · rename_i hsize
          split at h
          · cases h
          · rename_i hfree
            exact ⟨parent, name, slash, hl, hsize, by simpa using hfree, Except.ok.inj h⟩
  · rintro ⟨parent, name, slash, hl, hsize, hfree, rfl⟩
    refine ⟨_, hl, ?_⟩
    simp [hsize, hfree, put]

theorem write_eq_ok_iff {contents : Bytes} : disk.write path contents = .ok disk' ↔
    ∃ parent name, disk.locate path = .ok (.name parent name false) ∧
      ¬Disk.maxNameSize < name.utf8Size ∧ disk.tree.get? (parent ++ [name]) ≠ some .directory ∧
      put disk (parent ++ [name]) (.file contents) = disk' := by
  rw [Disk.write, bind_eq_ok_iff]
  constructor
  · rintro ⟨spot, hl, h⟩
    cases spot with
    | directory place => cases h
    | name parent name slash =>
        cases slash with
        | true => cases h
        | false =>
            simp only [Bool.false_eq_true, if_false] at h
            split at h
            · cases h
            · rename_i hsize
              split at h
              · cases h
              · rename_i hentry
                exact ⟨parent, name, hl, hsize, hentry, Except.ok.inj h⟩
  · rintro ⟨parent, name, hl, hsize, hentry, rfl⟩
    refine ⟨_, hl, ?_⟩
    simp [hsize, hentry, put]

theorem makeDirectory_ok (h : disk.makeDirectory path = .ok disk') :
    Grows disk disk' ∧ SameFiles [] disk disk' ∧ disk'.find path = .ok .directory := by
  obtain ⟨parent, name, slash, hl, hsize, hfree, rfl⟩ := makeDirectory_eq_ok_iff.1 h
  have hgrows : Grows disk (put disk (parent ++ [name]) .directory) :=
    grows_put (by simp) (by simp [hfree])
  exact ⟨hgrows, sameFiles_putDirectory (by simp) hfree, find_put hgrows hl hsize fun _ => rfl⟩

theorem write_ok {contents : Bytes} (h : disk.write path contents = .ok disk') :
    Grows disk disk' ∧ SameFiles [placeOf disk.home path] disk disk' ∧
      disk'.find path = .ok (.file contents) := by
  obtain ⟨parent, name, hl, hsize, hentry, rfl⟩ := write_eq_ok_iff.1 h
  have hgrows : Grows disk (put disk (parent ++ [name]) (.file contents)) := by
    refine grows_put (by simp) fun old hold => ?_
    cases old with
    | directory => exact absurd hold hentry
    | file old => exact ⟨old, contents, rfl, rfl⟩
  rw [← locate_place hl]
  exact ⟨hgrows, sameFiles_put disk _ (by simp [spotPlace]), find_put hgrows hl hsize nofun⟩

structure Makes (goal : Option Path) (disk : Disk) (run : Except Cause Unit × Disk) : Prop where
  grows : Grows disk run.2
  same : SameFiles [] disk run.2
  found : run.1 = .ok () → ∀ path ∈ goal, run.2.find path = .ok .directory

theorem isDirectory_run (path : Path) (disk : Disk) :
    Disk.files.isDirectory path disk =
      (match disk.read path with
        | .error .isDirectory => (pure true : StateM Disk Bool)
        | _ => pure false) disk := rfl

theorem settle_run (path : Path) (cause : Cause) (disk : Disk) :
    Disk.files.settle path (.error cause) disk =
      (if (Disk.files.isDirectory path disk).1 then
          (pure (.ok ()) : StateM Disk (Except Cause Unit))
        else pure (.error cause)) (Disk.files.isDirectory path disk).2 := rfl

theorem isDirectory_found (path : Path) (disk : Disk) :
    (Disk.files.isDirectory path disk).2 = disk ∧
      ((Disk.files.isDirectory path disk).1 = true → disk.find path = .ok .directory) := by
  rw [isDirectory_run]
  cases hr : disk.read path with
  | ok contents => exact ⟨rfl, nofun⟩
  | error cause =>
      cases cause with
      | isDirectory => exact ⟨rfl, fun _ => find_of_read hr⟩
      | notFound | alreadyExists | notDirectory | nameTooLong | nulInName | notUtf8 | other =>
          exact ⟨rfl, nofun⟩

theorem settle_refused (path : Path) (cause : Cause) (disk : Disk) :
    Makes (some path) disk (Disk.files.settle path (.error cause) disk) := by
  obtain ⟨hsame, hfound⟩ := isDirectory_found path disk
  rw [settle_run, hsame]
  split
  · rename_i hdirectory
    refine ⟨.refl disk, .refl [] disk, fun _ goal hgoal => ?_⟩
    cases hgoal
    exact hfound hdirectory
  · exact ⟨.refl disk, .refl [] disk, nofun⟩

theorem Makes.after {goal : Option Path} {run : Except Cause Unit × Disk}
    (h : Makes goal disk' run) (hgrows : Grows disk disk') (hsame : SameFiles [] disk disk') :
    Makes goal disk run :=
  ⟨hgrows.trans h.grows, hsame.trans h.same, h.found⟩

theorem settle_made {made : Disk} (h : disk.makeDirectory path = .ok made) :
    Makes (some path) disk (.ok (), made) := by
  obtain ⟨hgrows, hsame, hfound⟩ := makeDirectory_ok h
  exact ⟨hgrows, hsame, by simpa using hfound⟩

def attempt (path : Path) : StateM Disk (Except Cause Unit) :=
  Disk.files.makeDirectory path >>= Disk.files.settle path

theorem attempt_run (path : Path) (disk : Disk) : attempt path disk =
    Disk.files.settle path (disk.answer (disk.makeDirectory path)).1
      (disk.answer (disk.makeDirectory path)).2 := rfl

theorem attempt_makes (path : Path) (disk : Disk) : Makes (some path) disk (attempt path disk) := by
  rw [attempt_run]
  cases hm : disk.makeDirectory path with
  | ok made => exact settle_made hm
  | error cause => exact settle_refused path cause disk

inductive Attempts (disk : Disk) : List Path → Except Cause Unit × Disk → Prop
  | nothing : Attempts disk [] (.ok (), disk)
  | alone (path above) : Attempts disk (path :: above) (attempt path disk)
  | stuck {path above cause between} (h : Attempts disk above (.error cause, between)) :
      Attempts disk (path :: above) (.error cause, between)
  | after {path above between} (h : Attempts disk above (.ok (), between)) :
      Attempts disk (path :: above) (attempt path between)

theorem makeAll_run (path : Path) (above : List Path) (disk : Disk) :
    Disk.files.makeAll (path :: above) disk =
      (match (disk.answer (disk.makeDirectory path)).1 with
        | .error .notFound => (Disk.files.makeAll above >>= fun
            | .error cause => (pure (.error cause) : StateM Disk (Except Cause Unit))
            | .ok _ => attempt path)
        | answer => Disk.files.settle path answer)
      (disk.answer (disk.makeDirectory path)).2 := rfl

theorem makeAll_attempts (paths : List Path) (disk : Disk) :
    Attempts disk paths (Disk.files.makeAll paths disk) := by
  induction paths with
  | nil => exact .nothing
  | cons path above ih =>
      have halone : Attempts disk (path :: above) (attempt path disk) := .alone path above
      rw [attempt_run] at halone
      rw [makeAll_run]
      cases hm : disk.makeDirectory path with
      | ok made =>
          rw [hm] at halone
          exact halone
      | error cause =>
          rw [hm] at halone
          cases cause with
          | notFound =>
              change Attempts disk (path :: above)
                ((match (Disk.files.makeAll above disk).1 with
                  | .error cause => (pure (.error cause) : StateM Disk (Except Cause Unit))
                  | .ok _ => attempt path)
                (Disk.files.makeAll above disk).2)
              cases hrun : Disk.files.makeAll above disk with
              | mk answer between =>
                  rw [hrun] at ih
                  cases answer with
                  | error cause => exact .stuck ih
                  | ok _ => exact .after ih
          | alreadyExists | notDirectory | isDirectory | nameTooLong | nulInName | notUtf8
          | other => exact halone

theorem makeAll_makes (paths : List Path) (disk : Disk) :
    Makes paths.head? disk (Disk.files.makeAll paths disk) := by
  generalize hrun : Disk.files.makeAll paths disk = run
  have hattempts : Attempts disk paths run := hrun ▸ makeAll_attempts paths disk
  clear hrun
  induction hattempts with
  | nothing => exact ⟨.refl disk, .refl [] disk, by simp⟩
  | alone path above => exact attempt_makes path disk
  | stuck h ih => exact ⟨ih.grows, ih.same, nofun⟩
  | after h ih => exact (attempt_makes _ _).after ih.grows ih.same

theorem createDirectory_run (path : Path) (disk : Disk) :
    Disk.files.createDirectory path disk =
      ((Disk.files.makeAll path.ancestors disk).1.mapError (.createDirectory path),
        (Disk.files.makeAll path.ancestors disk).2) := by
  rw [FileSystem.createDirectory, bind_run]
  cases (Disk.files.makeAll path.ancestors disk).1 <;> rfl

theorem writeContents_run (path : Path) (contents : Text) (disk : Disk) :
    Disk.files.writeContents path contents disk =
      ((disk.answer (disk.write path contents.toUtf8)).1.mapError (.writeFile path),
        (disk.answer (disk.write path contents.toUtf8)).2) := by
  rw [FileSystem.writeContents, bind_run]
  cases hw : disk.write path contents.toUtf8 <;> simp [Disk.files, hw, Disk.answer] <;> rfl

/-- What a request does, however it ends. Only one that succeeds changes files,
and then only at its places. -/
structure Serves (places : List Location) (Done : Disk → Prop) (disk : Disk)
    (run : Except Failure Unit × Disk) : Prop where
  grows : Grows disk run.2
  granted : run.1 = .ok () → Done run.2 ∧ SameFiles places disk run.2
  refused : ∀ failure, run.1 = .error failure → IsRefusal failure ∧ SameFiles [] disk run.2

theorem Serves.after {places : List Location} {Done : Disk → Prop}
    {run : Except Failure Unit × Disk} (h : Serves places Done disk' run)
    (hgrows : Grows disk disk') (hsame : SameFiles [] disk disk') :
    Serves places Done disk run where
  grows := hgrows.trans h.grows
  granted := fun hok => ⟨(h.granted hok).1, hsame.trans (h.granted hok).2⟩
  refused := fun failure hf => ⟨(h.refused failure hf).1, hsame.trans (h.refused failure hf).2⟩

/-- The empty path asks for nothing. -/
theorem createDirectory_serves (path : Path) (disk : Disk) :
    Serves [] (fun disk => path.text ≠ [] → disk.find path = .ok .directory) disk
      (Disk.files.createDirectory path disk) := by
  have hmakes := makeAll_makes path.ancestors disk
  rw [createDirectory_run]
  cases hr : (Disk.files.makeAll path.ancestors disk).1 with
  | error cause =>
      refine ⟨hmakes.grows, nofun, fun failure hf => ⟨?_, hmakes.same⟩⟩
      cases hf
      exact ⟨path, cause, .inl rfl⟩
  | ok _ =>
      refine ⟨hmakes.grows, fun _ => ⟨fun hne => ?_, hmakes.same⟩, nofun⟩
      exact hmakes.found hr path (Path.head?_ancestors hne)

theorem writeContents_serves (path : Path) (contents : Text) (disk : Disk) :
    Serves [placeOf disk.home path] (fun disk => disk.find path = .ok (.file contents.toUtf8)) disk
      (Disk.files.writeContents path contents disk) := by
  rw [writeContents_run]
  cases hw : disk.write path contents.toUtf8 with
  | error cause =>
      refine ⟨.refl disk, nofun, fun failure hf => ⟨?_, .refl [] disk⟩⟩
      cases hf
      exact ⟨path, cause, .inr rfl⟩
  | ok written =>
      obtain ⟨hgrows, hsame, hfound⟩ := write_ok hw
      exact ⟨hgrows, fun _ => ⟨hfound, hsame⟩, nofun⟩

theorem writeFile_serves (path : Path) (contents : Text) (disk : Disk) :
    Serves [placeOf disk.home path] (fun disk => disk.find path = .ok (.file contents.toUtf8)) disk
      (Disk.files.writeFile path contents disk) := by
  simp only [FileSystem.writeFile]
  cases path.parent? with
  | none => exact writeContents_serves path contents disk
  | some parent =>
      have hparent := createDirectory_serves parent disk
      simp only [bind_run]
      cases hr : (Disk.files.createDirectory parent disk).1 with
      | error failure =>
          refine ⟨hparent.grows, nofun, fun failure' hf => ?_⟩
          cases hf
          exact hparent.refused failure hr
      | ok _ =>
          have hwritten := writeContents_serves path contents
            (Disk.files.createDirectory parent disk).2
          rw [hparent.grows.home] at hwritten
          exact hwritten.after hparent.grows (hparent.granted hr).2

end Datapack.Proofs.DiskSteps
