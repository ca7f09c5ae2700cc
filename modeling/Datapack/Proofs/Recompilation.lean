import Datapack.Proofs.Directories

namespace Datapack.Proofs.Recompilation

open Emission Lookups Places DiskSteps PackPaths PackOnDisk Repetition Directories

variable {disk disk' : Disk} {target source : Path} {place home : Location} {bytes : Bytes}
  {t : Text} {pack : Pack} {files : List PackFile} {first second : List Request}

section Requests

variable {σ : Type} {store : Store (StateM σ)} {s : σ}

theorem askAll_append_ok_iff : (askAll store (first ++ second) s).1 = .ok () ↔
    (askAll store first s).1 = .ok () ∧ (askAll store second (askAll store first s).2).1 = .ok () := by
  rw [askAll_append, bind_run]
  cases (askAll store first s).1 with
  | error failure => exact ⟨nofun, fun h => nomatch h.1⟩
  | ok _ => simp

theorem askAll_append_run (h : (askAll store first s).1 = .ok ()) :
    askAll store (first ++ second) s = askAll store second (askAll store first s).2 := by
  rw [askAll_append, bind_run, h]

end Requests

def filesOf (disk : Disk) (place : Location) : Option Bytes :=
  match disk.tree.get? place with
  | some (.file contents) => some contents
  | _ => none

def overlay (home : Location) (target : Path) (files : List PackFile)
    (below : Location → Option Bytes) (place : Location) : Option Bytes :=
  ((files.find? (fun file => placeOf home (target.join file.path) = place)).map
    (fun file => file.contents.toUtf8)).or (below place)

theorem filesOf_eq_some_iff :
    filesOf disk place = some bytes ↔ disk.tree.get? place = some (.file bytes) := by
  rw [filesOf]
  split <;> simp_all

theorem filesOf_of_sameFiles {places : List Location} (h : SameFiles places disk disk')
    (hplace : place ∉ places) : filesOf disk' place = filesOf disk place := by
  refine Option.ext fun bytes => ?_
  rw [filesOf_eq_some_iff, h place bytes hplace, ← filesOf_eq_some_iff]

theorem filesOf_delivered (h : Delivered target files disk disk') :
    filesOf disk' = overlay disk.home target files (filesOf disk) := by
  funext place
  rw [overlay]
  cases hfile : files.find? (fun file => placeOf disk.home (target.join file.path) = place) with
  | none =>
      have hother : place ∉ files.map (fun file => placeOf disk.home (target.join file.path)) := by
        simpa using hfile
      exact filesOf_of_sameFiles h.others hother
  | some file =>
      obtain rfl : placeOf disk.home (target.join file.path) = place := by
        simpa using List.find?_some hfile
      exact filesOf_eq_some_iff.2 (h.placed file (List.mem_of_find?_eq_some hfile))

structure Compiles (source target : Path) (disk : Disk) (pack : Pack) : Prop where
  read : ∃ t, Source.decode source (disk.read source) = .ok t ∧ pack = Pack.ofLines (Source.lines t)
  granted : (askAll (Disk.files.store target) (requests pack.artifact) disk).1 = .ok ()

theorem compiles_iff : (Compilation.onFiles Disk.files source target disk).1.result = .ok pack ↔
    Compiles source target disk pack := by
  cases hd : Source.decode source (disk.read source) with
  | error failure =>
      rw [onFiles_of_unread hd]
      refine ⟨nofun, fun h => ?_⟩
      obtain ⟨t, ht, -⟩ := h.read
      cases hd.symm.trans ht
  | ok t =>
      rw [(onFiles_of_read hd).1, map_eq_ok_iff]
      constructor
      · rintro ⟨⟨⟩, ha, rfl⟩
        exact ⟨⟨t, hd, rfl⟩, ha⟩
      · rintro ⟨⟨t', ht', rfl⟩, ha⟩
        cases hd.symm.trans ht'
        exact ⟨(), ha, rfl⟩

theorem decode_kept {places : List Location} (hgrows : Grows disk disk')
    (hsame : SameFiles places disk disk') (hplace : placeOf disk.home source ∉ places)
    (h : Source.decode source (disk.read source) = .ok t) :
    Source.decode source (disk'.read source) = .ok t := by
  rw [decode_eq_ok_iff, read_eq_ok_iff] at h ⊢
  exact hgrows.find_file hsame hplace h

theorem done_of_found
    (h : ∀ directory ∈ packDirectories, disk.find (target.join directory) = .ok .directory) :
    ∀ request ∈ packDirectories.map .directory, Done target disk request := by
  intro request hrequest
  obtain ⟨directory, hd, rfl⟩ := List.mem_map.1 hrequest
  exact fun _ => h directory hd

namespace Compiles

variable {sourceA sourceB : Path} {packA packB : Pack}

theorem result (h : Compiles source target disk pack) :
    (Compilation.onFiles Disk.files source target disk).1.result = .ok pack := compiles_iff.2 h

theorem run (h : Compiles source target disk pack) :
    (Compilation.onFiles Disk.files source target disk).2 =
      (askAll (Disk.files.store target) (requests pack.artifact) disk).2 := by
  obtain ⟨t, ht, rfl⟩ := h.read
  exact (onFiles_of_read ht).2

theorem slash_free (h : Compiles source target disk pack) :
    ∀ name ∈ pack.functions.names, '/' ∉ name := by
  obtain ⟨t, -, rfl⟩ := h.read
  exact fun name hname => LineTexts.slash_not_mem_names hname

theorem artifact (h : Compiles source target disk pack) :
    pack.artifact = Artifact.ofFunctions pack.functions := by
  obtain ⟨t, -, rfl⟩ := h.read
  rfl

theorem requests_eq (h : Compiles source target disk pack) : requests pack.artifact =
    packDirectories.map .directory ++ fileRequests pack.artifact.files := by
  rw [requests, h.artifact]
  rfl

theorem effect (h : Compiles source target disk pack) :
    let run := Compilation.onFiles Disk.files source target disk
    Grows disk run.2 ∧ (∀ directory ∈ packDirectories,
        run.2.find (target.join directory) = .ok .directory) ∧
      Delivered target pack.artifact.files disk run.2 := by
  intro run
  have hrun : run.2 = _ := h.run
  rw [hrun]
  have hgranted := h.granted
  obtain ⟨t, -, rfl⟩ := h.read
  obtain ⟨hgrows, heffect, -⟩ := emission_effect t target disk
  obtain ⟨hfound, hdelivered⟩ := heffect hgranted
  exact ⟨hgrows, hfound, hdelivered⟩

theorem sameDirectories (h : Compiles source target disk pack) :
    SameDirectories (askAll (Disk.files.store target)
        (packDirectories.map .directory) disk).2
      (Compilation.onFiles Disk.files source target disk).2 := by
  have hgranted := h.granted
  rw [h.requests_eq] at hgranted
  obtain ⟨hdirectories, hfiles⟩ := askAll_append_ok_iff.1 hgranted
  rw [h.run, h.requests_eq, askAll_append_run hdirectories]
  have hdone := done_of_askAll (by simp [placesOf_directories]) hdirectories
  refine askAll_files_sameDirectories (fun file hfile => ?_) (fun directory hd => ?_) hfiles
  · exact under_directories h.slash_free (h.artifact ▸ hfile)
  · exact hdone _ (List.mem_map_of_mem hd) (join_text_ne_nil target (packDirectories_ne directory hd))

/-- A script that compiles on a disk compiles there after another one has. -/
theorem after (hA : Compiles sourceA target disk packA) (hB : Compiles sourceB target disk packB)
    (hsource : ∀ file ∈ packA.artifact.files,
      placeOf disk.home sourceB ≠ placeOf disk.home (target.join file.path)) :
    Compiles sourceB target (Compilation.onFiles Disk.files sourceA target disk).2 packB := by
  obtain ⟨hgrows, hfound, hdelivered⟩ := hA.effect
  refine ⟨?_, ?_⟩
  · obtain ⟨t, ht, hpack⟩ := hB.read
    refine ⟨t, decode_kept hgrows hdelivered.others (fun hmem => ?_) ht, hpack⟩
    obtain ⟨file, hfile, hplace⟩ := List.mem_map.1 hmem
    exact hsource file hfile hplace.symm
  · obtain ⟨-, -, hdeliveredB⟩ := hB.effect
    rw [hB.requests_eq, askAll_append_ok_iff, askAll_done (done_of_found hfound)]
    refine ⟨rfl, ?_⟩
    -- each run leaves the directories that the common first requests make
    exact askAll_files_granted (hB.sameDirectories.symm.trans hA.sameDirectories)
      fun file hfile => ⟨_, hdeliveredB.found file hfile⟩

theorem again (h : Compiles source target disk pack)
    (hsource : ∀ file ∈ pack.artifact.files,
      placeOf disk.home source ≠ placeOf disk.home (target.join file.path)) :
    let run := Compilation.onFiles Disk.files source target disk
    Compiles source target run.2 pack ∧
      (Compilation.onFiles Disk.files source target run.2).2 = run.2 := by
  intro run
  have hagain : Compiles source target run.2 pack := h.after h hsource
  refine ⟨hagain, ?_⟩
  obtain ⟨-, hfound, hdelivered⟩ := h.effect
  rw [hagain.run, askAll_done]
  rw [h.requests_eq]
  intro request hrequest
  rcases List.mem_append.1 hrequest with hrequest | hrequest
  · exact done_of_found hfound request hrequest
  · obtain ⟨file, hfile, rfl⟩ := List.mem_map.1 hrequest
    exact hdelivered.found file hfile

end Compiles

/-- No file of a pack is at the place of a function that the pack does not have. -/
theorem place_of_undeclared {functions : FunctionTable} {name : Text} (hname : '/' ∉ name)
    (hslash : ∀ name ∈ functions.names, '/' ∉ name) (h : name ∉ functions.names) :
    placeOf home (target.join (Layout.functionPath name)) ∉
      (Artifact.ofFunctions functions).files.map
        (fun file => placeOf home (target.join file.path)) := by
  intro hmem
  obtain ⟨file, hfile, hplace⟩ := List.mem_map.1 hmem
  obtain ⟨hrel, names, hnames⟩ := names_of_file hslash hfile
  have hcomponents : (Layout.functionPath name).components = List.map .name
      ["data".toList, Layout.namespaceName, "functions".toList, name ++ ".mcfunction".toList] := by
    rw [functionPath_components hname, functionsDirectory_components]
    rfl
  have hsame : file.path.components = (Layout.functionPath name).components :=
    components_of_place hrel (functionPath_relative hname) hnames hcomponents hplace
  have hnone : (Artifact.ofFunctions functions).file? (Layout.functionPath name) = none := by
    rw [file?_functionPath hname hslash, FunctionTable.get?_eq_none_iff.2 h]
    rfl
  exact List.find?_eq_none.1 hnone file hfile (by simpa [Path.samePlace] using hsame)

/-- Where two scripts compile, one may be compiled after the other into the same
target. The files of the disk are then overlaid with those of the first pack and
these with those of the second, which is as in a first compilation. What only the first
script declares stays, and a repetition has no effect. -/
theorem recompilation_overlays (disk : Disk) (target sourceA sourceB : Path) {packA packB : Pack}
    (hA : (Compilation.onFiles Disk.files sourceA target disk).1.result = .ok packA)
    (hB : (Compilation.onFiles Disk.files sourceB target disk).1.result = .ok packB)
    (hsource : ∀ file ∈ packA.artifact.files ++ packB.artifact.files,
      placeOf disk.home sourceB ≠ placeOf disk.home (target.join file.path)) :
    let first := Compilation.onFiles Disk.files sourceA target disk
    let fresh := Compilation.onFiles Disk.files sourceB target disk
    let second := Compilation.onFiles Disk.files sourceB target first.2
    let again := Compilation.onFiles Disk.files sourceB target second.2
    second.1.result = .ok packB ∧
    filesOf second.2 = overlay disk.home target packB.artifact.files
      (overlay disk.home target packA.artifact.files (filesOf disk)) ∧
    again.1.result = .ok packB ∧ again.2 = second.2 ∧
    (∀ file ∈ packB.artifact.files,
      second.2.find (target.join file.path) = .ok (.file file.contents.toUtf8) ∧
      fresh.2.find (target.join file.path) = .ok (.file file.contents.toUtf8)) ∧
    ∀ name ∈ packA.functions.names, name ∉ packB.functions.names →
      ∃ file, packA.artifact.file? (Layout.functionPath name) = some file ∧
        second.2.find (target.join (Layout.functionPath name)) =
          .ok (.file file.contents.toUtf8) := by
  intro first fresh second again
  rw [compiles_iff] at hA hB
  obtain ⟨hsourceA, hsourceB⟩ := List.forall_mem_append.1 hsource
  have hsecond : Compiles sourceB target first.2 packB := hA.after hB hsourceA
  obtain ⟨hgrowsA, -, hdeliveredA⟩ := hA.effect
  obtain ⟨-, -, hfresh⟩ := hB.effect
  obtain ⟨hgrows, -, hdelivered⟩ := hsecond.effect
  have hhome : first.2.home = disk.home := hgrowsA.home
  obtain ⟨hagain, hsame⟩ := hsecond.again (by rwa [hhome])
  refine ⟨hsecond.result, ?_, hagain.result, hsame, ?_, ?_⟩
  · rw [filesOf_delivered hdelivered, hhome, filesOf_delivered hdeliveredA]
  · exact fun file hfile => ⟨hdelivered.found file hfile, hfresh.found file hfile⟩
  · intro name hname hundeclared
    have hslash : '/' ∉ name := hA.slash_free name hname
    obtain ⟨commands, hget⟩ := FunctionTable.mem_names.1 hname
    have hfile : packA.artifact.file? (Layout.functionPath name) =
        some (Artifact.functionFile name commands) := by
      rw [hA.artifact, file?_functionPath hslash hA.slash_free, hget]
      rfl
    refine ⟨_, hfile, ?_⟩
    have hfound := hdeliveredA.found _ (List.mem_of_find?_eq_some hfile)
    refine hgrows.find_file hdelivered.others ?_ hfound
    rw [hsecond.artifact]
    exact place_of_undeclared hslash hsecond.slash_free hundeclared

/-- Each of the two scripts declares a function that the other one does not. -/
theorem older_function_stays :
    let old : Text := "function a(=> void)\nsay \"1\"".toList
    let new : Text := "function b(=> void)\nsay \"2\"".toList
    let disk : Disk :=
      ⟨⟨[(["old".toList], .file old.toUtf8), (["new".toList], .file new.toUtf8)]⟩, []⟩
    let target := Path.ofString "out"
    let first := Compilation.onFiles Disk.files (Path.ofString "old") target disk
    let second := Compilation.onFiles Disk.files (Path.ofString "new") target first.2
    first.1.result = .ok (Pack.ofLines (Source.lines old)) ∧
    second.1.result = .ok (Pack.ofLines (Source.lines new)) ∧
    second.2.find (target.join (Layout.functionPath "a".toList)) =
      .ok (.file (Text.toUtf8 "say 1\n".toList)) := by
  intro old new disk target first second
  have hA : first.1.result = .ok (Pack.ofLines (Source.lines old)) :=
    compiles_iff.2 ⟨⟨old, by decide +kernel, rfl⟩, by decide +kernel⟩
  have hB : (Compilation.onFiles Disk.files (Path.ofString "new") target disk).1.result =
      .ok (Pack.ofLines (Source.lines new)) :=
    compiles_iff.2 ⟨⟨new, by decide +kernel, rfl⟩, by decide +kernel⟩
  obtain ⟨hsecond, -, -, -, -, hkept⟩ := recompilation_overlays disk target _ _ hA hB
    (by decide +kernel)
  obtain ⟨file, hfile, hfound⟩ := hkept "a".toList (by decide +kernel) (by decide +kernel)
  have hfirst : (Pack.ofLines (Source.lines old)).artifact.file? (Layout.functionPath "a".toList) =
      some ⟨Layout.functionPath "a".toList, "say 1\n".toList⟩ := by decide +kernel
  obtain rfl := Option.some.inj (hfirst.symm.trans hfile)
  exact ⟨hA, hsecond, hfound⟩

end Datapack.Proofs.Recompilation
