import Datapack.Proofs.DiskSteps
import Datapack.Proofs.LineTexts
import Datapack.Proofs.PackPaths

namespace Datapack.Proofs.PackOnDisk

open Emission Places DiskSteps PackPaths

variable {disk disk' : Disk} {home : Location} {target source path : Path} {request : Request}
  {asked : List Request}

def placesOf (home : Location) (target : Path) : Request → List Location
  | .directory _ => []
  | .file path _ => [placeOf home (target.join path)]

def Done (target : Path) (disk : Disk) : Request → Prop
  | .directory path => (target.join path).text ≠ [] →
      disk.find (target.join path) = .ok .directory
  | .file path contents => disk.find (target.join path) = .ok (.file contents.toUtf8)

theorem ask_serves (target : Path) (request : Request) (disk : Disk) :
    Serves (placesOf disk.home target request) (fun disk => Done target disk request) disk
      (ask (Disk.files.store target) request disk) := by
  cases request with
  | directory path => exact createDirectory_serves (target.join path) disk
  | file path contents => exact writeFile_serves (target.join path) contents disk

theorem done_of_grows {places : List Location} (h : Done target disk request)
    (hgrows : Grows disk disk') (hsame : SameFiles places disk disk')
    (hapart : ∀ place ∈ placesOf disk.home target request, place ∉ places) :
    Done target disk' request := by
  cases request with
  | directory path => exact fun hne => hgrows.toKeeps.find_directory (h hne)
  | file path contents => exact hgrows.find_file hsame (hapart _ (by simp [placesOf])) h

/-- The granted requests are the first ones. Later requests leave what they
brought about as long as no two requests are about one file. -/
theorem askAll_effect (target : Path) (asked : List Request) (disk : Disk)
    (hapart : (asked.flatMap (placesOf disk.home target)).Nodup) :
    let run := askAll (Disk.files.store target) asked disk
    Grows disk run.2 ∧ ∃ granted later, asked = granted ++ later ∧
      (∀ request ∈ granted, Done target run.2 request) ∧
      SameFiles (granted.flatMap (placesOf disk.home target)) disk run.2 ∧
      (run.1 = .ok () ∧ later = [] ∨
        ∃ failure, run.1 = .error failure ∧ IsRefusal failure ∧ later ≠ []) := by
  induction asked generalizing disk with
  | nil => exact ⟨.refl disk, [], [], rfl, by simp, .refl [] disk, .inl ⟨rfl, rfl⟩⟩
  | cons request asked ih =>
      have hserves := ask_serves target request disk
      rw [askAll_cons]
      cases hr : (ask (Disk.files.store target) request disk).1 with
      | error failure =>
          obtain ⟨hrefusal, hsame⟩ := hserves.refused failure hr
          exact ⟨hserves.grows, [], request :: asked, rfl, by simp, hsame,
            .inr ⟨failure, rfl, hrefusal, by simp⟩⟩
      | ok _ =>
          obtain ⟨hdone, hsame⟩ := hserves.granted hr
          have hhome := hserves.grows.home
          rw [List.flatMap_cons, List.nodup_append] at hapart
          obtain ⟨-, hrest, hdisjoint⟩ := hapart
          obtain ⟨hgrows, granted, later, hasked, hall, hsame', hend⟩ :=
            ih (ask (Disk.files.store target) request disk).2 (by rwa [hhome])
          rw [hhome] at hsame'
          refine ⟨hserves.grows.trans hgrows, request :: granted, later, by simp [hasked], ?_,
            hsame.trans hsame', hend⟩
          refine List.forall_mem_cons.2 ⟨?_, hall⟩
          refine done_of_grows hdone hgrows hsame' fun place hplace hmem => ?_
          rw [hhome] at hplace
          have hlater : place ∈ asked.flatMap (placesOf disk.home target) := by
            rw [hasked, List.flatMap_append]
            exact List.mem_append_left _ hmem
          exact hdisjoint place hplace place hlater rfl

theorem done_of_askAll (hapart : (asked.flatMap (placesOf disk.home target)).Nodup)
    (h : (askAll (Disk.files.store target) asked disk).1 = .ok ()) :
    ∀ request ∈ asked, Done target (askAll (Disk.files.store target) asked disk).2 request := by
  obtain ⟨-, granted, later, hasked, hall, -, ⟨-, rfl⟩ | ⟨failure, hf, -⟩⟩ :=
    askAll_effect target asked disk hapart
  · rw [List.append_nil] at hasked
    rwa [hasked] at hall ⊢
  · cases h.symm.trans hf

section Places

variable {functions : FunctionTable} {file : PackFile}

theorem names_of_file (h : ∀ name ∈ functions.names, '/' ∉ name)
    (hfile : file ∈ (Artifact.ofFunctions functions).files) :
    file.path.isAbsolute = false ∧ ∃ names : List Text, file.path.components = names.map .name := by
  refine files_cases h hfile (fun name commands hname => ?_) (fun tag ht => ?_) ?_
  · refine ⟨functionPath_relative hname, ["data".toList, Layout.namespaceName,
      "functions".toList, name ++ ".mcfunction".toList], ?_⟩
    rw [Artifact.functionFile, functionPath_components hname, functionsDirectory_components]
    rfl
  · refine ⟨?_, ["data".toList, Layout.namespaceName, "tags".toList, "functions".toList,
      tag ++ ".json".toList], ?_⟩
    · simp only [Layout.tags, List.mem_cons, List.not_mem_nil, or_false] at ht
      rcases ht with rfl | rfl <;> decide
    · rw [Artifact.tagFile, tagPath_components ht, tagsDirectory_components]
      rfl
  · exact ⟨by decide, ["pack.mcmeta".toList], manifestPath_components⟩

/-- Wherever the target is, one place has one path of names below it. -/
theorem components_of_place {p q : Path} {names names' : List Text}
    (hp : p.isAbsolute = false) (hq : q.isAbsolute = false)
    (hpc : p.components = names.map .name) (hqc : q.components = names'.map .name)
    (h : placeOf home (target.join p) = placeOf home (target.join q)) :
    p.components = q.components := by
  rw [placeOf_join home target hp, placeOf_join home target hq, placeOf_names hpc,
    placeOf_names hqc] at h
  rw [hpc, hqc, List.append_cancel_left h]

/-- Two files of a pack are apart, so they lead to two places. -/
theorem placeOf_files_nodup (h : ∀ name ∈ functions.names, '/' ∉ name) (home : Location)
    (target : Path) : ((Artifact.ofFunctions functions).files.map
      (fun file => placeOf home (target.join file.path))).Nodup := by
  rw [List.Nodup, List.pairwise_map]
  refine (files_apart h).imp_of_mem fun {a b} ha hb hapart hsame => ?_
  obtain ⟨harel, anames, hacomp⟩ := names_of_file h ha
  obtain ⟨hbrel, bnames, hbcomp⟩ := names_of_file h hb
  exact hapart.1 (components_of_place harel hbrel hacomp hbcomp hsame ▸ List.prefix_refl _)

end Places

theorem placesOf_directories (home : Location) (target : Path) (paths : List Path) :
    (paths.map Request.directory).flatMap (placesOf home target) = [] := by
  simp [placesOf]

theorem placesOf_files (home : Location) (target : Path) (files : List PackFile) :
    (files.map (fun file => Request.file file.path file.contents)).flatMap (placesOf home target) =
      files.map (fun file => placeOf home (target.join file.path)) := by
  rw [List.flatMap_map, List.map_eq_flatMap]
  rfl

structure Delivered (target : Path) (files : List PackFile) (disk disk' : Disk) : Prop where
  found : ∀ file ∈ files, disk'.find (target.join file.path) = .ok (.file file.contents.toUtf8)
  placed : ∀ file ∈ files, disk'.tree.get? (placeOf disk.home (target.join file.path)) =
    some (.file file.contents.toUtf8)
  others : SameFiles (files.map (fun file => placeOf disk.home (target.join file.path))) disk disk'

theorem delivered_of_granted {artifact : Artifact} {granted later : List Request}
    (hasked : requests artifact = granted ++ later) (hhome : disk'.home = disk.home)
    (hall : ∀ request ∈ granted, Done target disk' request)
    (hsame : SameFiles (granted.flatMap (placesOf disk.home target)) disk disk') :
    Delivered target (artifact.files.take (granted.length - artifact.directories.length))
      disk disk' := by
  have hgranted : granted =
      (artifact.directories.take granted.length).map .directory ++
        (artifact.files.take (granted.length - artifact.directories.length)).map
          (fun file => .file file.path file.contents) := by
    have htake : granted = (requests artifact).take granted.length := by simp [hasked]
    rw [requests, List.take_append, List.length_map, ← List.map_take, ← List.map_take] at htake
    exact htake
  generalize artifact.files.take (granted.length - artifact.directories.length) = files
    at hgranted ⊢
  rw [hgranted, List.flatMap_append, placesOf_directories, placesOf_files] at hsame
  have hfound : ∀ file ∈ files,
      disk'.find (target.join file.path) = .ok (.file file.contents.toUtf8) := by
    intro file hfile
    have hmem : Request.file file.path file.contents ∈ granted := by
      rw [hgranted]
      exact List.mem_append_right _ (List.mem_map_of_mem hfile)
    exact hall _ hmem
  exact ⟨hfound, fun file hfile => hhome ▸ get?_of_find (hfound file hfile), hsame⟩

theorem join_text_ne_nil (target : Path) (h : path.text ≠ []) : (target.join path).text ≠ [] := by
  simp only [Path.join]
  split
  · exact h
  · split <;> simp [h]

theorem onFiles_of_unread {failure : Failure}
    (h : Source.decode source (disk.read source) = .error failure) :
    Compilation.onFiles Disk.files source target disk = (⟨.error failure, []⟩, disk) :=
  run_of_unread (Disk.files.store target) Disk.files.read h

theorem onFiles_of_read {t : Text} (h : Source.decode source (disk.read source) = .ok t) :
    let pack := Pack.ofLines (Source.lines t)
    let compiled := Compilation.onFiles Disk.files source target disk
    let run := askAll (Disk.files.store target) (requests pack.artifact) disk
    compiled.1.result = run.1.map (fun _ => pack) ∧ compiled.2 = run.2 :=
  run_of_read (Disk.files.store target) Disk.files.read h

theorem emission_effect (t : Text) (target : Path) (disk : Disk) :
    let pack := Pack.ofLines (Source.lines t)
    let run := askAll (Disk.files.store target) (requests pack.artifact) disk
    Grows disk run.2 ∧
      (run.1 = .ok () →
        (∀ directory ∈ pack.artifact.directories,
          run.2.find (target.join directory) = .ok .directory) ∧
        Delivered target pack.artifact.files disk run.2) ∧
      ∀ failure, run.1 = .error failure → IsRefusal failure ∧
        ∃ k < pack.artifact.files.length,
          Delivered target (pack.artifact.files.take k) disk run.2 := by
  intro pack run
  have hslash : ∀ name ∈ pack.functions.names, '/' ∉ name :=
    fun name h => LineTexts.slash_not_mem_names h
  have hapart : ((requests pack.artifact).flatMap (placesOf disk.home target)).Nodup := by
    rw [requests, List.flatMap_append, placesOf_directories, placesOf_files]
    exact placeOf_files_nodup hslash disk.home target
  obtain ⟨hgrows, granted, later, hasked, hall, hsame, hend⟩ :=
    askAll_effect target (requests pack.artifact) disk hapart
  have hdelivered := delivered_of_granted hasked hgrows.home hall hsame
  have hlength : pack.artifact.directories.length + pack.artifact.files.length =
      granted.length + later.length := by
    simpa [requests] using congrArg List.length hasked
  have hdirectories : ∀ directory ∈ [Layout.functionsDirectory, Layout.tagsDirectory],
      directory.text ≠ [] := by decide
  refine ⟨hgrows, fun hok => ?_, fun failure hf => ?_⟩
  · obtain ⟨-, rfl⟩ : run.1 = .ok () ∧ later = [] := by
      rcases hend with hend | ⟨failure, hf, -⟩
      · exact hend
      · cases hok.symm.trans hf
    rw [List.append_nil] at hasked
    refine ⟨fun directory hdirectory => ?_, ?_⟩
    · have hmem : Request.directory directory ∈ requests pack.artifact :=
        List.mem_append_left _ (List.mem_map_of_mem hdirectory)
      exact done_of_askAll hapart hok _ hmem
        (join_text_ne_nil target (hdirectories directory hdirectory))
    · have hall : pack.artifact.files.length ≤
          granted.length - pack.artifact.directories.length := by simp at hlength; omega
      rwa [List.take_of_length_le hall] at hdelivered
  · rcases hend with ⟨hok, -⟩ | ⟨failure', hf', hrefusal, hlater⟩
    · cases hok.symm.trans hf
    · obtain rfl : failure' = failure := by
        have heq := hf'.symm.trans hf
        cases heq
        rfl
      have hfiles : 0 < pack.artifact.files.length := by
        simp only [pack, Pack.ofLines, Pack.ofFunctions, Artifact.ofFunctions, List.length_append,
          List.length_singleton]
        omega
      have hpos : 0 < later.length := List.length_pos_iff.2 hlater
      exact ⟨hrefusal, _, by omega, hdelivered⟩

/-- A compilation onto a disk never removes an entry or turns it into one of
the other kind. If it succeeds its pack is there and no other file is touched, if
it cannot read its script nothing is touched at all, and if a request is refused
the files of the pack up to there have been written and no others. -/
theorem compilation_effect (disk : Disk) (source target : Path) :
    let run := Compilation.onFiles Disk.files source target disk
    Grows disk run.2 ∧
    match run.1.result with
    | .ok pack =>
        (∃ t, Source.decode source (disk.read source) = .ok t ∧
          pack = Pack.ofLines (Source.lines t)) ∧
        (∀ directory ∈ pack.artifact.directories,
          run.2.find (target.join directory) = .ok .directory) ∧
        Delivered target pack.artifact.files disk run.2
    | .error (.readSource _ _) => run.2 = disk
    | .error (.createDirectory _ _) | .error (.writeFile _ _) =>
        ∃ t, Source.decode source (disk.read source) = .ok t ∧
          let files := (Pack.ofLines (Source.lines t)).artifact.files
          ∃ k < files.length, Delivered target (files.take k) disk run.2
    | .error (.prompt _) | .error (.noAnswer _) => False := by
  intro run
  cases hd : Source.decode source (disk.read source) with
  | error failure =>
      have hrun : run = (⟨.error failure, []⟩, disk) :=
        run_of_unread (Disk.files.store target) Disk.files.read hd
      obtain ⟨cause, rfl, -⟩ := undecoded_of_error hd
      rw [hrun]
      exact ⟨.refl disk, rfl⟩
  | ok t =>
      let pack := Pack.ofLines (Source.lines t)
      let asked := askAll (Disk.files.store target) (requests pack.artifact) disk
      obtain ⟨hresult, hdisk⟩ :
          run.1.result = asked.1.map (fun _ => pack) ∧ run.2 = asked.2 :=
        run_of_read (Disk.files.store target) Disk.files.read hd
      obtain ⟨hgrows, hgranted, hrefused⟩ := emission_effect t target disk
      rw [hdisk]
      refine ⟨hgrows, ?_⟩
      cases ha : asked.1 with
      | ok _ =>
          rw [hresult, ha]
          exact ⟨⟨t, rfl, rfl⟩, hgranted ha⟩
      | error failure =>
          obtain ⟨⟨path, cause, rfl | rfl⟩, k, hk, hdelivered⟩ := hrefused failure ha
          · rw [hresult, ha]
            exact ⟨t, rfl, k, hk, hdelivered⟩
          · rw [hresult, ha]
            exact ⟨t, rfl, k, hk, hdelivered⟩

end Datapack.Proofs.PackOnDisk
