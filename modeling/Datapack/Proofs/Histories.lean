import Datapack.Proofs.Recompilation
import Datapack.Proofs.TreeShape

namespace Datapack.Proofs.Histories

open Emission Places DiskSteps PackOnDisk Repetition Recompilation TreeShape

variable {disk : Disk} {home place : Location} {target : Path} {request : Request}

/-- Requests made one after the other, whatever becomes of those before. -/
def history (target : Path) (disk : Disk) : List Request → Trace × Disk
  | [] => ([], disk)
  | request :: requests =>
      let (answer, next) := ask (Disk.files.store target) request disk
      let (trace, last) := history target next requests
      ((request, answer) :: trace, last)

def written (home : Location) (target : Path) (place : Location) :
    Request × Except Failure Unit → Option Bytes
  | (.file path contents, .ok _) =>
      if placeOf home (target.join path) = place then some contents.toUtf8 else none
  | _ => none

def lastWritten (home : Location) (target : Path) (place : Location) (trace : Trace) :
    Option Bytes :=
  trace.reverse.findSome? (written home target place)

theorem lastWritten_cons (entry : Request × Except Failure Unit) (trace : Trace) :
    lastWritten home target place (entry :: trace) =
      (lastWritten home target place trace).or (written home target place entry) := by
  rw [lastWritten, List.reverse_cons, List.findSome?_append, List.findSome?_singleton]
  rfl

theorem history_append (target : Path) (disk : Disk) (earlier later : List Request) :
    (history target disk (earlier ++ later)).2 =
      (history target (history target disk earlier).2 later).2 := by
  induction earlier generalizing disk with
  | nil => rfl
  | cons request earlier ih => exact ih (ask (Disk.files.store target) request disk).2

theorem grows_history (target : Path) (disk : Disk) (requests : List Request) :
    Grows disk (history target disk requests).2 := by
  induction requests generalizing disk with
  | nil => exact .refl disk
  | cons request requests ih => exact (ask_serves target request disk).grows.trans (ih _)

theorem wellFormed_history (h : WellFormed disk) (target : Path) (requests : List Request) :
    WellFormed (history target disk requests).2 := by
  induction requests generalizing disk with
  | nil => exact h
  | cons request requests ih => exact ih (h.ask target request)

theorem filesOf_refused {failure : Failure}
    (h : (ask (Disk.files.store target) request disk).1 = .error failure) :
    filesOf (ask (Disk.files.store target) request disk).2 = filesOf disk := by
  funext place
  exact filesOf_of_sameFiles ((ask_serves target request disk).refused failure h).2 (by simp)

theorem filesOf_ask (target : Path) (request : Request) (disk : Disk) (place : Location) :
    let run := ask (Disk.files.store target) request disk
    filesOf run.2 place =
      (written disk.home target place (request, run.1)).or (filesOf disk place) := by
  intro run
  have hserves : Serves _ _ disk run := ask_serves target request disk
  cases hr : run.1 with
  | error failure =>
      rw [filesOf_refused hr]
      cases request <;> rfl
  | ok _ =>
      obtain ⟨hdone, hsame⟩ := hserves.granted hr
      cases request with
      | directory path => exact filesOf_of_sameFiles hsame (by simp [placesOf])
      | file path contents =>
          rw [written]
          by_cases hplace : placeOf disk.home (target.join path) = place
          · rw [if_pos hplace, ← hplace, ← hserves.grows.home]
            exact filesOf_eq_some_iff.2 (get?_of_find hdone)
          · rw [if_neg hplace]
            exact filesOf_of_sameFiles hsame (by simpa [placesOf] using Ne.symm hplace)

theorem filesOf_history (target : Path) (disk : Disk) (requests : List Request)
    (place : Location) :
    let run := history target disk requests
    filesOf run.2 place = (lastWritten disk.home target place run.1).or (filesOf disk place) := by
  induction requests generalizing disk with
  | nil => rfl
  | cons request requests ih =>
      let run := ask (Disk.files.store target) request disk
      have hhome : run.2.home = disk.home := (ask_serves target request disk).grows.home
      calc filesOf (history target run.2 requests).2 place
        _ = (lastWritten run.2.home target place (history target run.2 requests).1).or
              (filesOf run.2 place) := ih run.2
        _ = (lastWritten disk.home target place (history target run.2 requests).1).or
              ((written disk.home target place (request, run.1)).or (filesOf disk place)) := by
            rw [hhome, filesOf_ask target request disk place]
        _ = (lastWritten disk.home target place
              ((request, run.1) :: (history target run.2 requests).1)).or (filesOf disk place) := by
            rw [lastWritten_cons, Option.or_assoc]

theorem ask_again (h : (ask (Disk.files.store target) request disk).1 = .ok ()) :
    ask (Disk.files.store target) request (ask (Disk.files.store target) request disk).2 =
      (.ok (), (ask (Disk.files.store target) request disk).2) :=
  ask_done ((ask_serves target request disk).granted h).1

/-- Whatever is asked of a directory, and however the requests end, the disk
stays a tree, nothing on it goes away, and each file holds what was last written
to its place. A refused request touches no file, and a granted one can be made
again for nothing. -/
theorem requests_keep_tree (target : Path) (disk : Disk) (h : WellFormed disk)
    (requests : List Request) :
    let run := history target disk requests
    WellFormed run.2 ∧
    (∀ earlier later, requests = earlier ++ later → Grows (history target disk earlier).2 run.2) ∧
    (∀ place, filesOf run.2 place =
      (lastWritten disk.home target place run.1).or (filesOf disk place)) ∧
    ∀ request,
      let next := ask (Disk.files.store target) request run.2
      (∀ failure, next.1 = .error failure → filesOf next.2 = filesOf run.2) ∧
      (next.1 = .ok () → ask (Disk.files.store target) request next.2 = (.ok (), next.2)) := by
  intro run
  refine ⟨wellFormed_history h target requests, ?_, filesOf_history target disk requests,
    fun request => ⟨fun failure => filesOf_refused, ask_again⟩⟩
  rintro earlier later rfl
  have hrun : run.2 = _ := history_append target disk earlier later
  rw [hrun]
  exact grows_history target _ later

/-- Two ways to write one place, and between them a file in the way of a directory. -/
theorem aliased_writes_meet :
    let disk : Disk := ⟨⟨[(["w".toList], .directory), (["w".toList, "old".toList], .file [48])]⟩,
      ["w".toList]⟩
    let requests : List Request := [.file (Path.ofString "a/../b") "1".toList,
      .directory (Path.ofString "b/c"), .file (Path.ofString "/w/out/./b") "2".toList]
    let run := history (Path.ofString "out") disk requests
    WellFormed disk ∧ WellFormed run.2 ∧ run.1.map (fun entry => entry.2.isOk) = [true, false, true] ∧
      filesOf run.2 ["w".toList, "out".toList, "b".toList] = some [50] ∧
      filesOf run.2 ["w".toList, "old".toList] = some [48] := by
  intro disk requests run
  have hdisk : WellFormed disk := by decide
  obtain ⟨htree, -, hfiles, -⟩ := requests_keep_tree (Path.ofString "out") disk hdisk requests
  refine ⟨hdisk, htree, by decide +kernel, (hfiles _).trans ?_, (hfiles _).trans ?_⟩
  · decide +kernel
  · decide +kernel

end Datapack.Proofs.Histories
