import Datapack.Proofs.Lifting
import Datapack.Proofs.PackOnDisk
import Datapack.Proofs.Prompts
import Datapack.Proofs.Wording

namespace Datapack.Proofs.Outcome

open Emission PackOnDisk Prompts Lifting Wording

variable {σ : Type} {store : Store (StateM σ)} {s s' : σ} {requested : List Request}
  {failure : Failure} {options : Options} {disk disk' : Disk} {input : Bytes}
  {source target : Path}

def FirstRefusal (store : Store (StateM σ)) (requested : List Request) (s s' : σ)
    (failure : Failure) : Prop :=
  ∃ granted request later, requested = granted ++ request :: later ∧
    (askAll store granted s).1 = .ok () ∧
    ask store request (askAll store granted s).2 = (.error failure, s')

theorem firstRefusal_of_error (h : (askAll store requested s).1 = .error failure) :
    FirstRefusal store requested s (askAll store requested s).2 failure := by
  induction requested generalizing s with
  | nil => cases h
  | cons request requested ih =>
      rw [askAll_cons] at h ⊢
      cases ha : ask store request s with
      | mk answer between =>
          cases answer with
          | error failure' =>
              rw [ha] at h
              obtain rfl : failure' = failure := by simpa using h
              exact ⟨[], request, requested, rfl, rfl, ha⟩
          | ok _ =>
              rw [ha] at h
              obtain ⟨granted, refused, later, rfl, hgranted, hrefused⟩ := ih h
              have hrun : askAll store (request :: granted) s = askAll store granted between := by
                rw [askAll_cons, ha]
              exact ⟨request :: granted, refused, later, rfl, hrun ▸ hgranted, hrun ▸ hrefused⟩

structure Remains where
  exitCode : Nat
  stdout : Text
  stderr : Text
  disk : Disk

def Remains.of (run : (Ending × List Event) × Scene) : Remains :=
  ⟨run.1.1.exitCode, run.2.terminal.shown ++ run.1.1.output, run.1.1.complaint, run.2.disk⟩

/-- No file system can make itself felt in a run. -/
def LeavesFilesAlone (options : Options) (scene : Scene) : Prop :=
  ∀ files, Session.start ⟨Scene.console, files⟩ options scene =
    Session.start Scene.world options scene

inductive CompileError (source target : Path) (disk : Disk) : Disk → Failure → Prop
  | load (cause : Cause) (h : Undecoded (disk.read source) cause) :
      CompileError source target disk disk (.readSource source cause)
  | store (t : Text) (disk' : Disk) (failure : Failure) (h : disk.read source = .ok t.toUtf8)
      (hfailure : IsRefusal failure)
      (hrefused : FirstRefusal (Disk.files.store target)
        (requests (Pack.ofLines (Source.lines t)).artifact) disk disk' failure) :
      CompileError source target disk disk' failure

structure Succeeds (options : Options) (disk : Disk) (input : Bytes) (remains : Remains) :
    Prop where
  exitCode : remains.exitCode = 0
  stderr : remains.stderr = []
  created : ∃ source target t, resolution options input = .ok (source, target) ∧
    disk.read source = .ok t.toUtf8 ∧
    remains.stdout = prompts (allMissing options) ++
      "Datapack created successfully at: ".toList ++ target.text ++ ['\n'] ∧
    ∀ file ∈ (Pack.ofLines (Source.lines t)).artifact.files,
      remains.disk.find (target.join file.path) = .ok (.file file.contents.toUtf8)

structure Fails (options : Options) (disk : Disk) (input : Bytes) (remains : Remains) : Prop where
  exitCode : remains.exitCode = 1
  stdout : remains.stdout = prompts (asked options input)
  stderr : match resolution options input with
    | .error failure => Reports resolving failure remains.stderr ∧ remains.disk = disk ∧
        LeavesFilesAlone options ⟨disk, ⟨input, []⟩⟩
    | .ok (source, target) => ∃ failure, Reports (compiling source) failure remains.stderr ∧
        CompileError source target disk remains.disk failure
  context : opening resolving <+: remains.stderr ↔
    ∃ failure, resolution options input = .error failure

theorem resolve_run_scene (options : Options) (disk : Disk) (input : Bytes) :
    Scene.console.resolve options ⟨disk, ⟨input, []⟩⟩ =
      (resolution options input, ⟨disk, (screen.resolve options ⟨input, []⟩).2⟩) := by
  rw [resolve_scene, ← (resolve_run options ⟨input, []⟩).1]
  rfl

theorem start_of_unresolved (h : resolution options input = .error failure)
    (files : FileSystem (StateM Scene)) :
    Session.start ⟨Scene.console, files⟩ options ⟨disk, ⟨input, []⟩⟩ =
      ((.failed .resolving failure, []), ⟨disk, (screen.resolve options ⟨input, []⟩).2⟩) := by
  rw [Session.start, bind_run, resolve_run_scene, h]
  rfl

theorem start_of_resolved (h : resolution options input = .ok (source, target)) :
    let compiled := Compilation.onFiles Disk.files source target disk
    Session.start Scene.world options ⟨disk, ⟨input, []⟩⟩ =
      ((match compiled.1.result with
        | .error failure => .failed (.compiling source) failure
        | .ok _ => .created target, compiled.1.events),
        ⟨compiled.2, (screen.resolve options ⟨input, []⟩).2⟩) := by
  intro compiled
  have hresolve : Scene.world.console.resolve options ⟨disk, ⟨input, []⟩⟩ =
      (.ok (source, target), ⟨disk, (screen.resolve options ⟨input, []⟩).2⟩) :=
    h ▸ resolve_run_scene options disk input
  have hcompile : Compilation.onFiles Scene.world.files source target
      ⟨disk, (screen.resolve options ⟨input, []⟩).2⟩ =
        (compiled.1, ⟨compiled.2, (screen.resolve options ⟨input, []⟩).2⟩) := by
    rw [onFiles_scene]
    rfl
  rw [Session.start, bind_run, hresolve]
  dsimp only
  rw [bind_run, hcompile]
  dsimp only
  cases compiled.1.result <;> rfl

theorem shown_of_resolution (options : Options) (input : Bytes) :
    (screen.resolve options ⟨input, []⟩).2.shown = prompts (asked options input) :=
  (resolve_run options ⟨input, []⟩).2

theorem compilation_cases (source target : Path) (disk : Disk) :
    let compiled := Compilation.onFiles Disk.files source target disk
    match compiled.1.result with
    | .error failure => CompileError source target disk compiled.2 failure
    | .ok _ => ∃ t, disk.read source = .ok t.toUtf8 ∧
        ∀ file ∈ (Pack.ofLines (Source.lines t)).artifact.files,
          compiled.2.find (target.join file.path) = .ok (.file file.contents.toUtf8) := by
  intro compiled
  cases hd : Source.decode source (disk.read source) with
  | error failure =>
      have hcompiled : compiled = (⟨.error failure, []⟩, disk) := onFiles_of_unread hd
      obtain ⟨cause, rfl, hundecoded⟩ := undecoded_of_error hd
      rw [hcompiled]
      exact .load cause hundecoded
  | ok t =>
      let pack := Pack.ofLines (Source.lines t)
      let run := askAll (Disk.files.store target) (requests pack.artifact) disk
      obtain ⟨hresult, hdisk⟩ : compiled.1.result = run.1.map (fun _ => pack) ∧
          compiled.2 = run.2 := onFiles_of_read hd
      obtain ⟨-, hgranted, hrefused⟩ := emission_effect t target disk
      have hread : disk.read source = .ok t.toUtf8 := decode_eq_ok_iff.1 hd
      rw [hdisk, hresult]
      cases hrun : run.1 with
      | error failure =>
          exact .store t run.2 failure hread (hrefused failure hrun).1 (firstRefusal_of_error hrun)
      | ok _ => exact ⟨t, hread, (hgranted hrun).2.found⟩

def remainsOf (options : Options) (disk : Disk) (input : Bytes) : Remains :=
  .of (Session.start Scene.world options ⟨disk, ⟨input, []⟩⟩)

theorem fails_of_unresolved (h : resolution options input = .error failure) :
    Fails options disk input (remainsOf options disk input) := by
  have hstart (files : FileSystem (StateM Scene)) :
      Session.start ⟨Scene.console, files⟩ options ⟨disk, ⟨input, []⟩⟩ = _ :=
    start_of_unresolved h files
  have hremains : remainsOf options disk input =
      ⟨1, prompts (asked options input) ++ [],
        (Ending.failed .resolving failure).complaint, disk⟩ := by
    rw [remainsOf, Scene.world, hstart, ← shown_of_resolution]
    rfl
  have hreports : Reports resolving failure (Ending.failed .resolving failure).complaint :=
    (reports_iff .resolving).2 rfl
  rw [hremains]
  refine ⟨rfl, List.append_nil _, ?_, ?_⟩
  · rw [h]
    exact ⟨hreports, rfl, fun files => (hstart files).trans (hstart _).symm⟩
  · exact iff_of_true hreports.opened ⟨failure, h⟩

theorem fails_of_uncompiled (h : resolution options input = .ok (source, target))
    (hresult : (Compilation.onFiles Disk.files source target disk).1.result = .error failure) :
    Fails options disk input (remainsOf options disk input) := by
  have hcase := compilation_cases source target disk
  simp only [hresult] at hcase
  have hremains : remainsOf options disk input =
      ⟨1, prompts (asked options input) ++ [],
        (Ending.failed (.compiling source) failure).complaint,
        (Compilation.onFiles Disk.files source target disk).2⟩ := by
    rw [remainsOf, start_of_resolved h, hresult, ← shown_of_resolution]
    rfl
  have hreports : Reports (compiling source) failure
      (Ending.failed (.compiling source) failure).complaint :=
    (reports_iff (.compiling source)).2 rfl
  rw [hremains]
  refine ⟨rfl, List.append_nil _, ?_, ?_⟩
  · rw [h]
    exact ⟨failure, hreports, hcase⟩
  · refine iff_of_false hreports.not_opened ?_
    rintro ⟨failure', hf⟩
    cases h.symm.trans hf

theorem succeeds_of_compiled {pack : Pack} (h : resolution options input = .ok (source, target))
    (hresult : (Compilation.onFiles Disk.files source target disk).1.result = .ok pack) :
    Succeeds options disk input (remainsOf options disk input) := by
  have hcase := compilation_cases source target disk
  simp only [hresult] at hcase
  obtain ⟨t, hread, hfound⟩ := hcase
  have hremains : remainsOf options disk input =
      ⟨0, prompts (allMissing options) ++
          ("Datapack created successfully at: ".toList ++ target.text ++ ['\n']), [],
        (Compilation.onFiles Disk.files source target disk).2⟩ := by
    rw [remainsOf, start_of_resolved h, hresult, ← asked_of_resolved h, ← shown_of_resolution]
    rfl
  rw [hremains]
  exact ⟨rfl, rfl, source, target, t, h, hread, by simp, hfound⟩

/-- A run either says that it created a datapack, and has, or says what kept it
from doing so. -/
theorem outcome_truthful (options : Options) (disk : Disk) (input : Bytes) :
    let remains := remainsOf options disk input
    (∀ arguments setting, Options.ofArguments arguments = .ok options →
      Remains.of (Session.run Scene.world arguments setting ⟨disk, ⟨input, []⟩⟩) = remains) ∧
    (Succeeds options disk input remains ∧ ¬Fails options disk input remains ∨
      Fails options disk input remains ∧ ¬Succeeds options disk input remains) := by
  intro remains
  -- no run has two exit codes
  have hapart : ¬(Succeeds options disk input remains ∧ Fails options disk input remains) := by
    rintro ⟨hsucceeds, hfails⟩
    cases hsucceeds.exitCode.symm.trans hfails.exitCode
  refine ⟨fun arguments setting h => ?_, ?_⟩
  · rw [Session.run, h]
    rfl
  · cases h : resolution options input with
    | error failure =>
        have hfails : Fails options disk input remains := fails_of_unresolved h
        exact .inr ⟨hfails, fun hsucceeds => hapart ⟨hsucceeds, hfails⟩⟩
    | ok paths =>
        cases hresult : (Compilation.onFiles Disk.files paths.1 paths.2 disk).1.result with
        | error failure =>
            have hfails : Fails options disk input remains := fails_of_uncompiled h hresult
            exact .inr ⟨hfails, fun hsucceeds => hapart ⟨hsucceeds, hfails⟩⟩
        | ok pack =>
            have hsucceeds : Succeeds options disk input remains := succeeds_of_compiled h hresult
            exact .inl ⟨hsucceeds, fun hfails => hapart ⟨hsucceeds, hfails⟩⟩

/-- A file stands where the pack is to go. -/
theorem blocked_target_reported :
    let options : Options := ⟨none, some "out".toList, 0⟩
    let disk : Disk := ⟨⟨[(["in.mc".toList], .file []), (["out".toList], .file [])]⟩, []⟩
    let input : Bytes := Text.toUtf8 "in.mc\n".toList
    let remains := remainsOf options disk input
    Fails options disk input remains ∧ ¬Succeeds options disk input remains ∧
      remains.stdout = "Enter the path to the .mc file: ".toList ∧
      remains.stderr = ("Error creating datapack: Compiling in.mc: cannot create directory " ++
        "out/data/mynamespace/functions: Not a directory (os error 20)\n").toList ∧
      remains.disk = disk := by
  intro options disk input remains
  have hcode : remains.exitCode = 1 := by decide +kernel
  obtain ⟨-, ⟨hsucceeds, -⟩ | ⟨hfails, hnot⟩⟩ := outcome_truthful options disk input
  · cases hsucceeds.exitCode.symm.trans hcode
  · exact ⟨hfails, hnot, by decide +kernel, by decide +kernel, by decide +kernel⟩

end Datapack.Proofs.Outcome
