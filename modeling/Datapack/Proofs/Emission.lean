import Datapack.Compile
import Datapack.Store.Recorder

namespace Datapack.Proofs.Emission

variable {m : Type → Type} [Monad m] {σ α β : Type}

def ask (store : Store m) : Request → m (Except Failure Unit)
  | .directory path => store.createDirectory path
  | .file path contents => store.writeFile path contents

def askAll (store : Store m) : List Request → m (Except Failure Unit)
  | [] => pure (.ok ())
  | request :: requests => do
      match ← ask store request with
      | .error failure => pure (.error failure)
      | .ok _ => askAll store requests

def requests (artifact : Artifact) : List Request :=
  artifact.directories.map .directory ++
    artifact.files.map (fun file => .file file.path file.contents)

theorem askAll_append [LawfulMonad m] (store : Store m) (first second : List Request) :
    askAll store (first ++ second) = (do
      match ← askAll store first with
      | .error failure => pure (.error failure)
      | .ok _ => askAll store second) := by
  induction first with
  | nil => simp [askAll]
  | cons request first ih =>
      simp only [List.cons_append, askAll, bind_assoc]
      congr 1
      funext answer
      cases answer with
      | error failure => simp
      | ok _ => exact ih

theorem askAll_directories (store : Store m) (paths : List Path) :
    askAll store (paths.map .directory) = store.createAll paths := by
  induction paths with
  | nil => rfl
  | cons path paths ih =>
      rw [List.map_cons, Store.createAll, ← ih]
      rfl

theorem askAll_files [LawfulMonad m] (store : Store m) (files : List PackFile) :
    askAll store (files.map (fun file => .file file.path file.contents)) =
      Store.Emission.result <$> store.writeAll files := by
  induction files with
  | nil => simp [askAll, Store.writeAll]
  | cons file files ih =>
      simp only [List.map_cons, askAll, ask, Store.writeAll, map_bind, ih]
      congr 1
      funext answer
      cases answer <;> simp

theorem emit_result [LawfulMonad m] (store : Store m) (artifact : Artifact) :
    Store.Emission.result <$> store.emit artifact = askAll store (requests artifact) := by
  rw [requests, askAll_append, askAll_directories, askAll_files, Store.emit, map_bind]
  congr 1
  funext answer
  cases answer <;> simp

theorem emit_run (store : Store (StateM σ)) (artifact : Artifact) (s : σ) :
    ((store.emit artifact s).1.result, (store.emit artifact s).2) =
      askAll store (requests artifact) s :=
  congrFun (emit_result store artifact) s

abbrev Trace := List (Request × Except Failure Unit)

def watch (request : Request) (action : StateM σ (Except Failure Unit)) :
    StateM (σ × Trace) (Except Failure Unit) := fun (s, trace) =>
  let (answer, s) := action s
  (answer, s, trace ++ [(request, answer)])

def watched (store : Store (StateM σ)) : Store (StateM (σ × Trace)) where
  createDirectory path := watch (.directory path) (store.createDirectory path)
  writeFile path contents := watch (.file path contents) (store.writeFile path contents)

def unwatched (action : StateM σ α) : StateM (σ × Trace) α := fun (s, trace) =>
  let (a, s) := action s
  (a, s, trace)

/-- The first action does what the second one does, whatever its trace is. -/
def Watches (action : StateM (σ × Trace) α) (plain : StateM σ α) : Prop :=
  ∀ s trace, ((action (s, trace)).1, (action (s, trace)).2.1) = plain s

theorem bind_run (action : StateM σ α) (next : α → StateM σ β) (s : σ) :
    (action >>= next) s = next (action s).1 (action s).2 := rfl

theorem Watches.pure (a : α) : Watches (σ := σ) (pure a) (pure a) := fun _ _ => rfl

theorem Watches.unwatched (action : StateM σ α) : Watches (unwatched action) action :=
  fun _ _ => rfl

theorem Watches.bind {action : StateM (σ × Trace) α} {plain : StateM σ α}
    {next : α → StateM (σ × Trace) β} {next' : α → StateM σ β} (h : Watches action plain)
    (hnext : ∀ a, Watches (next a) (next' a)) : Watches (action >>= next) (plain >>= next') := by
  intro s trace
  rw [bind_run plain, ← h s trace]
  exact hnext _ _ _

variable (store : Store (StateM σ))

theorem watches_createAll (paths : List Path) :
    Watches ((watched store).createAll paths) (store.createAll paths) := by
  induction paths with
  | nil => exact .pure _
  | cons path paths ih =>
      refine Watches.bind (fun _ _ => rfl) fun answer => ?_
      cases answer with
      | error failure => exact .pure _
      | ok _ => exact ih

theorem watches_writeAll (files : List PackFile) :
    Watches ((watched store).writeAll files) (store.writeAll files) := by
  induction files with
  | nil => exact .pure _
  | cons file files ih =>
      refine Watches.bind (fun _ _ => rfl) fun answer => ?_
      cases answer with
      | error failure => exact .pure _
      | ok _ => exact ih.bind fun _ => .pure _

theorem watches_emit (artifact : Artifact) :
    Watches ((watched store).emit artifact) (store.emit artifact) := by
  refine (watches_createAll store artifact.directories).bind fun answer => ?_
  cases answer with
  | error failure => exact .pure _
  | ok _ => exact watches_writeAll store artifact.files

theorem watches_run (read : Path → StateM σ (Except Cause Bytes)) (source : Path) :
    Watches (Compilation.run (fun path => unwatched (read path)) (watched store) source)
      (Compilation.run read store source) := by
  refine (Watches.unwatched _).bind fun bytes => ?_
  cases Source.decode source bytes with
  | error failure => exact .pure _
  | ok t => exact (watches_emit store _).bind fun _ => .pure _

theorem run_of_unread (read : Path → StateM σ (Except Cause Bytes)) {source : Path} {s : σ}
    {failure : Failure} (h : Source.decode source (read source s).1 = .error failure) :
    Compilation.run read store source s = (⟨.error failure, []⟩, (read source s).2) := by
  rw [Compilation.run, bind_run, h]
  rfl

theorem run_of_read (read : Path → StateM σ (Except Cause Bytes)) {source : Path} {s : σ}
    {t : Text} (h : Source.decode source (read source s).1 = .ok t) :
    (Compilation.run read store source s).1.result =
        (askAll store (requests (Pack.ofLines (Source.lines t)).artifact) (read source s).2).1.map
          (fun _ => Pack.ofLines (Source.lines t)) ∧
      (Compilation.run read store source s).2 =
        (askAll store (requests (Pack.ofLines (Source.lines t)).artifact) (read source s).2).2 := by
  rw [← emit_run, Compilation.run, bind_run, h]
  exact ⟨rfl, rfl⟩

theorem ask_watched (request : Request) (s : σ) (trace : Trace) :
    ask (watched store) request (s, trace) =
      ((ask store request s).1, (ask store request s).2,
        trace ++ [(request, (ask store request s).1)]) := by
  cases request <;> rfl

theorem askAll_cons (request : Request) (requests : List Request) (s : σ) :
    askAll store (request :: requests) s =
      match (ask store request s).1 with
      | .error failure => (.error failure, (ask store request s).2)
      | .ok _ => askAll store requests (ask store request s).2 := by
  rw [askAll, bind_run]
  cases (ask store request s).1 <;> rfl

/-- How requests are answered that are made up to the first refusal. -/
inductive Answered : List Request → Except Failure Unit → Trace → Prop
  | granted (requests) : Answered requests (.ok ()) (requests.map (·, .ok ()))
  | refused (granted request later failure) :
      Answered (granted ++ request :: later) (.error failure)
        (granted.map (·, .ok ()) ++ [(request, .error failure)])

theorem Answered.cons {asked : List Request} {result : Except Failure Unit} {trace : Trace}
    (h : Answered asked result trace) (request : Request) :
    Answered (request :: asked) result ((request, .ok ()) :: trace) := by
  cases h with
  | granted => exact .granted (request :: asked)
  | refused granted refused later failure =>
      exact .refused (request :: granted) refused later failure

theorem watches_askAll (asked : List Request) :
    Watches (askAll (watched store) asked) (askAll store asked) := by
  induction asked with
  | nil => exact .pure _
  | cons request asked ih =>
      intro s trace
      rw [askAll_cons, askAll_cons, ask_watched]
      cases (ask store request s).1 with
      | error failure => rfl
      | ok _ => exact ih _ _

theorem askAll_answered (asked : List Request) (s : σ) (trace : Trace) :
    ∃ made, (askAll (watched store) asked (s, trace)).2.2 = trace ++ made ∧
      Answered asked (askAll (watched store) asked (s, trace)).1 made := by
  induction asked generalizing s trace with
  | nil => exact ⟨[], (List.append_nil trace).symm, .granted []⟩
  | cons request asked ih =>
      rw [askAll_cons, ask_watched]
      cases h : (ask store request s).1 with
      | error failure => exact ⟨[(request, .error failure)], rfl, .refused [] request asked failure⟩
      | ok _ =>
          obtain ⟨made, htrace, hanswered⟩ :=
            ih (ask store request s).2 (trace ++ [(request, .ok ())])
          exact ⟨(request, .ok ()) :: made, by simp [htrace], hanswered.cons request⟩

section Answered

variable {asked : List Request} {result : Except Failure Unit} {trace : Trace}

theorem Answered.in_order (h : Answered asked result trace) : trace.map Prod.fst <+: asked := by
  cases h with
  | granted => simp [Function.comp_def]
  | refused granted request later failure => simp [Function.comp_def]

theorem Answered.ok_iff (h : Answered asked result trace) :
    result = .ok () ↔ ∀ entry ∈ trace, entry.2 = .ok () := by
  cases h with
  | granted => simp
  | refused granted request later failure =>
      simp only [reduceCtorEq, false_iff]
      intro hall
      cases hall (request, .error failure) (by simp)

theorem Answered.complete (h : Answered asked (.ok ()) trace) : trace.map Prod.fst = asked := by
  cases h
  simp [Function.comp_def]

theorem Answered.last_refused {failure : Failure} (h : Answered asked (.error failure) trace) :
    ∃ granted request, trace = granted ++ [(request, .error failure)] ∧
      ∀ entry ∈ granted, entry.2 = .ok () := by
  cases h with
  | refused granted request later => exact ⟨granted.map (·, .ok ()), request, rfl, by simp⟩

end Answered

def IsRefusal (failure : Failure) : Prop :=
  ∃ path cause, failure = .createDirectory path cause ∨ failure = .writeFile path cause

def RefusesInPlace (store : Store (StateM σ)) : Prop :=
  ∀ request s failure, (ask store request s).1 = .error failure → IsRefusal failure

theorem isInput_of_refusal {store : Store (StateM σ)} (hstore : RefusesInPlace store)
    {asked : List Request} {s : σ} {failure : Failure}
    (h : (askAll store asked s).1 = .error failure) : failure.isInput = false := by
  induction asked generalizing s with
  | nil => cases h
  | cons request asked ih =>
      rw [askAll_cons] at h
      cases ha : (ask store request s).1 with
      | error failure' =>
          rw [ha] at h
          cases h
          obtain ⟨path, cause, rfl | rfl⟩ := hstore request s failure ha <;> rfl
      | ok _ =>
          rw [ha] at h
          exact ih h

theorem emit_answered (artifact : Artifact) (s : σ) :
    Answered (requests artifact) ((watched store).emit artifact (s, [])).1.result
      ((watched store).emit artifact (s, [])).2.2 := by
  obtain ⟨made, htrace, hanswered⟩ := askAll_answered store (requests artifact) s []
  rw [← emit_run] at htrace hanswered
  have hmade : ((watched store).emit artifact (s, [])).2.2 = made := htrace
  rwa [hmade]

inductive Undecoded : Except Cause Bytes → Cause → Prop
  | refused (cause : Cause) : Undecoded (.error cause) cause
  | notText (bytes : Bytes) (h : ∀ t : Text, bytes ≠ t.toUtf8) : Undecoded (.ok bytes) .notUtf8

theorem decode_eq_ok_iff {source : Path} {answer : Except Cause Bytes} {t : Text} :
    Source.decode source answer = .ok t ↔ answer = .ok t.toUtf8 := by
  cases answer with
  | error cause => simp [Source.decode]
  | ok bytes =>
      rw [Except.ok.injEq, ← Text.ofUtf8?_eq_some_iff, Source.decode]
      cases Text.ofUtf8? bytes <;> simp

theorem undecoded_of_error {source : Path} {answer : Except Cause Bytes} {failure : Failure}
    (h : Source.decode source answer = .error failure) :
    ∃ cause, failure = .readSource source cause ∧ Undecoded answer cause := by
  cases answer with
  | error cause =>
      cases h
      exact ⟨cause, rfl, .refused cause⟩
  | ok bytes =>
      rw [Source.decode] at h
      cases hbytes : Text.ofUtf8? bytes with
      | some t =>
          rw [hbytes] at h
          cases h
      | none =>
          rw [hbytes] at h
          cases h
          refine ⟨.notUtf8, rfl, .notText bytes fun t ht => ?_⟩
          cases hbytes.symm.trans (Text.ofUtf8?_eq_some_iff.2 ht)

def watchedRun (read : Path → StateM σ (Except Cause Bytes)) (source : Path) (s : σ) :
    Compilation × σ × Trace :=
  Compilation.run (fun path => unwatched (read path)) (watched store) source (s, [])

section Run

variable {store} {read : Path → StateM σ (Except Cause Bytes)} {source : Path} {s : σ}

theorem watchedRun_of_unread {failure : Failure}
    (h : Source.decode source (read source s).1 = .error failure) :
    watchedRun store read source s = (⟨.error failure, []⟩, (read source s).2, []) :=
  run_of_unread (watched store) (fun path => unwatched (read path))
    (show Source.decode source (unwatched (read source) (s, [])).1 = .error failure from h)

variable (store) in
theorem watchedRun_of_read {t : Text} (h : Source.decode source (read source s).1 = .ok t) :
    let pack := Pack.ofLines (Source.lines t)
    let asked := askAll store (requests pack.artifact) (read source s).2
    (watchedRun store read source s).1.result = asked.1.map (fun _ => pack) ∧
      Answered (requests pack.artifact) asked.1 (watchedRun store read source s).2.2 := by
  intro pack asked
  obtain ⟨hresult, hstate⟩ : _ ∧ _ := run_of_read (watched store)
    (fun path => unwatched (read path)) (s := (s, [])) h
  obtain ⟨made, htrace, hanswered⟩ :=
    askAll_answered store (requests pack.artifact) (read source s).2 []
  have hplain : (askAll (watched store) (requests pack.artifact) ((read source s).2, [])).1 =
      asked.1 := congrArg Prod.fst (watches_askAll store _ _ [])
  have hmade : (watchedRun store read source s).2.2 = made :=
    (congrArg Prod.snd hstate).trans htrace
  refine ⟨hresult.trans (congrArg _ hplain), ?_⟩
  rwa [hmade, ← hplain]

theorem watchedRun_ok_iff {t : Text} (h : Source.decode source (read source s).1 = .ok t)
    (pack : Pack) : (watchedRun store read source s).1.result = .ok pack ↔
      pack = Pack.ofLines (Source.lines t) ∧
        ∀ entry ∈ (watchedRun store read source s).2.2, entry.2 = .ok () := by
  obtain ⟨hresult, hanswered⟩ := watchedRun_of_read store h
  rw [hresult, ← hanswered.ok_iff]
  cases (askAll store (requests (Pack.ofLines (Source.lines t)).artifact) (read source s).2).1 with
  | error failure => simp [Except.map]
  | ok _ => simp [Except.map, eq_comm]

theorem watchedRun_complete {t : Text} {pack : Pack}
    (h : Source.decode source (read source s).1 = .ok t)
    (hok : (watchedRun store read source s).1.result = .ok pack) :
    (watchedRun store read source s).2.2.map Prod.fst = requests pack.artifact := by
  obtain ⟨-, hanswered⟩ := watchedRun_of_read store h
  obtain ⟨rfl, hall⟩ := (watchedRun_ok_iff h pack).1 hok
  rw [hanswered.ok_iff.2 hall] at hanswered
  exact hanswered.complete

theorem watchedRun_refused {t : Text} {failure : Failure}
    (h : Source.decode source (read source s).1 = .ok t)
    (hf : (watchedRun store read source s).1.result = .error failure) :
    let asked := requests (Pack.ofLines (Source.lines t)).artifact
    (askAll store asked (read source s).2).1 = .error failure ∧
      Answered asked (.error failure) (watchedRun store read source s).2.2 := by
  obtain ⟨hresult, hanswered⟩ := watchedRun_of_read store h
  rw [hresult] at hf
  cases hasked : (askAll store (requests (Pack.ofLines (Source.lines t)).artifact)
      (read source s).2).1 with
  | ok _ =>
      rw [hasked] at hf
      cases hf
  | error failure' =>
      rw [hasked] at hf hanswered
      cases hf
      exact ⟨hasked, hanswered⟩

theorem watchedRun_isInput_iff (hstore : RefusesInPlace store) {failure : Failure}
    (h : (watchedRun store read source s).1.result = .error failure) :
    failure.isInput = true ↔ (watchedRun store read source s).2.2 = [] := by
  cases hd : Source.decode source (read source s).1 with
  | error failure' =>
      rw [watchedRun_of_unread hd] at h ⊢
      obtain ⟨cause, rfl, -⟩ := undecoded_of_error hd
      cases h
      simp [Failure.isInput]
  | ok t =>
      obtain ⟨hasked, hanswered⟩ := watchedRun_refused hd h
      obtain ⟨granted, request, htrace, -⟩ := hanswered.last_refused
      simp [htrace, isInput_of_refusal hstore hasked]

end Run

/-- Requests are made in the order of the pack up to the first refusal, which
is the last request and the result of the emission. A compilation that cannot
read its script asks for nothing, and any other one asks as the emission of its
pack does. Its failures are of the input exactly when the store was not asked. -/
theorem emission_stops_at_first_refusal (store : Store (StateM σ)) (hstore : RefusesInPlace store) :
    (∀ artifact s,
      let run := (watched store).emit artifact (s, [])
      let trace := run.2.2
      store.emit artifact s = (run.1, run.2.1) ∧
      trace.map Prod.fst <+: requests artifact ∧
      (run.1.result = .ok () ↔
        trace.map Prod.fst = requests artifact ∧ ∀ entry ∈ trace, entry.2 = .ok ()) ∧
      ∀ failure, run.1.result = .error failure → ∃ granted request,
        trace = granted ++ [(request, .error failure)] ∧ ∀ entry ∈ granted, entry.2 = .ok ()) ∧
    ∀ read source s,
      let run := watchedRun store read source s
      let trace := run.2.2
      Compilation.run read store source s = (run.1, run.2.1) ∧
      (∀ failure, Source.decode source (read source s).1 = .error failure →
        trace = [] ∧ run.1.result = .error failure ∧ ∃ cause, failure = .readSource source cause) ∧
      (∀ t, Source.decode source (read source s).1 = .ok t →
        trace.map Prod.fst <+: requests (Pack.ofLines (Source.lines t)).artifact ∧
        (∀ pack, run.1.result = .ok pack ↔
          pack = Pack.ofLines (Source.lines t) ∧ ∀ entry ∈ trace, entry.2 = .ok ()) ∧
        (∀ pack, run.1.result = .ok pack → trace.map Prod.fst = requests pack.artifact) ∧
        ∀ failure, run.1.result = .error failure → ∃ granted request,
          trace = granted ++ [(request, .error failure)] ∧ ∀ entry ∈ granted, entry.2 = .ok ()) ∧
      ∀ failure, run.1.result = .error failure → (failure.isInput = true ↔ trace = []) := by
  constructor
  · intro artifact s run trace
    have hanswered : Answered (requests artifact) run.1.result trace :=
      emit_answered store artifact s
    refine ⟨(watches_emit store artifact s []).symm, hanswered.in_order, ?_, fun failure hf => ?_⟩
    · refine ⟨fun hok => ?_, fun h => hanswered.ok_iff.2 h.2⟩
      exact ⟨(hok ▸ hanswered).complete, hanswered.ok_iff.1 hok⟩
    · exact (hf ▸ hanswered).last_refused
  · intro read source s run trace
    refine ⟨(watches_run store read source s []).symm, fun failure hd => ?_, fun t hd => ?_,
      fun failure => watchedRun_isInput_iff hstore⟩
    · have hrun : run = (⟨.error failure, []⟩, (read source s).2, []) := watchedRun_of_unread hd
      obtain ⟨cause, hcause, -⟩ := undecoded_of_error hd
      exact ⟨by simp [trace, hrun], by simp [hrun], cause, hcause⟩
    · exact ⟨(watchedRun_of_read store hd).2.in_order, watchedRun_ok_iff hd,
        fun _ hok => watchedRun_complete hd hok,
        fun _ hf => (watchedRun_refused hd hf).2.last_refused⟩

theorem recorder_refusesInPlace (refused : Option Path) :
    RefusesInPlace (Store.recorder refused) := by
  intro request s failure h
  cases request with
  | directory path =>
      simp only [ask, Store.recorder] at h
      split at h <;> cases h
      exact ⟨path, _, .inl rfl⟩
  | file path contents =>
      simp only [ask, Store.recorder] at h
      split at h <;> cases h
      exact ⟨path, _, .inr rfl⟩

/-- The manifest is the last file of the pack of an empty script. -/
theorem refused_manifest_ends_compilation :
    let store := Store.recorder (some Layout.manifestPath)
    let run := watchedRun store (fun _ => pure (.ok [])) (Path.ofString "in.mc") []
    let failure := Failure.writeFile Layout.manifestPath (.other "rejected".toList)
    RefusesInPlace store ∧ run.1.result = .error failure ∧ run.2.2 ≠ [] := by
  intro store run failure
  have hstore : RefusesInPlace store := recorder_refusesInPlace _
  have hresult : run.1.result = .error failure := rfl
  have hinput := ((emission_stops_at_first_refusal store hstore).2
    (fun _ => pure (.ok [])) (Path.ofString "in.mc") []).2.2.2 failure hresult
  exact ⟨hstore, hresult, fun htrace => absurd (hinput.2 htrace) (by decide)⟩

/-- When the very last request is refused all requests have been made, and the
emission fails all the same. -/
theorem last_request_refused :
    let store := Store.recorder (some Layout.manifestPath)
    let artifact : Artifact := ⟨[Layout.data], [⟨Layout.manifestPath, []⟩]⟩
    let run := (watched store).emit artifact ([], [])
    ¬(run.2.2.map Prod.fst = requests artifact ↔ run.1.result = .ok ()) := by
  intro store artifact run h
  have hmade : run.2.2.map Prod.fst = requests artifact := rfl
  have hresult : run.1.result =
      .error (.writeFile Layout.manifestPath (.other "rejected".toList)) := rfl
  rw [h.1 hmade] at hresult
  cases hresult

end Datapack.Proofs.Emission
