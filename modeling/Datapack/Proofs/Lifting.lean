import Datapack.Scene

namespace Datapack.Proofs.Lifting

variable {m n : Type → Type} [Monad m] [Monad n] {α β : Type}

/-- A change of monads that keeps what programs are made of. -/
structure Lift (m n : Type → Type) [Monad m] [Monad n] where
  lift {α : Type} : m α → n α
  lift_pure {α : Type} (a : α) : lift (pure a) = pure a
  lift_bind {α β : Type} (action : m α) (next : α → m β) :
    lift (action >>= next) = lift action >>= fun a => lift (next a)

namespace Lift

variable (l : Lift m n)

theorem bind_congr {action : m α} {next : α → m β} {next' : α → n β}
    (h : ∀ a, next' a = l.lift (next a)) : l.lift action >>= next' = l.lift (action >>= next) := by
  rw [l.lift_bind]
  exact congrArg _ (funext h)

def files (files : FileSystem m) : FileSystem n where
  makeDirectory path := l.lift (files.makeDirectory path)
  write path contents := l.lift (files.write path contents)
  read path := l.lift (files.read path)

def store (store : Store m) : Store n where
  createDirectory path := l.lift (store.createDirectory path)
  writeFile path contents := l.lift (store.writeFile path contents)

def console (console : Console m) : Console n where
  write t := l.lift (console.write t)
  flush := l.lift console.flush
  readLine := l.lift console.readLine

section Files

variable (files : FileSystem m)

theorem lift_isDirectory (path : Path) :
    (l.files files).isDirectory path = l.lift (files.isDirectory path) := by
  refine l.bind_congr fun answer => ?_
  split <;> exact (l.lift_pure _).symm

theorem lift_settle (path : Path) (answer : Except Cause Unit) :
    (l.files files).settle path answer = l.lift (files.settle path answer) := by
  cases answer with
  | ok _ => exact (l.lift_pure _).symm
  | error cause =>
      rw [FileSystem.settle, lift_isDirectory]
      refine l.bind_congr fun found => ?_
      cases found <;> exact (l.lift_pure _).symm

theorem lift_makeAll (paths : List Path) :
    (l.files files).makeAll paths = l.lift (files.makeAll paths) := by
  induction paths with
  | nil => exact (l.lift_pure _).symm
  | cons path above ih =>
      refine l.bind_congr fun answer => ?_
      split
      · rw [ih]
        refine l.bind_congr fun answer' => ?_
        cases answer' with
        | error cause => exact (l.lift_pure _).symm
        | ok _ => exact l.bind_congr fun answer'' => lift_settle l files path answer''
      · exact lift_settle l files path _

theorem lift_createDirectory (path : Path) :
    (l.files files).createDirectory path = l.lift (files.createDirectory path) := by
  rw [FileSystem.createDirectory, lift_makeAll]
  refine l.bind_congr fun answer => ?_
  cases answer <;> exact (l.lift_pure _).symm

theorem lift_writeContents (path : Path) (contents : Text) :
    (l.files files).writeContents path contents = l.lift (files.writeContents path contents) := by
  refine l.bind_congr fun answer => ?_
  cases answer <;> exact (l.lift_pure _).symm

theorem lift_writeFile (path : Path) (contents : Text) :
    (l.files files).writeFile path contents = l.lift (files.writeFile path contents) := by
  rw [FileSystem.writeFile, FileSystem.writeFile]
  cases path.parent? with
  | none => exact lift_writeContents l files path contents
  | some parent =>
      simp only [lift_createDirectory]
      refine l.bind_congr fun answer => ?_
      cases answer with
      | error failure => exact (l.lift_pure _).symm
      | ok _ => exact lift_writeContents l files path contents

theorem lift_store (root : Path) : (l.files files).store root = l.store (files.store root) := by
  simp only [FileSystem.store, store, lift_createDirectory, lift_writeFile]

end Files

section Store

variable (s : Store m)

theorem lift_createAll (paths : List Path) :
    (l.store s).createAll paths = l.lift (s.createAll paths) := by
  induction paths with
  | nil => exact (l.lift_pure _).symm
  | cons path paths ih =>
      refine l.bind_congr fun answer => ?_
      cases answer with
      | error failure => exact (l.lift_pure _).symm
      | ok _ => exact ih

theorem lift_writeAll (files : List PackFile) :
    (l.store s).writeAll files = l.lift (s.writeAll files) := by
  induction files with
  | nil => exact (l.lift_pure _).symm
  | cons file files ih =>
      refine l.bind_congr fun answer => ?_
      cases answer with
      | error failure => exact (l.lift_pure _).symm
      | ok _ =>
          simp only [ih]
          exact l.bind_congr fun later => (l.lift_pure _).symm

theorem lift_emit (artifact : Artifact) : (l.store s).emit artifact = l.lift (s.emit artifact) := by
  rw [Store.emit, lift_createAll]
  refine l.bind_congr fun answer => ?_
  cases answer with
  | error failure => exact (l.lift_pure _).symm
  | ok _ => exact lift_writeAll l s artifact.files

end Store

theorem lift_onFiles (files : FileSystem m) (source target : Path) :
    Compilation.onFiles (l.files files) source target =
      l.lift (Compilation.onFiles files source target) := by
  rw [Compilation.onFiles, lift_store]
  refine l.bind_congr fun bytes => ?_
  cases Source.decode source bytes with
  | error failure => exact (l.lift_pure _).symm
  | ok t =>
      simp only [lift_emit]
      exact l.bind_congr fun emission => (l.lift_pure _).symm

section Console

variable (c : Console m)

theorem lift_ask (question : Question) : (l.console c).ask question = l.lift (c.ask question) := by
  refine l.bind_congr fun answer => ?_
  cases answer with
  | error cause => exact (l.lift_pure _).symm
  | ok _ =>
      refine l.bind_congr fun answer' => ?_
      cases answer' with
      | error cause => exact (l.lift_pure _).symm
      | ok _ =>
          refine l.bind_congr fun line => ?_
          cases line with
          | error cause => exact (l.lift_pure _).symm
          | ok line =>
              dsimp only
              cases line.strip isWhiteSpace <;> exact (l.lift_pure _).symm

theorem lift_given (question : Question) (answer : Option Text) :
    (l.console c).given question answer = l.lift (c.given question answer) := by
  cases answer with
  | none => exact lift_ask l c question
  | some t => exact (l.lift_pure _).symm

theorem lift_resolve (options : Options) :
    (l.console c).resolve options = l.lift (c.resolve options) := by
  rw [Console.resolve, lift_given]
  refine l.bind_congr fun source => ?_
  cases source with
  | error failure => exact (l.lift_pure _).symm
  | ok source =>
      simp only [lift_given]
      refine l.bind_congr fun target => ?_
      cases target <;> exact (l.lift_pure _).symm

end Console

end Lift

def diskLift : Lift (StateM Disk) (StateM Scene) where
  lift := Scene.onDisk
  lift_pure _ := rfl
  lift_bind _ _ := rfl

def terminalLift : Lift (StateM (Terminal Text)) (StateM Scene) where
  lift := Scene.onTerminal
  lift_pure _ := rfl
  lift_bind _ _ := rfl

theorem onFiles_scene (source target : Path) :
    Compilation.onFiles Scene.world.files source target =
      Scene.onDisk (Compilation.onFiles Disk.files source target) :=
  diskLift.lift_onFiles Disk.files source target

theorem resolve_scene (options : Options) :
    Scene.console.resolve options =
      Scene.onTerminal ((Terminal.console (.recorder none)).resolve options) :=
  terminalLift.lift_resolve (Terminal.console (.recorder none)) options

end Datapack.Proofs.Lifting
