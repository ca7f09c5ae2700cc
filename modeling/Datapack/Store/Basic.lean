import Datapack.Failure
import Datapack.Pack.Basic

namespace Datapack

/-- Where a pack is put. Paths are relative to the root of the store, and a
directory that is already there is created again without complaint. -/
structure Store (m : Type → Type) where
  createDirectory : Path → m (Except Failure Unit)
  writeFile : Path → Text → m (Except Failure Unit)

namespace Store

structure Emission where
  result : Except Failure Unit
  written : List Path

variable {m : Type → Type} [Monad m]

def createAll (store : Store m) : List Path → m (Except Failure Unit)
  | [] => pure (.ok ())
  | path :: paths => do
      match ← store.createDirectory path with
      | .error failure => pure (.error failure)
      | .ok _ => store.createAll paths

def writeAll (store : Store m) : List PackFile → m Emission
  | [] => pure ⟨.ok (), []⟩
  | file :: files => do
      match ← store.writeFile file.path file.contents with
      | .error failure => pure ⟨.error failure, []⟩
      | .ok _ =>
          let later ← store.writeAll files
          pure ⟨later.result, file.path :: later.written⟩

def emit (store : Store m) (artifact : Artifact) : m Emission := do
  match ← store.createAll artifact.directories with
  | .error failure => pure ⟨.error failure, []⟩
  | .ok _ => store.writeAll artifact.files

end Store

end Datapack
