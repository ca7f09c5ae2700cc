import Datapack.FunctionTable
import Datapack.Path

namespace Datapack

structure PackFile where
  path : Path
  contents : Text
  deriving DecidableEq, Repr

/-- A datapack on its way to a store. The directories have to exist even when
no file is put into them. -/
structure Artifact where
  directories : List Path
  files : List PackFile
  deriving DecidableEq, Repr

def Artifact.file? (artifact : Artifact) (path : Path) : Option PackFile :=
  artifact.files.find? (fun file => file.path.samePlace path)

structure Pack where
  functions : FunctionTable
  artifact : Artifact

end Datapack
