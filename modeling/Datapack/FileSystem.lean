import Datapack.Store.Basic
import Datapack.Text.Utf8

namespace Datapack

structure FileSystem (m : Type → Type) where
  makeDirectory : Path → m (Except Cause Unit)
  write : Path → Bytes → m (Except Cause Unit)
  read : Path → m (Except Cause Bytes)

namespace FileSystem

variable {m : Type → Type} [Monad m]

/-- A directory is known by the answer to an attempt to read it. -/
def isDirectory (files : FileSystem m) (path : Path) : m Bool := do
  match ← files.read path with
  | .error .isDirectory => pure true
  | _ => pure false

def settle (files : FileSystem m) (path : Path) : Except Cause Unit → m (Except Cause Unit)
  | .ok _ => pure (.ok ())
  | .error cause => do
      if ← files.isDirectory path then pure (.ok ()) else pure (.error cause)

/-- Makes the first path, after the ones above it if it cannot be made alone.
What was made stays, even when a later one cannot be. -/
def makeAll (files : FileSystem m) : List Path → m (Except Cause Unit)
  | [] => pure (.ok ())
  | path :: above => do
      match ← files.makeDirectory path with
      | .error .notFound =>
          match ← files.makeAll above with
          | .error cause => pure (.error cause)
          | .ok _ => files.settle path (← files.makeDirectory path)
      | answer => files.settle path answer

def createDirectory (files : FileSystem m) (path : Path) : m (Except Failure Unit) := do
  match ← files.makeAll path.ancestors with
  | .error cause => pure (.error (.createDirectory path cause))
  | .ok _ => pure (.ok ())

def writeContents (files : FileSystem m) (path : Path) (contents : Text) :
    m (Except Failure Unit) := do
  match ← files.write path contents.toUtf8 with
  | .error cause => pure (.error (.writeFile path cause))
  | .ok _ => pure (.ok ())

def writeFile (files : FileSystem m) (path : Path) (contents : Text) :
    m (Except Failure Unit) := do
  match path.parent? with
  | none => files.writeContents path contents
  | some parent =>
      match ← files.createDirectory parent with
      | .error failure => pure (.error failure)
      | .ok _ => files.writeContents path contents

def store (files : FileSystem m) (root : Path) : Store m where
  createDirectory path := files.createDirectory (root.join path)
  writeFile path contents := files.writeFile (root.join path) contents

end FileSystem

end Datapack
