import Datapack.Disk.Tree
import Datapack.FileSystem

namespace Datapack

/-- A file system without links. Relative paths start at `home`. -/
structure Disk where
  tree : Tree
  home : Location
  deriving DecidableEq, Repr

/-- Where a path leads: to a directory that is there, by way of its last dots or
because it is the root, or to a name in such a directory. The flag says that a
slash follows the name. -/
inductive Spot
  | directory (place : Location)
  | name (parent : Location) (name : Text) (slash : Bool)
  deriving DecidableEq, Repr

namespace Disk

def maxNameSize : Nat := 255

def maxPathSize : Nat := 4095

def enter (disk : Disk) (place : Location) (segment : Text) : Except Cause Location :=
  if segment = ['.'] then .ok place
  else if segment = ['.', '.'] then .ok place.dropLast
  else if maxNameSize < segment.utf8Size then .error .nameTooLong
  else
    match disk.tree.get? (place ++ [segment]) with
    | none => .error .notFound
    | some (.file _) => .error .notDirectory
    | some .directory => .ok (place ++ [segment])

def walk (disk : Disk) (place : Location) (segments : List Text) : Except Cause Location :=
  segments.foldlM disk.enter place

def origin (disk : Disk) (path : Path) : Location := if path.isAbsolute then [] else disk.home

def locate (disk : Disk) (path : Path) : Except Cause Spot :=
  if path.text.contains '\x00' then .error .nulInName
  else if path.text.isEmpty then .error .notFound
  else if maxPathSize < path.text.utf8Size then .error .nameTooLong
  else
    let segments := path.segments.filter (fun segment => !segment.isEmpty)
    match segments.getLast? with
    | none => .ok (.directory (disk.origin path))
    | some last => do
        let place ← disk.walk (disk.origin path) segments.dropLast
        if last = ['.'] then .ok (.directory place)
        else if last = ['.', '.'] then .ok (.directory place.dropLast)
        else .ok (.name place last path.endsInSlash)

def find (disk : Disk) (path : Path) : Except Cause Entry := do
  match ← disk.locate path with
  | .directory _ => .ok .directory
  | .name parent name slash =>
      if maxNameSize < name.utf8Size then .error .nameTooLong
      else
        match disk.tree.get? (parent ++ [name]) with
        | none => .error .notFound
        | some .directory => .ok .directory
        | some (.file contents) => if slash then .error .notDirectory else .ok (.file contents)

def read (disk : Disk) (path : Path) : Except Cause Bytes := do
  match ← disk.find path with
  | .directory => .error .isDirectory
  | .file contents => .ok contents

def makeDirectory (disk : Disk) (path : Path) : Except Cause Disk := do
  match ← disk.locate path with
  | .directory _ => .error .alreadyExists
  | .name parent name _ =>
      if maxNameSize < name.utf8Size then .error .nameTooLong
      else if (disk.tree.get? (parent ++ [name])).isSome then .error .alreadyExists
      else .ok { disk with tree := disk.tree.put (parent ++ [name]) .directory }

def write (disk : Disk) (path : Path) (contents : Bytes) : Except Cause Disk := do
  match ← disk.locate path with
  | .directory _ => .error .isDirectory
  | .name parent name slash =>
      if slash then .error .isDirectory
      else if maxNameSize < name.utf8Size then .error .nameTooLong
      else if disk.tree.get? (parent ++ [name]) = some .directory then .error .isDirectory
      else .ok { disk with tree := disk.tree.put (parent ++ [name]) (.file contents) }

def answer (disk : Disk) : Except Cause Disk → Except Cause Unit × Disk
  | .ok disk => (.ok (), disk)
  | .error cause => (.error cause, disk)

def files : FileSystem (StateM Disk) where
  makeDirectory path := fun disk => disk.answer (disk.makeDirectory path)
  write path contents := fun disk => disk.answer (disk.write path contents)
  read path := fun disk => (disk.read path, disk)

end Disk

end Datapack
