import Datapack.Disk.Basic

namespace Datapack.Disk

def listed (names : Location) : Entry → Text × Option Bytes
  | .directory => (List.intercalate ['/'] names ++ ['/'], none)
  | .file contents => (List.intercalate ['/'] names, some contents)

def listing (disk : Disk) : List (Text × Option Bytes) :=
  let below := disk.tree.entries.filterMap (fun entry =>
    if disk.home.isPrefixOf entry.1 && disk.home.length < entry.1.length then
      some (listed (entry.1.drop disk.home.length) entry.2)
    else none)
  below.mergeSort (fun a b => !decide (b.1 < a.1))

def bare (home : Location) : Disk :=
  ⟨⟨(List.range home.length).map (fun n => (home.take (n + 1), .directory))⟩, home⟩

/-- Puts a file, or for a path that ends in a slash a directory, where nothing
is in the way. -/
def furnish (disk : Disk) (path : Path) (contents : Bytes) : Disk :=
  let steps : StateM Disk Unit := do
    if path.endsInSlash then
      let _ ← files.makeAll path.ancestors
    else
      let _ ← files.makeAll (path.ancestors.drop 1)
      let _ ← files.write path contents
  (steps.run disk).2

end Datapack.Disk
