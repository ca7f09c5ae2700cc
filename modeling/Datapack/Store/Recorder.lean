import Datapack.Store.Basic

namespace Datapack

inductive Request
  | directory (path : Path)
  | file (path : Path) (contents : Text)
  deriving DecidableEq, Repr

namespace Store

def recorder (refused : Option Path) : Store (StateM (List Request)) where
  createDirectory path := fun requests =>
    if refused = some path then
      (.error (.createDirectory path (.other "rejected".toList)), requests)
    else (.ok (), requests ++ [.directory path])
  writeFile path contents := fun requests =>
    if refused = some path then
      (.error (.writeFile path (.other "rejected".toList)), requests)
    else (.ok (), requests ++ [.file path contents])

end Store

end Datapack
