import Datapack.Pack.Basic

namespace Datapack.Layout

def namespaceName : Text := "mynamespace".toList

def format : Nat := 10

def description : Text := "Custom .mc Language Datapack".toList

def loadName : Text := "load".toList

/-- The one command of a declared `load`, whatever its body says. -/
def loadCommand : Text := "say \"Loading datapack...\"".toList

def tags : List Text := [loadName, "update".toList]

def data : Path := (Path.ofString "data").join ⟨namespaceName⟩

def functionsDirectory : Path := data.join (Path.ofString "functions")

def tagsDirectory : Path := (data.join (Path.ofString "tags")).join (Path.ofString "functions")

def functionPath (name : Text) : Path :=
  functionsDirectory.join ⟨name ++ ".mcfunction".toList⟩

def tagPath (tag : Text) : Path := tagsDirectory.join ⟨tag ++ ".json".toList⟩

def manifestPath : Path := Path.ofString "pack.mcmeta"

def functionId (name : Text) : Text := namespaceName ++ ':' :: name

def tagContents (tag : Text) : Text :=
  Text.unlines ["\x7b".toList, "  \"values\": [".toList,
    "    \"".toList ++ functionId tag ++ "\"".toList, "  ]".toList, "\x7d".toList]

def manifestContents : Text :=
  Text.unlines ["\x7b".toList, "  \"pack\": \x7b".toList,
    "    \"pack_format\": ".toList ++ Text.ofNat format ++ ",".toList,
    "    \"description\": \"".toList ++ description ++ "\"".toList,
    "  \x7d".toList, "\x7d".toList]

end Datapack.Layout
