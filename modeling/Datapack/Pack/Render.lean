import Datapack.Blocks

namespace Datapack

namespace Artifact

def functionCommands (name : Text) (commands : List Text) : List Text :=
  if name = Layout.loadName then [Layout.loadCommand] else commands

def functionFile (name : Text) (commands : List Text) : PackFile :=
  ⟨Layout.functionPath name, Text.unlines (functionCommands name commands)⟩

def tagFile (tag : Text) : PackFile := ⟨Layout.tagPath tag, Layout.tagContents tag⟩

def manifestFile : PackFile := ⟨Layout.manifestPath, Layout.manifestContents⟩

def ofFunctions (functions : FunctionTable) : Artifact where
  directories := [Layout.functionsDirectory, Layout.tagsDirectory]
  files :=
    functions.entries.map (fun entry => functionFile entry.1 entry.2) ++
      Layout.tags.map tagFile ++ [manifestFile]

def events (functions : FunctionTable) : List Event :=
  (functions.get? Layout.loadName).toList.map (fun commands => .loadReplaced commands.length) ++
    (Layout.tags.filter (fun tag => !functions.contains tag)).map .tagUndeclared ++
    [.packRendered (ofFunctions functions).files.length functions.size]

end Artifact

namespace Pack

def ofFunctions (functions : FunctionTable) : Pack := ⟨functions, .ofFunctions functions⟩

def ofLines (lines : List Line) : Pack := ofFunctions (.ofLines lines)

def events (lines : List Line) : List Event :=
  Blocks.start.events lines ++ Artifact.events (.ofLines lines)

end Pack

end Datapack
