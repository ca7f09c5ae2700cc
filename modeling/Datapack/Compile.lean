import Datapack.FileSystem
import Datapack.Pack.Render

namespace Datapack

namespace Source

def decode (path : Path) : Except Cause Bytes → Except Failure Text
  | .error cause => .error (.readSource path cause)
  | .ok bytes => match Text.ofUtf8? bytes with
    | none => .error (.readSource path .notUtf8)
    | some t => .ok t

def events (t : Text) : List Event := [.linesFound (lines t).length]

def loadEvents (t : Text) : List Event := .sourceRead t.utf8Size :: events t

end Source

structure Compilation where
  result : Except Failure Pack
  events : List Event

namespace Compilation

variable {m : Type → Type} [Monad m]

/-- The store is not touched before the whole pack is ready. -/
def run (read : Path → m (Except Cause Bytes)) (store : Store m) (source : Path) :
    m Compilation := do
  match Source.decode source (← read source) with
  | .error failure => pure ⟨.error failure, []⟩
  | .ok t =>
      let lines := Source.lines t
      let pack := Pack.ofLines lines
      let emission ← store.emit pack.artifact
      pure ⟨emission.result.map (fun _ => pack),
        Source.loadEvents t ++ Pack.events lines ++
          [.packCompiled pack.functions.size lines.length] ++
          emission.written.map .fileWritten⟩

def onFiles (files : FileSystem m) (source target : Path) : m Compilation :=
  run files.read (files.store target) source

end Compilation

end Datapack
