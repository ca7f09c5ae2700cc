import Datapack.Disk.Basic
import Datapack.Session

namespace Datapack

/-- A whole surrounding as a value: a disk, what is still to be typed and what
has been shown. -/
structure Scene where
  disk : Disk
  terminal : Terminal Text

namespace Scene

variable {α : Type}

def onTerminal (action : StateM (Terminal Text) α) : StateM Scene α := fun scene =>
  let (a, terminal) := action scene.terminal
  (a, { scene with terminal })

def onDisk (action : StateM Disk α) : StateM Scene α := fun scene =>
  let (a, disk) := action scene.disk
  (a, { scene with disk })

def console : Console (StateM Scene) where
  write t := onTerminal ((Terminal.console (.recorder none)).write t)
  flush := onTerminal (Terminal.console (.recorder none)).flush
  readLine := onTerminal (Terminal.console (.recorder none)).readLine

def world : World (StateM Scene) where
  console := console
  files := {
    makeDirectory := fun path => onDisk (Disk.files.makeDirectory path)
    write := fun path contents => onDisk (Disk.files.write path contents)
    read := fun path => onDisk (Disk.files.read path) }

end Scene

end Datapack
