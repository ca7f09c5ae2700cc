import Datapack.Session

namespace Datapack.Host

/-- Error numbers arrive with either sign. -/
def ofNumber (number : UInt32) (words : String) : Cause :=
  match min number.toNat (UInt32.size - number.toNat) with
  | 20 => .notDirectory
  | 21 => .isDirectory
  | 36 => .nameTooLong
  | _ => .other words.toList

def cause : IO.Error → Cause
  | .noFileOrDirectory _ _ _ => .notFound
  | .alreadyExists _ _ _ => .alreadyExists
  | .inappropriateType _ number words => ofNumber number words
  | .invalidArgument _ number words => ofNumber number words
  | error => .other (toString error).toList

def attempt {α : Type} (action : IO α) : IO (Except Cause α) :=
  try
    return .ok (← action)
  catch error =>
    return .error (cause error)

/-- A name with a NUL would be cut short by the system, so it is refused here. -/
def onPath {α : Type} (path : Path) (action : String → IO α) : IO (Except Cause α) :=
  if path.text.contains '\x00' then return .error .nulInName
  else attempt (action (String.ofList path.text))

/-- Bytes are taken one at a time, since what follows the line feed is for the
next question. -/
def readLine (input : IO.FS.Stream) : IO Bytes := do
  let mut line := #[]
  repeat
    match (← input.read 1).data.toList with
    | [] => break
    | b :: _ =>
        line := line.push b
        if b = 10 then break
  return line.toList

def console : Console IO where
  write t := do
    let output ← IO.getStdout
    attempt (output.putStr (String.ofList t))
  flush := do
    let output ← IO.getStdout
    attempt output.flush
  readLine := do
    match ← attempt (readLine (← IO.getStdin)) with
    | .error cause => return .error cause
    | .ok line => match Text.ofUtf8? line with
      | none => return .error .notUtf8
      | some t => return .ok t

def files : FileSystem IO where
  makeDirectory path := onPath path (fun name => IO.FS.createDir name)
  write path contents := onPath path (fun name => IO.FS.writeBinFile name ⟨contents.toArray⟩)
  read path := onPath path (fun name => do return (← IO.FS.readBinFile name).data.toList)

def world : World IO := ⟨console, files⟩

def logLine (event : Event) : Text :=
  event.level.label ++ ' ' :: event.target ++ ": ".toList ++ event.shown ++ ['\n']

end Datapack.Host

open Datapack in
def main (arguments : List String) : IO UInt32 := do
  let setting ← IO.getEnv "RUST_LOG"
  let (ending, events) ←
    Session.run Host.world (arguments.map String.toList) (setting.map String.toList)
  let errors ← IO.getStderr
  for event in events do
    errors.putStr (String.ofList (Host.logLine event))
  (← IO.getStdout).putStr (String.ofList ending.output)
  errors.putStr (String.ofList ending.complaint)
  return UInt32.ofNat ending.exitCode
