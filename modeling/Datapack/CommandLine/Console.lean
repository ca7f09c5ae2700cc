import Datapack.CommandLine.Options
import Datapack.Failure
import Datapack.Text.Class
import Datapack.Text.Utf8

namespace Datapack

/-- Where questions are shown and answers typed. A line that is read includes its
line feed, and is empty at the end of the input. -/
structure Console (m : Type → Type) where
  write : Text → m (Except Cause Unit)
  flush : m (Except Cause Unit)
  readLine : m (Except Cause Text)

namespace Console

variable {m : Type → Type} [Monad m]

def ask (console : Console m) (question : Question) : m (Except Failure Path) := do
  match ← console.write question.text with
  | .error cause => pure (.error (.prompt cause))
  | .ok _ =>
      match ← console.flush with
      | .error cause => pure (.error (.prompt cause))
      | .ok _ =>
          match ← console.readLine with
          | .error cause => pure (.error (.prompt cause))
          | .ok line =>
              match line.strip isWhiteSpace with
              | [] => pure (.error (.noAnswer question))
              | answer => pure (.ok ⟨answer⟩)

def given (console : Console m) (question : Question) : Option Text → m (Except Failure Path)
  | some t => pure (.ok ⟨t⟩)
  | none => console.ask question

def resolve (console : Console m) (options : Options) : m (Except Failure (Path × Path)) := do
  match ← console.given .source options.input with
  | .error failure => pure (.error failure)
  | .ok source =>
      match ← console.given .target options.output with
      | .error failure => pure (.error failure)
      | .ok target => pure (.ok (source, target))

end Console

structure Writer (σ : Type) where
  write : Text → σ → Except Cause Unit × σ
  flush : σ → Except Cause Unit × σ

structure Terminal (σ : Type) where
  input : Bytes
  shown : σ

namespace Terminal

def cutLine : Bytes → Bytes × Bytes
  | [] => ([], [])
  | b :: bytes => if b = 10 then ([b], bytes) else (b :: (cutLine bytes).1, (cutLine bytes).2)

/-- A line that is not well-formed is consumed all the same. -/
def console {σ : Type} (writer : Writer σ) : Console (StateM (Terminal σ)) where
  write t := fun terminal =>
    let (answer, shown) := writer.write t terminal.shown
    (answer, { terminal with shown })
  flush := fun terminal =>
    let (answer, shown) := writer.flush terminal.shown
    (answer, { terminal with shown })
  readLine := fun terminal =>
    let (line, input) := cutLine terminal.input
    match Text.ofUtf8? line with
    | none => (.error .notUtf8, { terminal with input })
    | some t => (.ok t, { terminal with input })

end Terminal

inductive Fault
  | write | flush
  deriving DecidableEq, Repr

namespace Writer

def recorder (fault : Option Fault) : Writer Text where
  write t := fun shown =>
    if fault = some .write then (.error (.other "rejected".toList), shown) else (.ok (), shown ++ t)
  flush := fun shown =>
    if fault = some .flush then (.error (.other "rejected".toList), shown) else (.ok (), shown)

end Writer

end Datapack
