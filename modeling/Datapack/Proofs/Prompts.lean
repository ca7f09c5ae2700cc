import Datapack.CommandLine.Console
import Datapack.Proofs.Emission

namespace Datapack.Proofs.Prompts

open Terminal Emission

abbrev screen : Console (StateM (Terminal Text)) := Terminal.console (.recorder none)

def reply (question : Question) (line : Bytes) : Except Failure Path :=
  match Text.ofUtf8? line with
  | none => .error (.prompt .notUtf8)
  | some t =>
      match t.strip isWhiteSpace with
      | [] => .error (.noAnswer question)
      | answer => .ok ⟨answer⟩

def prompts (questions : List Question) : Text :=
  questions.flatMap fun
    | .source => "Enter the path to the .mc file: ".toList
    | .target => "Enter the export path for the Minecraft datapack: ".toList

def missing (question : Question) : Option Text → List Question
  | none => [question]
  | some _ => []

def allMissing (options : Options) : List Question :=
  missing .source options.input ++ missing .target options.output

def answer (question : Question) (given : Option Text) (input : Bytes) :
    Except Failure Path × Bytes :=
  match given with
  | some t => (.ok ⟨t⟩, input)
  | none => (reply question (cutLine input).1, (cutLine input).2)

def resolution (options : Options) (input : Bytes) : Except Failure (Path × Path) := do
  let rest := (answer .source options.input input).2
  let source ← (answer .source options.input input).1
  let target ← (answer .target options.output rest).1
  return (source, target)

/-- There is no question for the target before there is a source. -/
def asked (options : Options) (input : Bytes) : List Question :=
  missing .source options.input ++
    match (answer .source options.input input).1 with
    | .error _ => []
    | .ok _ => missing .target options.output

theorem prompts_single (question : Question) : prompts [question] = question.text := by
  rw [prompts, List.flatMap_singleton]
  cases question <;> rfl

theorem prompts_append (first second : List Question) :
    prompts (first ++ second) = prompts first ++ prompts second := List.flatMap_append

def heard (line : Bytes) : Except Cause Text :=
  match Text.ofUtf8? line with
  | none => .error .notUtf8
  | some t => .ok t

theorem readLine_run {σ : Type} (writer : Writer σ) (terminal : Terminal σ) :
    (Terminal.console writer).readLine terminal =
      (heard (cutLine terminal.input).1, ⟨(cutLine terminal.input).2, terminal.shown⟩) := by
  cases h : Text.ofUtf8? (cutLine terminal.input).1 <;> simp [Terminal.console, heard, h]

section Ask

variable {σ : Type} {console : Console (StateM σ)} {question : Question} {s written flushed read : σ}
  {cause : Cause} {line : Bytes}

theorem ask_unwritten (h : console.write question.text s = (.error cause, written)) :
    console.ask question s = (.error (.prompt cause), written) := by
  rw [Console.ask, bind_run, h]
  rfl

theorem ask_unflushed (hwrite : console.write question.text s = (.ok (), written))
    (hflush : console.flush written = (.error cause, flushed)) :
    console.ask question s = (.error (.prompt cause), flushed) := by
  simp only [Console.ask, bind_run, hwrite, hflush]
  rfl

theorem ask_read (hwrite : console.write question.text s = (.ok (), written))
    (hflush : console.flush written = (.ok (), flushed))
    (hread : console.readLine flushed = (heard line, read)) :
    console.ask question s = (reply question line, read) := by
  simp only [Console.ask, bind_run, hwrite, hflush, hread, heard, reply]
  cases Text.ofUtf8? line with
  | none => rfl
  | some t =>
      dsimp only
      cases t.strip isWhiteSpace <;> rfl

end Ask

theorem ask_run (question : Question) (terminal : Terminal Text) :
    screen.ask question terminal =
      (reply question (cutLine terminal.input).1,
        ⟨(cutLine terminal.input).2, terminal.shown ++ question.text⟩) :=
  ask_read rfl rfl (readLine_run _ ⟨terminal.input, terminal.shown ++ question.text⟩)

theorem given_run (question : Question) (given : Option Text) (terminal : Terminal Text) :
    screen.given question given terminal =
      ((answer question given terminal.input).1,
        ⟨(answer question given terminal.input).2,
          terminal.shown ++ prompts (missing question given)⟩) := by
  cases given with
  | some t =>
      rw [missing, prompts, List.flatMap_nil, List.append_nil]
      rfl
  | none =>
      rw [missing, prompts_single]
      exact ask_run question terminal

theorem resolve_run (options : Options) (terminal : Terminal Text) :
    let run := screen.resolve options terminal
    run.1 = resolution options terminal.input ∧
      run.2.shown = terminal.shown ++ prompts (asked options terminal.input) := by
  simp only [Console.resolve, bind_run, given_run, resolution, asked]
  -- only a source that was found leads on to the second question
  cases (answer .source options.input terminal.input).1 with
  | error failure => exact ⟨rfl, by rw [List.append_nil]; rfl⟩
  | ok source =>
      dsimp only
      rw [bind_run, given_run]
      dsimp only
      rw [prompts_append, ← List.append_assoc]
      cases (answer .target options.output
        (answer .source options.input terminal.input).2).1 <;> exact ⟨rfl, rfl⟩

theorem asked_of_resolved {options : Options} {input : Bytes} {paths : Path × Path}
    (h : resolution options input = .ok paths) : asked options input = allMissing options := by
  rw [asked, allMissing]
  cases hsource : (answer .source options.input input).1 with
  | ok source => rfl
  | error failure =>
      have herror : resolution options input = .error failure := by
        rw [resolution, hsource]
        rfl
      cases herror.symm.trans h

end Datapack.Proofs.Prompts
