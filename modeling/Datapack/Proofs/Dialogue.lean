import Datapack.Proofs.Margins
import Datapack.Proofs.Prompts

namespace Datapack.Proofs.Dialogue

open Terminal Emission Prompts Margins Runs

inductive Call
  | write (t : Text)
  | flush
  | read

variable {σ : Type}

def logged (writer : Writer σ) : Console (StateM (Terminal σ × List Call)) where
  write t := fun (terminal, calls) =>
    let (answer, terminal) := (Terminal.console writer).write t terminal
    (answer, terminal, calls ++ [.write t])
  flush := fun (terminal, calls) =>
    let (answer, terminal) := (Terminal.console writer).flush terminal
    (answer, terminal, calls ++ [.flush])
  readLine := fun (terminal, calls) =>
    let (answer, terminal) := (Terminal.console writer).readLine terminal
    (answer, terminal, calls ++ [.read])

inductive FirstLine : Bytes → Bytes → Bytes → Prop
  | ended (line rest : Bytes) (h : 10 ∉ line) : FirstLine (line ++ 10 :: rest) (line ++ [10]) rest
  | last (line : Bytes) (h : 10 ∉ line) : FirstLine line line []

structure Stripped (t answer : Text) : Prop where
  parts : ∃ front back, t = front ++ answer ++ back ∧
    (∀ c ∈ front, isWhiteSpace c = true) ∧ ∀ c ∈ back, isWhiteSpace c = true
  start : StopsAt isWhiteSpace answer
  stop : StopsAt isWhiteSpace answer.reverse

inductive Replies (question : Question) : Bytes → Except Failure Path → Prop
  | unreadable (line : Bytes) (h : ∀ t : Text, line ≠ t.toUtf8) :
      Replies question line (.error (.prompt .notUtf8))
  | blank (t : Text) (h : ∀ c ∈ t, isWhiteSpace c = true) :
      Replies question t.toUtf8 (.error (.noAnswer question))
  | answered (t answer : Text) (h : Stripped t answer) (hne : answer ≠ []) :
      Replies question t.toUtf8 (.ok ⟨answer⟩)

inductive Shows (writer : Writer σ) (t : Text) : σ → Except Cause Unit → σ → List Call → Prop
  | unwritten {s s' cause} (h : writer.write t s = (.error cause, s')) :
      Shows writer t s (.error cause) s' [.write t]
  | flushed {s written s' answer} (hwrite : writer.write t s = (.ok (), written))
      (hflush : writer.flush written = (answer, s')) :
      Shows writer t s answer s' [.write t, .flush]

/-- A question that cannot be shown leaves the input alone. Any other takes one
line of it. -/
inductive Asks (writer : Writer σ) (question : Question) :
    Terminal σ → Except Failure Path → Terminal σ → List Call → Prop
  | unshown {input s s' cause calls} (h : Shows writer question.text s (.error cause) s' calls) :
      Asks writer question ⟨input, s⟩ (.error (.prompt cause)) ⟨input, s'⟩ calls
  | shown {input line rest s s' answer calls} (h : Shows writer question.text s (.ok ()) s' calls)
      (hline : FirstLine input line rest) (hreply : Replies question line answer) :
      Asks writer question ⟨input, s⟩ answer ⟨rest, s'⟩ (calls ++ [.read])

inductive Obtains (writer : Writer σ) (question : Question) :
    Option Text → Terminal σ → Except Failure Path → Terminal σ → List Call → Prop
  | given (t : Text) (terminal : Terminal σ) :
      Obtains writer question (some t) terminal (.ok ⟨t⟩) terminal []
  | asked {terminal answer after calls} (h : Asks writer question terminal answer after calls) :
      Obtains writer question none terminal answer after calls

inductive Resolves (writer : Writer σ) (options : Options) :
    Terminal σ → Except Failure (Path × Path) → Terminal σ → List Call → Prop
  | noSource {terminal failure after calls}
      (h : Obtains writer .source options.input terminal (.error failure) after calls) :
      Resolves writer options terminal (.error failure) after calls
  | noTarget {terminal source between failure after calls calls'}
      (h : Obtains writer .source options.input terminal (.ok source) between calls)
      (h' : Obtains writer .target options.output between (.error failure) after calls') :
      Resolves writer options terminal (.error failure) after (calls ++ calls')
  | resolved {terminal source between target after calls calls'}
      (h : Obtains writer .source options.input terminal (.ok source) between calls)
      (h' : Obtains writer .target options.output between (.ok target) after calls') :
      Resolves writer options terminal (.ok (source, target)) after (calls ++ calls')

variable {writer : Writer σ} {question : Question} {given : Option Text} {options : Options}
  {terminal after : Terminal σ} {input line rest : Bytes} {t : Text} {s s' : σ}
  {answer : Except Failure Path} {calls : List Call}

theorem FirstLine.cut (h : FirstLine input line rest) : cutLine input = (line, rest) := by
  cases h with
  | ended front rest h =>
      induction front with
      | nil => rfl
      | cons b front ih =>
          simp only [List.mem_cons, not_or] at h
          rw [List.cons_append, cutLine, if_neg (Ne.symm h.1), ih h.2]
          rfl
  | last _ h =>
      induction input with
      | nil => rfl
      | cons b input ih =>
          simp only [List.mem_cons, not_or] at h
          rw [cutLine, if_neg (Ne.symm h.1), ih h.2]

theorem stripped_iff {answer : Text} :
    Stripped t answer ↔ t.strip isWhiteSpace = answer := by
  rw [strip_eq_iff]
  exact ⟨fun h => ⟨h.parts, h.start, h.stop⟩, fun ⟨hparts, hstart, hstop⟩ => ⟨hparts, hstart, hstop⟩⟩

theorem strip_eq_nil_iff : t.strip isWhiteSpace = [] ↔ ∀ c ∈ t, isWhiteSpace c = true := by
  rw [strip_eq_iff]
  constructor
  · rintro ⟨⟨front, back, rfl, hfront, hback⟩, -, -⟩ c hc
    rw [List.append_nil] at hc
    exact (List.mem_append.1 hc).elim (hfront c) (hback c)
  · exact fun h => ⟨⟨t, [], by simp, h, by simp⟩, stopsAt_nil, stopsAt_nil⟩

theorem replies_iff : Replies question line answer ↔ reply question line = answer := by
  constructor
  · intro h
    cases h with
    | unreadable _ h =>
        have hnone : Text.ofUtf8? line = none :=
          Option.eq_none_iff_forall_ne_some.2 fun t ht => h t (Text.ofUtf8?_eq_some_iff.1 ht)
        rw [reply, hnone]
    | blank t h => simp only [reply, Text.ofUtf8?_eq_some_iff.2 rfl, strip_eq_nil_iff.2 h]
    | answered t answer h hne =>
        simp only [reply, Text.ofUtf8?_eq_some_iff.2 rfl, stripped_iff.1 h]
  · rintro rfl
    cases ht : Text.ofUtf8? line with
    | none =>
        simp only [reply, ht]
        refine .unreadable line fun t hline => ?_
        cases ht.symm.trans (Text.ofUtf8?_eq_some_iff.2 hline)
    | some t =>
        simp only [reply, ht]
        obtain rfl := Text.ofUtf8?_eq_some_iff.1 ht
        cases hanswer : t.strip isWhiteSpace with
        | nil => exact .blank t (strip_eq_nil_iff.1 hanswer)
        | cons c answer => exact .answered t (c :: answer) (stripped_iff.2 hanswer) (by simp)

/-- A console on a state that holds a terminal and may hold the calls. -/
structure Acts {τ : Type} (writer : Writer σ) (console : Console (StateM τ))
    (state : Terminal σ → List Call → τ) : Prop where
  write : ∀ t input s log, console.write t (state ⟨input, s⟩ log) =
    ((writer.write t s).1, state ⟨input, (writer.write t s).2⟩ (log ++ [.write t]))
  flush : ∀ input s log, console.flush (state ⟨input, s⟩ log) =
    ((writer.flush s).1, state ⟨input, (writer.flush s).2⟩ (log ++ [.flush]))
  readLine : ∀ input s log, console.readLine (state ⟨input, s⟩ log) =
    (heard (cutLine input).1, state ⟨(cutLine input).2, s⟩ (log ++ [.read]))

section Runs

variable {τ : Type} {console : Console (StateM τ)} {state : Terminal σ → List Call → τ}
  {result : Except Failure (Path × Path)}

theorem Asks.run (h : Asks writer question terminal answer after calls)
    (hacts : Acts writer console state) (log : List Call) :
    console.ask question (state terminal log) = (answer, state after (log ++ calls)) := by
  have hwrite := hacts.write question.text
  cases h with
  | unshown h =>
      cases h with
      | unwritten h => exact ask_unwritten (by rw [hwrite, h])
      | flushed hwritten hflush =>
          rw [List.append_cons]
          exact ask_unflushed (by rw [hwrite, hwritten]) (by rw [hacts.flush, hflush])
  | shown h hline hreply =>
      cases h with
      | flushed hwritten hflush =>
          rw [← replies_iff.1 hreply]
          refine (ask_read (by rw [hwrite, hwritten]) (by rw [hacts.flush, hflush])
            (by rw [hacts.readLine, hline.cut])).trans ?_
          simp

theorem Obtains.run (h : Obtains writer question given terminal answer after calls)
    (hacts : Acts writer console state) (log : List Call) :
    console.given question given (state terminal log) = (answer, state after (log ++ calls)) := by
  cases h with
  | given t =>
      rw [List.append_nil]
      rfl
  | asked h => exact h.run hacts log

theorem Resolves.run (h : Resolves writer options terminal result after calls)
    (hacts : Acts writer console state) (log : List Call) :
    console.resolve options (state terminal log) = (result, state after (log ++ calls)) := by
  cases h with
  | noSource h =>
      rw [Console.resolve, bind_run, h.run hacts log]
      rfl
  | noTarget h h' =>
      rw [Console.resolve, bind_run, h.run hacts log]
      dsimp only
      rw [bind_run, h'.run hacts, List.append_assoc]
      rfl
  | resolved h h' =>
      rw [Console.resolve, bind_run, h.run hacts log]
      dsimp only
      rw [bind_run, h'.run hacts, List.append_assoc]
      rfl

end Runs

end Datapack.Proofs.Dialogue
