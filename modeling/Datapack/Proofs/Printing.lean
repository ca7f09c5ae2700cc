import Datapack.Proofs.Margins
import Datapack.Proofs.RuleForms

namespace Datapack.Proofs.Printing

open Runs Grammar RuleForms LineEnds Margins Statement

variable {s : Statement} {c : Char} {t l line text : Text} {lines : List Text}

def IsGap (t : Text) : Prop := ∀ c ∈ t, isBlank c = true ∧ isLineBreak c = false

instance (t : Text) : Decidable (IsGap t) :=
  decidable_of_iff (t.all (fun c => isBlank c && !isLineBreak c) = true) (by simp [IsGap])

/-- The statements that a line can show as they are. An action must not hold
another boundary between sections, and a command that one space parts from its
word must not read as a keyword statement. -/
inductive Printable : Statement → Prop
  | header {name} (hname : IsName name) : Printable (.header name)
  | declare {name value} (hname : IsName name) (hvalue : IsBreakFree value) :
      Printable (.declare name value)
  | say {message} (hmessage : IsBreakFree message) : Printable (.say message)
  | execute {conditions action} (hconditions : IsBreakFree conditions)
      (haction : IsBreakFree action) (hfixed : Line.trim conditions = conditions)
      (hfixed' : Line.trim action = action)
      (hbare : ∀ first second, ¬Split first second action) : Printable (.execute conditions action)
  | command {word rest} (hword : IsName word) (hrest : IsBreakFree rest) (hne : rest ≠ [])
      (hstart : StopsAt isBlank rest) (hend : StopsAt isMargin rest.reverse)
      (hkey : ∀ rule ∈ keywordRules, rule (word ++ ' ' :: rest) = none) :
      Printable (.command word rest)
  | close : Printable .close

inductive Laid : Statement → Text → Prop
  | header {name} (gap blanks parameters blanks' type) (hgap : IsGap gap) (hne : gap ≠ [])
      (hblanks : IsGap blanks) (hparameters : IsBreakFree parameters) (hblanks' : IsGap blanks')
      (htype : IsName type) :
      Laid (.header name) ("function".toList ++ gap ++ name ++ blanks ++ ['('] ++ parameters ++
        ['=', '>'] ++ blanks' ++ type ++ [')'])
  | declare {name value} (gap blanks blanks') (hgap : IsGap gap) (hne : gap ≠ [])
      (hblanks : IsGap blanks) (hblanks' : IsGap blanks') :
      Laid (.declare name value)
        ("var".toList ++ gap ++ name ++ blanks ++ ['='] ++ blanks' ++ value)
  | say {message} (gap blanks) (hgap : IsGap gap) (hne : gap ≠ []) (hblanks : IsGap blanks) :
      Laid (.say message) ("say".toList ++ gap ++ ['"'] ++ message ++ ['"'] ++ blanks)
  | execute {conditions action} (blanks blanks') (hblanks : IsGap blanks)
      (hblanks' : IsGap blanks') :
      Laid (.execute conditions action) ("execute".toList ++ blanks ++ ['(', '=', '>', '{'] ++
        (conditions ++ ['}', ','] ++ blanks' ++ ['{'] ++ action) ++ ['}', ')'])
  | command {word rest} (gap) (hgap : IsGap gap) (hne : gap ≠ []) :
      Laid (.command word rest) (word ++ gap ++ rest)
  | close : Laid .close "end".toList

inductive PrintedLine (s : Statement) : Text → Prop
  | pad (front back) {t} (hfront : IsMargins front) (ht : Laid s t) (hback : IsMargins back) :
      PrintedLine s (front ++ t ++ back)

inductive Ended : List Text → Text → Prop
  | nil : Ended [] []
  | cons {line ending lines rest} (hending : ending ∈ endings) (h : Ended lines rest) :
      Ended (line :: lines) (line ++ ending ++ rest)

theorem isBreakFree_append : IsBreakFree (t ++ l) ↔ IsBreakFree t ∧ IsBreakFree l := by
  simp only [IsBreakFree, List.mem_append]
  exact ⟨fun h => ⟨fun c hc => h c (.inl hc), fun c hc => h c (.inr hc)⟩,
    fun h c hc => hc.elim (h.1 c) (h.2 c)⟩

theorem IsGap.isBlanks (h : IsGap t) : IsBlanks t := fun c hc => (h c hc).1

theorem IsGap.isBreakFree (h : IsGap t) : IsBreakFree t := fun c hc => (h c hc).2

theorem isBreakFree_of_isMargins (h : IsMargins t) : IsBreakFree t := fun c hc => (h c hc).2

theorem isLineBreak_eq_false_of_isNameChar (h : isNameChar c = true) : isLineBreak c = false := by
  cases hbreak : isLineBreak c with
  | false => rfl
  | true =>
      simp only [isLineBreak, Bool.or_eq_true, decide_eq_true_eq] at hbreak
      rcases hbreak with rfl | rfl <;> exact absurd h (by decide)

theorem isBreakFree_of_isName (h : IsName t) : IsBreakFree t :=
  fun c hc => isLineBreak_eq_false_of_isNameChar (h.1 c hc)

theorem isBreakFree_of_laid (hs : Printable s) (h : Laid s t) : IsBreakFree t := by
  have hsigns : ∀ k ∈ ["function".toList, "var".toList, "say".toList, "execute".toList,
      "end".toList, ['('], ['=', '>'], [')'], ['='], ['"'], ['(', '=', '>', '{'], ['}', ','], ['{'],
      ['}', ')']], IsBreakFree k := by
    decide
  simp only [List.forall_mem_cons] at hsigns
  cases h with
  | header gap blanks parameters blanks' type hgap hne hblanks hparameters hblanks' htype =>
      cases hs with
      | header hname =>
          simp only [isBreakFree_append, hsigns, hgap.isBreakFree, isBreakFree_of_isName hname,
            hblanks.isBreakFree, hparameters, hblanks'.isBreakFree, isBreakFree_of_isName htype,
            and_self]
  | declare gap blanks blanks' hgap hne hblanks hblanks' =>
      cases hs with
      | declare hname hvalue =>
          simp only [isBreakFree_append, hsigns, hgap.isBreakFree, isBreakFree_of_isName hname,
            hblanks.isBreakFree, hblanks'.isBreakFree, hvalue, and_self]
  | say gap blanks hgap hne hblanks =>
      cases hs with
      | say hmessage =>
          simp only [isBreakFree_append, hsigns, hgap.isBreakFree, hmessage, hblanks.isBreakFree,
            and_self]
  | execute blanks blanks' hblanks hblanks' =>
      cases hs with
      | execute hconditions haction =>
          simp only [isBreakFree_append, hsigns, hblanks.isBreakFree, hconditions,
            hblanks'.isBreakFree, haction, and_self]
  | command gap hgap hne =>
      cases hs with
      | command hword hrest =>
          simp only [isBreakFree_append, isBreakFree_of_isName hword, hgap.isBreakFree, hrest,
            and_self]
  | close => simp only [hsigns]

theorem isBreakFree_of_printedLine (hs : Printable s) (h : PrintedLine s line) :
    IsBreakFree line := by
  cases h with
  | pad front back hfront ht hback =>
      simp only [isBreakFree_append, isBreakFree_of_isMargins hfront, isBreakFree_of_laid hs ht,
        isBreakFree_of_isMargins hback, and_self]

theorem ne_nil_of_printedLine (h : PrintedLine s line) : line ≠ [] := by
  cases h with
  | @pad front back t hfront ht hback =>
      have hne : t ≠ [] := by
        cases ht with
        | header | declare | say | execute | close => simp
        | command gap hgap hne => simp [hne]
      simp [hne]

theorem exists_printedLine (hs : Printable s) : ∃ line, PrintedLine s line := by
  obtain ⟨t, ht⟩ : ∃ t, Laid s t := by
    cases hs with
    | header =>
        exact ⟨_, .header [' '] [] [] [] "void".toList (by decide) (by decide) (by decide)
          (by decide) (by decide) (by decide)⟩
    | declare => exact ⟨_, .declare [' '] [] [] (by decide) (by decide) (by decide) (by decide)⟩
    | say => exact ⟨_, .say [' '] [] (by decide) (by decide) (by decide)⟩
    | execute => exact ⟨_, .execute [] [] (by decide) (by decide)⟩
    | command => exact ⟨_, .command [' '] (by decide) (by decide)⟩
    | close => exact ⟨_, .close⟩
  exact ⟨_, .pad [] [] (by decide) ht (by decide)⟩

theorem exists_ended (lines : List Text) : ∃ text, Ended lines text := by
  induction lines with
  | nil => exact ⟨[], .nil⟩
  | cons line lines ih =>
      obtain ⟨text, htext⟩ := ih
      have hending : ['\n'] ∈ endings := by decide
      exact ⟨_, .cons hending htext⟩

/-- A carriage return and a line feed that end different lines do not meet, for
no line is empty. -/
theorem lines_ended (h : Ended lines text) (hfree : ∀ l ∈ lines, IsBreakFree l ∧ l ≠ []) :
    text.lines = lines := by
  induction h with
  | nil => rfl
  | @cons line ending lines rest hending h ih =>
      obtain ⟨⟨hline, -⟩, hlines⟩ := List.forall_mem_cons.1 hfree
      have hnext : rest.head? ≠ some '\n' := by
        cases h with
        | nil => simp
        | @cons line' _ _ rest' _ _ =>
            obtain ⟨hfree', hne'⟩ := hlines line' (by simp)
            cases line' with
            | nil => exact absurd rfl hne'
            | cons c line' =>
                have hc : isLineBreak c = false := hfree' c (by simp)
                intro hhead
                obtain rfl : c = '\n' := by simpa using hhead
                exact absurd hc (by decide)
      rw [lines_append hline hending (fun _ => hnext), ih hlines]

end Datapack.Proofs.Printing
