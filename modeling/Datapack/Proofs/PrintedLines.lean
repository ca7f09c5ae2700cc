import Datapack.Proofs.Feeding
import Datapack.Proofs.Printing
import Datapack.Proofs.SectionBounds
import Datapack.Proofs.Spacing

namespace Datapack.Proofs.PrintedLines

open Runs Grammar RuleForms LineEnds Margins Feeding Printing SectionBounds Spacing Statement

variable {s : Statement} {t line word gap rest : Text}

theorem ofText_command (hword : IsName word) (hgap : IsBlanks gap) (hne : gap ≠ [])
    (hrest : IsBreakFree rest) (hstart : StopsAt isBlank rest)
    (hkey : ∀ rule ∈ keywordRules, rule (word ++ ' ' :: rest) = none) :
    ofText (word ++ gap ++ rest) = .command word rest := by
  refine ofText_of_written (.command ⟨gap, hword, hgap, hne, hrest.newline_not_mem, hstart, rfl⟩ ?_)
  intro s h
  have hspace : Keyword s (word ++ [' '] ++ rest) :=
    keyword_regap hword hgap hne (by simp [IsBlanks, isBlank]) (by simp) hstart h
  obtain ⟨rule, hrule, hs⟩ := rule_of_keyword hspace
  have hnone : rule (word ++ [' '] ++ rest) = none := by
    rw [List.append_assoc]
    exact hkey rule hrule
  rw [hnone] at hs
  cases hs

/-- The text of a statement reads as this statement, except for the value of a
declaration. -/
theorem alike_of_laid (hs : Printable s) (h : Laid s t) : Alike (ofText (Line.trim t)) s := by
  cases h with
  | header gap blanks parameters blanks' type hgap hne hblanks hparameters hblanks' htype =>
      cases hs with
      | header hname =>
          rw [trim_of_stopsAt, ofText_of_keyword (.header ⟨gap, blanks, parameters, blanks', type,
            hgap.isBlanks, hne, hname, hblanks.isBlanks, hparameters.newline_not_mem,
            hblanks'.isBlanks, htype, rfl⟩)]
          · exact .refl _
          · exact stopsAt_cons.2 rfl
          · exact stopsAt_reverse_concat (by decide)
  | @declare name value gap blanks blanks' hgap hne hblanks hblanks' =>
      cases hs with
      | declare hname hvalue =>
          have hsign : "var".toList ++ gap ++ name ++ blanks ++ ['='] ++ blanks' ++ value =
              "var".toList ++ gap ++ name ++ blanks ++ '=' :: (blanks' ++ value) := by simp
          have hrest : '\n' ∉ (blanks' ++ value).rdropWhile isMargin := by
            intro hm
            have hfree := isBreakFree_append.2 ⟨hblanks'.isBreakFree, hvalue⟩
            exact hfree.newline_not_mem ((List.rdropWhile_prefix _ _).subset hm)
          rw [hsign, trim_of_start,
            ofText_declaration hgap.isBlanks hne hname hblanks.isBlanks hrest]
          · exact alike_declare _ _ _
          · exact stopsAt_cons.2 rfl
          · decide
  | @say message gap blanks hgap hne hblanks =>
      cases hs with
      | say hmessage =>
          have hquote : "say".toList ++ gap ++ ['"'] ++ message ++ ['"'] ++ blanks =
              "say".toList ++ gap ++ ['"'] ++ message ++ '"' :: blanks := by simp
          have hend : IsBlanks (blanks.rdropWhile isMargin) :=
            fun c hc => hblanks.isBlanks c ((List.rdropWhile_prefix _ _).subset hc)
          rw [hquote, trim_of_start, ofText_of_keyword (.say ⟨gap, blanks.rdropWhile isMargin,
            hgap.isBlanks, hne, hmessage.newline_not_mem, hend, by simp⟩)]
          · exact .refl _
          · exact stopsAt_cons.2 rfl
          · decide
  | execute blanks blanks' hblanks hblanks' =>
      cases hs with
      | execute hconditions haction hfixed hfixed' hbare =>
          rw [trim_of_stopsAt, ofText_execute hblanks.isBlanks hblanks'.isBlanks hconditions
            haction hbare, hfixed, hfixed']
          · exact .refl _
          · exact stopsAt_cons.2 rfl
          · rw [List.reverse_append]
            exact stopsAt_cons.2 rfl
  | command gap hgap hne =>
      cases hs with
      | command hword hrest hne' hstart hend hkey =>
          rw [trim_of_stopsAt, ofText_command hword hgap.isBlanks hne hrest hstart hkey]
          · exact .refl _
          · rw [List.append_assoc]
            exact stopsAt_append_of_ne_nil
              (fun c hc => isMargin_eq_false_of_isNameChar (hword.1 c hc)) hword.2
          · rw [List.reverse_append]
            exact stopsAt_append_left hend (by simpa using hne') _
  | close => exact .refl _

theorem alike_of_printedLine (hs : Printable s) (h : PrintedLine s line) :
    Alike (ofText (Line.trim line)) s := by
  cases h with
  | pad front back hfront ht hback =>
      rw [trim_pad hfront hback]
      exact alike_of_laid hs ht

end Datapack.Proofs.PrintedLines
