import Datapack.Proofs.Feeding
import Datapack.Proofs.Margins
import Datapack.Proofs.RuleForms
import Mathlib.Logic.Relation

namespace Datapack.Proofs.IgnoredEdits

open Runs Grammar RuleForms LineEnds Margins Feeding Statement

/-- Changes within a line. The value of a declaration and the signature of a
header may become any others. -/
inductive LineEdit : Text → Text → Prop
  | value {front old new name value} (hfront : '=' ∉ front)
      (hline : ofText (Line.trim (front ++ '=' :: old)) = .declare name value)
      (hnew : IsBreakFree new) : LineEdit (front ++ '=' :: old) (front ++ '=' :: new)
  | signature {front old parameters type name} (hfront : '(' ∉ front)
      (hline : ofText (Line.trim (front ++ '(' :: old)) = .header name)
      (hparameters : IsBreakFree parameters) (htype : IsName type) :
      LineEdit (front ++ '(' :: old) (front ++ '(' :: (parameters ++ ['=', '>'] ++ type ++ [')']))
  | pad {line front back} (hfront : IsMargins front) (hback : IsMargins back) :
      LineEdit line (front ++ line ++ back)
  | unpad {line front back} (hfront : IsMargins front) (hback : IsMargins back) :
      LineEdit (front ++ line ++ back) line

/-- A line that does not count after some others: it says nothing, or it stands
outside of all blocks and opens none. -/
inductive Unheard (before : List Text) (line : Text) : Prop
  | unmatched (h : ofText (Line.trim line) = .unmatched)
  | outside (hclosed : (Blocks.start.feedAll (statementsOf before)).isOpen = false)
      (hline : ∀ name, ofText (Line.trim line) ≠ .header name)

inductive LinesEdit : List Text → List Text → Prop
  | change (before after) {line line'} (h : LineEdit line line') :
      LinesEdit (before ++ line :: after) (before ++ line' :: after)
  | insert (before after) {line} (h : Unheard before line) :
      LinesEdit (before ++ after) (before ++ line :: after)
  | delete (before after) {line} (h : Unheard before line) :
      LinesEdit (before ++ line :: after) (before ++ after)

inductive Edit (t t' : Text) : Prop
  | lines (h : LinesEdit t.lines t'.lines)
  | endings (h : t.lines = t'.lines)

variable {c : Char} {front old new name value t t' : Text}

theorem declaration_of_ofText (h : ofText t = .declare name value) : Declaration name value t := by
  cases ofText_eq_iff_written.1 h with
  | keyword h =>
      cases h with
      | declare h => exact h

theorem header_of_ofText (h : ofText t = .header name) : Header name t := by
  cases ofText_eq_iff_written.1 h with
  | keyword h =>
      cases h with
      | header h => exact h

/-- The sign after a keyword, a name and blanks is the first one of its kind. -/
theorem not_mem_stem {keyword gap blanks : Text} (hname : isNameChar c = false)
    (hblank : isBlank c = false) (hk : IsName keyword) (hgap : IsBlanks gap)
    (hn : IsName name) (hblanks : IsBlanks blanks) : c ∉ keyword ++ gap ++ name ++ blanks := by
  simp only [List.mem_append, not_or]
  refine ⟨⟨⟨fun h => ?_, fun h => ?_⟩, fun h => ?_⟩, fun h => ?_⟩
  · cases hname.symm.trans (hk.1 c h)
  · cases hblank.symm.trans (hgap c h)
  · cases hname.symm.trans (hn.1 c h)
  · cases hblank.symm.trans (hblanks c h)

theorem first_unique {x x' r r' : Text} (hx : c ∉ x) (hx' : c ∉ x')
    (h : x ++ c :: r = x' ++ c :: r') : x = x' ∧ r = r' := by
  have hne {x : Text} (hx : c ∉ x) : ∀ d ∈ x, decide (d ≠ c) = true :=
    fun d hd => decide_eq_true (fun he => hx (he ▸ hd))
  obtain ⟨hfront, hrest⟩ := run_unique (hne hx) (hne hx') (stopsAt_cons.2 (by simp))
    (stopsAt_cons.2 (by simp)) h
  exact ⟨hfront, (List.cons.inj hrest).2⟩

theorem not_mem_dropWhile {p : Char → Bool} (h : c ∉ front) : c ∉ front.dropWhile p :=
  fun hm => h ((List.dropWhile_sublist p).subset hm)

theorem ofText_value (hfront : '=' ∉ front)
    (hline : ofText (Line.trim (front ++ '=' :: old)) = .declare name value)
    (hnew : IsBreakFree new) :
    ∃ value', ofText (Line.trim (front ++ '=' :: new)) = .declare name value' := by
  obtain ⟨gap, blanks, blanks', hgap, hne, hname, hblanks, -, -, -, heq⟩ :=
    declaration_of_ofText hline
  have hstem : '=' ∉ "var".toList ++ gap ++ name ++ blanks :=
    not_mem_stem (by decide) (by decide) (by decide) hgap hname hblanks
  rw [trim_append_cons (by decide), show "var".toList ++ gap ++ name ++ blanks ++ ['='] ++
      blanks' ++ value = "var".toList ++ gap ++ name ++ blanks ++ '=' :: (blanks' ++ value) by
    simp] at heq
  obtain ⟨hstart, -⟩ := first_unique (not_mem_dropWhile hfront) hstem heq
  have hrest : '\n' ∉ new.rdropWhile isMargin :=
    fun hm => hnew.newline_not_mem ((List.rdropWhile_prefix isMargin new).subset hm)
  rw [trim_append_cons (by decide), hstart]
  exact ⟨_, ofText_declaration hgap hne hname hblanks hrest⟩

theorem ofText_signature {parameters type : Text} (hfront : '(' ∉ front)
    (hline : ofText (Line.trim (front ++ '(' :: old)) = .header name)
    (hparameters : IsBreakFree parameters) (htype : IsName type) :
    ofText (Line.trim (front ++ '(' :: (parameters ++ ['=', '>'] ++ type ++ [')']))) =
      .header name := by
  obtain ⟨gap, blanks, parameters', blanks', type', hgap, hne, hname, hblanks, -, -, -, heq⟩ :=
    header_of_ofText hline
  have hstem : '(' ∉ "function".toList ++ gap ++ name ++ blanks :=
    not_mem_stem (by decide) (by decide) (by decide) hgap hname hblanks
  rw [trim_append_cons (by decide), show "function".toList ++ gap ++ name ++ blanks ++ ['('] ++
      parameters' ++ ['=', '>'] ++ blanks' ++ type' ++ [')'] = "function".toList ++ gap ++ name ++
        blanks ++ '(' :: (parameters' ++ ['=', '>'] ++ blanks' ++ type' ++ [')']) by simp] at heq
  obtain ⟨hstart, -⟩ := first_unique (not_mem_dropWhile hfront) hstem heq
  refine ofText_of_keyword (.header ⟨gap, blanks, parameters, [], type, hgap, hne, hname, hblanks,
    hparameters.newline_not_mem, by simp [IsBlanks], htype, ?_⟩)
  rw [trim_append_cons (by decide), hstart, List.rdropWhile_concat_neg _ _ _ (by decide)]
  simp

theorem alike_of_lineEdit {line line' : Text} (h : LineEdit line line') :
    Alike (ofText (Line.trim line)) (ofText (Line.trim line')) := by
  cases h with
  | value hfront hline hnew =>
      obtain ⟨value', hvalue'⟩ := ofText_value hfront hline hnew
      rw [hline, hvalue']
      exact alike_declare _ _ _
  | signature hfront hline hparameters htype =>
      rw [hline, ofText_signature hfront hline hparameters htype]
      exact .refl _
  | pad hfront hback =>
      rw [trim_pad hfront hback]
      exact .refl _
  | unpad hfront hback =>
      rw [trim_pad hfront hback]
      exact .refl _

theorem feed_unheard {before : List Text} {line : Text} (h : Unheard before line) :
    (Blocks.start.feedAll (statementsOf before)).feed (ofText (Line.trim line)) =
      Blocks.start.feedAll (statementsOf before) := by
  cases h with
  | unmatched h => rw [h, feed_unmatched]
  | outside hclosed hline => exact feed_closed hclosed hline

theorem feedAll_line (before after : List Text) (line : Text) :
    Blocks.start.feedAll (statementsOf (before ++ line :: after)) =
      ((Blocks.start.feedAll (statementsOf before)).feed (ofText (Line.trim line))).feedAll
        (statementsOf after) := by
  simp [statementsOf, Blocks.feedAll]

theorem feedAll_linesEdit {lines lines' : List Text} (h : LinesEdit lines lines') :
    Blocks.start.feedAll (statementsOf lines) = Blocks.start.feedAll (statementsOf lines') := by
  have hskip (before after : List Text) (line : Text) (h : Unheard before line) :
      Blocks.start.feedAll (statementsOf (before ++ line :: after)) =
        Blocks.start.feedAll (statementsOf (before ++ after)) := by
    rw [feedAll_line, feed_unheard h, statementsOf, statementsOf, statementsOf, List.map_append,
      feedAll_append]
  cases h with
  | change before after h =>
      rw [feedAll_line, feedAll_line, alike_of_lineEdit h]
  | insert before after h => exact (hskip before after _ h).symm
  | delete before after h => exact hskip before after _ h

theorem ofLines_edit (h : Edit t t') :
    FunctionTable.ofLines (Source.lines t) = .ofLines (Source.lines t') := by
  rw [ofLines_source, ofLines_source]
  cases h with
  | lines h => rw [FunctionTable.ofStatements, FunctionTable.ofStatements, feedAll_linesEdit h]
  | endings h => rw [h]

/-- However often a script is edited in what it does not say to the compiler,
the functions and the files of its pack stay as they are. -/
theorem edits_keep_pack (h : Relation.ReflTransGen Edit t t') :
    Pack.ofLines (Source.lines t) = Pack.ofLines (Source.lines t') := by
  induction h with
  | refl => rfl
  | tail _ hedit ih => rw [ih, Pack.ofLines, Pack.ofLines, ofLines_edit hedit]

/-- A value that looks like another statement, a parameter list with an arrow in
it, a line after the end and other line ends. -/
theorem edited_script_keeps_pack :
    let script : Text := "function f(=> void)\nvar x = 1\nend".toList
    let edited : Text := "function f(a) => b=>int)\rvar x =say \"no\"\rend\rvar y = 2".toList
    Relation.ReflTransGen Edit script edited ∧
      Pack.ofLines (Source.lines script) = Pack.ofLines (Source.lines edited) := by
  intro script edited
  let valued : Text := "function f(=> void)\nvar x =say \"no\"\nend".toList
  let signed : Text := "function f(a) => b=>int)\nvar x =say \"no\"\nend".toList
  let longer : Text := "function f(a) => b=>int)\nvar x =say \"no\"\nend\nvar y = 2".toList
  have hdeclared : ofText (Line.trim ("var x ".toList ++ '=' :: " 1".toList)) =
      .declare "x".toList "1".toList := by decide
  have hvalue : LineEdit ("var x ".toList ++ '=' :: " 1".toList)
      ("var x ".toList ++ '=' :: "say \"no\"".toList) :=
    .value (by decide) hdeclared (by decide)
  have hheaded : ofText (Line.trim ("function f".toList ++ '(' :: "=> void)".toList)) =
      .header "f".toList := by decide
  have hsignature : LineEdit ("function f".toList ++ '(' :: "=> void)".toList)
      ("function f".toList ++ '(' :: ("a) => b".toList ++ ['=', '>'] ++ "int".toList ++ [')'])) :=
    .signature (by decide) hheaded (by decide) (by decide)
  have hvalued : Edit script valued := by
    refine .lines ?_
    exact .change ["function f(=> void)".toList] ["end".toList] hvalue
  have hsigned : Edit valued signed := by
    refine .lines ?_
    exact .change [] ["var x =say \"no\"".toList, "end".toList] hsignature
  have hlonger : Edit signed longer := by
    refine .lines ?_
    have hline : Unheard signed.lines "var y = 2".toList :=
      .outside (by decide) fun name hname => by cases hname
    have hinsert := LinesEdit.insert signed.lines [] hline
    rwa [List.append_nil] at hinsert
  have hended : Edit longer edited := .endings (by decide)
  have hchain : Relation.ReflTransGen Edit script edited :=
    .tail (.tail (.tail (.single hvalued) hsigned) hlonger) hended
  exact ⟨hchain, edits_keep_pack hchain⟩

end Datapack.Proofs.IgnoredEdits
