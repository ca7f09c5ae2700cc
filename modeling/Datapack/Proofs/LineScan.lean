import Datapack.Pack.Render
import Datapack.Proofs.LineEnds

namespace Datapack.Proofs.LineScan

open LineEnds

structure Scanned where
  line : Text
  ending : Text
  deriving DecidableEq, Repr

/-- One pass from left to right that has already read the front of a line. A
carriage return takes a line feed right behind it along. -/
def scanFrom (front : Text) : Text → List Scanned
  | [] => if front = [] then [] else [⟨front, []⟩]
  | '\r' :: '\n' :: t => ⟨front, ['\r', '\n']⟩ :: scanFrom [] t
  | c :: t => if isLineBreak c then ⟨front, [c]⟩ :: scanFrom [] t else scanFrom (front ++ [c]) t

def scan (t : Text) : List Scanned := scanFrom [] t

def textOf (scanned : List Scanned) : Text :=
  scanned.flatMap (fun entry => entry.line ++ entry.ending)

def reend (ending : Text) : Text → Text
  | [] => []
  | '\r' :: '\n' :: t => ending ++ reend ending t
  | c :: t => (if isLineBreak c then ending else [c]) ++ reend ending t

/-- Lines without breaks in them. All but the last are ended, and no ending grows
together with what follows it. -/
inductive Separated : List Scanned → Prop
  | nil : Separated []
  | last {line} (hline : IsBreakFree line) (hne : line ≠ []) : Separated [⟨line, []⟩]
  | cons {line ending later} (hline : IsBreakFree line) (hending : ending ∈ endings)
      (hnext : ending = ['\r'] → (textOf later).head? ≠ some '\n') (h : Separated later) :
      Separated (⟨line, ending⟩ :: later)

variable {front line t t' ending : Text} {scanned : List Scanned}

theorem textOf_cons (entry : Scanned) (scanned : List Scanned) :
    textOf (entry :: scanned) = entry.line ++ entry.ending ++ textOf scanned := rfl

theorem isBreakFree_nil : IsBreakFree [] := by simp [IsBreakFree]

theorem lines_of_isBreakFree (hline : IsBreakFree line) (hne : line ≠ []) : line.lines = [line] := by
  have hpieces : pieces line = [line] := by
    have happend := pieces_append (t := []) hline
    have hnil : pieces [] = [[]] := rfl
    simpa [hnil] using happend
  have hlast := List.getLast?_eq_some_getLast hne
  have hfree : isLineBreak (line.getLast hne) = false := hline _ (List.getLast_mem hne)
  simp only [Text.lines, hlast, hfree, Bool.false_eq_true, if_false]
  exact hpieces

theorem lines_textOf (h : Separated scanned) :
    (textOf scanned).lines = scanned.map Scanned.line := by
  induction h with
  | nil => rfl
  | last hline hne =>
      rw [textOf_cons]
      simpa [textOf] using lines_of_isBreakFree hline hne
  | cons hline hending hnext _ ih =>
      rw [textOf_cons, lines_append hline hending hnext, ih]
      rfl

theorem textOf_scanFrom (front t : Text) : textOf (scanFrom front t) = front ++ t := by
  fun_induction scanFrom front t with
  | case1 => rfl
  | case2 front hne => simp [textOf]
  | case3 front t ih => simp [textOf_cons, ih]
  | case4 front c t hpair hc ih => simp [textOf_cons, ih]
  | case5 front c t hpair hc ih => simp [ih]

theorem separated_scanFrom (hfront : IsBreakFree front) (t : Text) :
    Separated (scanFrom front t) := by
  fun_induction scanFrom front t with
  | case1 => exact .nil
  | case2 front hne => exact .last hfront hne
  | case3 front t ih =>
      exact .cons hfront (by decide) (fun h => absurd h (by decide)) (ih isBreakFree_nil)
  | case4 front c t hpair hc ih =>
      have hending : [c] ∈ endings := by
        simp only [isLineBreak, Bool.or_eq_true, decide_eq_true_eq] at hc
        rcases hc with rfl | rfl <;> decide
      refine .cons hfront hending (fun hcr hhead => ?_) (ih isBreakFree_nil)
      -- a line feed here would have been taken along
      rw [textOf_scanFrom, List.nil_append] at hhead
      obtain ⟨t', rfl⟩ := List.head?_eq_some_iff.1 hhead
      exact hpair t' (List.singleton_inj.1 hcr) rfl
  | case5 front c t hpair hc ih =>
      refine ih fun d hd => ?_
      rcases List.mem_append.1 hd with hd | hd
      · exact hfront d hd
      · rw [List.mem_singleton.1 hd]
        exact Bool.eq_false_iff.2 hc

theorem textOf_scan (t : Text) : textOf (scan t) = t := textOf_scanFrom [] t

theorem separated_scan (t : Text) : Separated (scan t) := separated_scanFrom isBreakFree_nil t

theorem lines_eq_scan (t : Text) : t.lines = (scan t).map Scanned.line := by
  rw [← lines_textOf (separated_scan t), textOf_scan]

def Scanned.reended (ending : Text) (entry : Scanned) : Scanned :=
  ⟨entry.line, if entry.ending = [] then [] else ending⟩

theorem textOf_reended (ending front t : Text) :
    textOf ((scanFrom front t).map (Scanned.reended ending)) = front ++ reend ending t := by
  fun_induction scanFrom front t with
  | case1 => rfl
  | case2 front hne => simp [textOf, Scanned.reended, reend]
  | case3 front t ih => simp [textOf_cons, Scanned.reended, reend, ih]
  | case4 front c t hpair hc ih =>
      rw [reend.eq_3 ending c t hpair, if_pos hc]
      simp [textOf_cons, Scanned.reended, ih]
  | case5 front c t hpair hc ih =>
      rw [reend.eq_3 ending c t hpair, if_neg hc]
      simp [ih]

theorem head?_of_isBreakFree (hline : IsBreakFree line) (ht : t.head? ≠ some '\n') :
    (line ++ t).head? ≠ some '\n' := by
  cases line with
  | nil => exact ht
  | cons c line =>
      have hc : isLineBreak c = false := hline c (by simp)
      intro hhead
      obtain rfl : c = '\n' := by simpa using hhead
      exact absurd hc (by decide)

theorem head?_reended (h : Separated scanned) :
    (textOf (scanned.map (Scanned.reended ['\r']))).head? ≠ some '\n' := by
  cases h with
  | nil => simp [textOf]
  | last hline hne =>
      have hhead := head?_of_isBreakFree (t := []) hline (by simp)
      simpa [textOf, Scanned.reended] using hhead
  | @cons line ending later hline hending _ _ =>
      have hne : ending ≠ [] := by
        rintro rfl
        exact absurd hending (by decide)
      rw [List.map_cons, textOf_cons, Scanned.reended, if_neg hne, List.append_assoc]
      exact head?_of_isBreakFree hline (by simp)

theorem separated_reended (hending : ending ∈ endings) (h : Separated scanned) :
    Separated (scanned.map (Scanned.reended ending)) := by
  induction h with
  | nil => exact .nil
  | last hline hne => exact .last hline hne
  | @cons line old later hline hold _ hlater ih =>
      have hne : old ≠ [] := by
        rintro rfl
        exact absurd hold (by decide)
      rw [List.map_cons, Scanned.reended, if_neg hne]
      refine .cons hline hending ?_ ih
      rintro rfl
      exact head?_reended hlater

theorem lines_reend (hending : ending ∈ endings) (t : Text) : (reend ending t).lines = t.lines := by
  have h := lines_textOf (separated_reended hending (separated_scan t))
  rw [scan, textOf_reended, List.nil_append, List.map_map] at h
  exact h.trans (lines_eq_scan t).symm

theorem source_lines_congr (h : t.lines = t'.lines) : Source.lines t = Source.lines t' := by
  rw [Source.lines, Source.lines, h]

/-- The lines of a text are those that one pass from left to right meets. With the
endings between them they are the whole text, they are counted from one, and how
they are ended makes no difference to them or to the pack. -/
theorem lines_scanned (t : Text) :
    t.lines = (scan t).map Scanned.line ∧
    Separated (scan t) ∧
    textOf (scan t) = t ∧
    (∀ line ∈ t.lines, IsBreakFree line) ∧
    (Source.lines t).map Line.raw = t.lines ∧
    (Source.lines t).map Line.number = List.range' 1 t.lines.length ∧
    ∀ ending ∈ endings,
      Source.lines (reend ending t) = Source.lines t ∧
      Pack.ofLines (Source.lines (reend ending t)) = Pack.ofLines (Source.lines t) := by
  refine ⟨lines_eq_scan t, separated_scan t, textOf_scan t,
    fun line h => isBreakFree_of_mem_lines h, map_raw_lines t, ?_, fun ending hending => ?_⟩
  · simp [Source.lines, Line.ofNumbered, Function.comp_def]
  · have hlines := source_lines_congr (lines_reend hending t)
    exact ⟨hlines, by rw [hlines]⟩

end Datapack.Proofs.LineScan
