import Datapack.Proofs.Margins
import Datapack.Proofs.RuleForms

namespace Datapack.Proofs.Spacing

open Runs Grammar RuleForms Margins Statement

variable {s : Statement} {t word gap gap' rest : Text}

/-- One space in place of the blanks that follow the first word. -/
def respaced (t : Text) : Text :=
  match t.run? (fun c => !isBlank c) with
  | some (word, t) => word ++ ' ' :: t.dropWhile isBlank
  | none => t

/-- A first word, the gap after it and what the gap ends before are found in one
way only. -/
theorem word_gap_unique (word' rest' : Text) (hword : IsName word) (hword' : IsName word')
    (hgap : IsBlanks gap) (hne : gap ≠ []) (hgap' : IsBlanks gap')
    (hnext : StopsAt isNameChar (gap' ++ rest')) (hrest : StopsAt isBlank rest)
    (hrest' : StopsAt isBlank rest') (h : word ++ gap ++ rest = word' ++ gap' ++ rest') :
    word = word' ∧ gap = gap' ∧ rest = rest' := by
  simp only [List.append_assoc] at h
  obtain ⟨rfl, htail⟩ := run_unique hword.1 hword'.1
    (stopsAt_append_of_ne_nil hgap.not_name hne) hnext h
  exact ⟨rfl, run_unique hgap hgap' hrest hrest' htail⟩

theorem sections_regap {conditions action : Text} (hword : IsName word) (hgap : IsBlanks gap)
    (hne : gap ≠ []) (hgap' : IsBlanks gap') (hrest : StopsAt isBlank rest)
    (h : Sections conditions action (word ++ gap ++ rest)) :
    Sections conditions action (word ++ gap' ++ rest) := by
  obtain ⟨blanks, inner, hblanks, hsplit, heq⟩ := h
  let tail := ['(', '=', '>', '{'] ++ inner ++ ['}', ')']
  obtain ⟨rfl, -, rfl⟩ := word_gap_unique "execute".toList tail hword (by decide) hgap hne
    hblanks (stopsAt_append hblanks.not_name (stopsAt_cons.2 rfl)) hrest (stopsAt_cons.2 rfl)
    (heq.trans (by simp [tail]))
  exact ⟨gap', inner, hgap', hsplit, by simp [tail]⟩

theorem keyword_regap (hword : IsName word) (hgap : IsBlanks gap) (hne : gap ≠ [])
    (hgap' : IsBlanks gap') (hne' : gap' ≠ []) (hrest : StopsAt isBlank rest)
    (h : Keyword s (word ++ gap ++ rest)) : Keyword s (word ++ gap' ++ rest) := by
  cases h with
  | @header name _ h =>
      obtain ⟨gap₀, blanks, parameters, blanks', type, hgap₀, hne₀, hname, hblanks, hparameters,
        hblanks', htype, heq⟩ := h
      let tail := name ++ (blanks ++ ['('] ++ parameters ++ ['=', '>'] ++ blanks' ++ type ++ [')'])
      obtain ⟨rfl, -, rfl⟩ := word_gap_unique "function".toList tail hword (by decide) hgap hne
        hgap₀ (stopsAt_append_of_ne_nil hgap₀.not_name hne₀) hrest (hname.stops_blanks _)
        (heq.trans (by simp [tail]))
      exact .header ⟨gap', blanks, parameters, blanks', type, hgap', hne', hname, hblanks,
        hparameters, hblanks', htype, by simp [tail]⟩
  | @declare name value _ h =>
      obtain ⟨gap₀, blanks, blanks', hgap₀, hne₀, hname, hblanks, hblanks', hvalue, hstop, heq⟩ := h
      let tail := name ++ (blanks ++ ['='] ++ blanks' ++ value)
      obtain ⟨rfl, -, rfl⟩ := word_gap_unique "var".toList tail hword (by decide) hgap hne hgap₀
        (stopsAt_append_of_ne_nil hgap₀.not_name hne₀) hrest (hname.stops_blanks _)
        (heq.trans (by simp [tail]))
      exact .declare ⟨gap', blanks, blanks', hgap', hne', hname, hblanks, hblanks', hvalue, hstop,
        by simp [tail]⟩
  | @say message _ h =>
      obtain ⟨gap₀, blanks, hgap₀, hne₀, hmessage, hblanks, heq⟩ := h
      let tail := ['"'] ++ message ++ ['"'] ++ blanks
      obtain ⟨rfl, -, rfl⟩ := word_gap_unique "say".toList tail hword (by decide) hgap hne hgap₀
        (stopsAt_append_of_ne_nil hgap₀.not_name hne₀) hrest (stopsAt_cons.2 rfl)
        (heq.trans (by simp [tail]))
      exact .say ⟨gap', blanks, hgap', hne', hmessage, hblanks, by simp [tail]⟩
  | execute h =>
      -- sections go over in both directions, so the longest stay the longest
      refine .execute ⟨sections_regap hword hgap hne hgap' hrest h.1, fun _ _ h' => ?_⟩
      exact h.2 _ _ (sections_regap hword hgap' hne' hgap hrest h')

theorem generic_regap {word' rest' : Text} (hword : IsName word) (hgap : IsBlanks gap)
    (hne : gap ≠ []) (hgap' : IsBlanks gap') (hne' : gap' ≠ []) (hrest : StopsAt isBlank rest)
    (h : Generic word' rest' (word ++ gap ++ rest)) :
    Generic word' rest' (word ++ gap' ++ rest) := by
  obtain ⟨gap₀, hword', hgap₀, hne₀, hfeed, hstop, heq⟩ := h
  obtain ⟨rfl, -, rfl⟩ := word_gap_unique word' rest' hword hword' hgap hne hgap₀
    (stopsAt_append_of_ne_nil hgap₀.not_name hne₀) hrest hstop heq
  exact ⟨gap', hword, hgap', hne', hfeed, hrest, rfl⟩

theorem ne_end (hgap : IsBlanks gap) (hne : gap ≠ []) : word ++ gap ++ rest ≠ "end".toList := by
  intro heq
  obtain ⟨c, gap, rfl⟩ := List.exists_cons_of_ne_nil hne
  have hc : isBlank c = true := hgap c (by simp)
  have hmem : c ∈ "end".toList := heq ▸ by simp
  have hname : IsName "end".toList := by decide
  rw [hname.not_blank c hmem] at hc
  cases hc

theorem written_regap (hword : IsName word) (hgap : IsBlanks gap) (hne : gap ≠ [])
    (hgap' : IsBlanks gap') (hne' : gap' ≠ []) (hrest : StopsAt isBlank rest)
    (h : Written s (word ++ gap ++ rest)) : Written s (word ++ gap' ++ rest) := by
  generalize ht : word ++ gap ++ rest = t at h
  cases h with
  | keyword h =>
      subst ht
      exact .keyword (keyword_regap hword hgap hne hgap' hne' hrest h)
  | command h hkey =>
      subst ht
      refine .command (generic_regap hword hgap hne hgap' hne' hrest h) fun s' h' => ?_
      exact hkey s' (keyword_regap hword hgap' hne' hgap hne hrest h')
  | close => exact absurd ht (ne_end hgap hne)
  | unmatched hkey hgen hclose =>
      subst ht
      refine .unmatched (fun s' h' => ?_) (fun word' rest' h' => ?_) (ne_end hgap' hne')
      · exact hkey s' (keyword_regap hword hgap' hne' hgap hne hrest h')
      · exact hgen word' rest' (generic_regap hword hgap' hne' hgap hne hrest h')

theorem ofText_regap (hword : IsName word) (hgap : IsBlanks gap) (hne : gap ≠ [])
    (hgap' : IsBlanks gap') (hne' : gap' ≠ []) (hrest : StopsAt isBlank rest) :
    ofText (word ++ gap ++ rest) = ofText (word ++ gap' ++ rest) := by
  symm
  apply ofText_of_written
  exact written_regap hword hgap hne hgap' hne' hrest (written_ofText _)

theorem generic_of_ofText (h : ofText t = .command word rest) : Generic word rest t := by
  cases ofText_eq_iff_written.1 h with
  | keyword h => cases h
  | command h _ => exact h

theorem respaced_of_generic (h : Generic word rest t) : respaced t = word ++ ' ' :: rest := by
  obtain ⟨gap, hword, hgap, hne, -, hstop, rfl⟩ := h
  have hchars : ∀ c ∈ word, (!isBlank c) = true := by
    intro c hc
    rw [hword.not_blank c hc]
    rfl
  have hafter : StopsAt (fun c => !isBlank c) (gap ++ rest) := by
    apply stopsAt_append_of_ne_nil _ hne
    intro c hc
    rw [hgap c hc]
    rfl
  have hrun : (word ++ gap ++ rest).run? (fun c => !isBlank c) = some (word, gap ++ rest) :=
    run?_eq_some_iff.2 ⟨List.append_assoc word gap rest, hword.2, hchars, hafter⟩
  have hrest : (gap ++ rest).dropWhile isBlank = rest :=
    dropWhile_eq_iff.2 ⟨gap, rfl, hgap, hstop⟩
  simp only [respaced, hrun, hrest]

theorem rest_ne_nil (ht : StopsAt isMargin t.reverse) (h : Generic word rest t) : rest ≠ [] := by
  rintro rfl
  obtain ⟨gap, -, hgap, hne, -, -, rfl⟩ := h
  rw [List.append_nil, List.reverse_append] at ht
  have hlast := ht (gap.getLast hne) (by simp [List.getLast?_eq_some_getLast hne])
  rw [isMargin_of_isBlank (hgap _ (List.getLast_mem hne))] at hlast
  cases hlast

theorem stopsAt_reverse_trim (t : Text) : StopsAt isMargin (Line.trim t).reverse :=
  (strip_eq_iff.1 rfl).2.2

theorem trimmed_of_mem {source : Text} {line : Line} (h : line ∈ Source.lines source) :
    line.trimmed = Line.trim line.raw := by
  obtain ⟨entry, -, rfl⟩ := List.mem_map.1 h
  rfl

/-- How many blanks follow the first word, and which, makes no difference. A
command is the text it was read from with one space there, and reads as itself. -/
theorem spacing_is_free :
    (∀ word gap gap' rest, IsName word → IsBlanks gap → gap ≠ [] → IsBlanks gap' → gap' ≠ [] →
      StopsAt isBlank rest → ofText (word ++ gap ++ rest) = ofText (word ++ gap' ++ rest)) ∧
    (∀ t word rest, ofText t = .command word rest →
      let command := word ++ ' ' :: rest
      (ofText t).command? = some command ∧ ofText command = .command word rest ∧
        (ofText command).command? = some command) ∧
    ∀ source, ∀ line ∈ Source.lines source, ∀ word rest,
      ofText line.trimmed = .command word rest →
        (ofText line.trimmed).command? = some (respaced line.trimmed) ∧ rest ≠ [] := by
  refine ⟨fun word gap gap' rest hword hgap hne hgap' hne' hrest => ?_, ?_, ?_⟩
  · exact ofText_regap hword hgap hne hgap' hne' hrest
  · intro t word rest h command
    have hcommand : ofText command = .command word rest := by
      obtain ⟨gap, hword, hgap, hne, -, hstop, rfl⟩ := generic_of_ofText h
      have hspace : IsBlanks [' '] := by simp [IsBlanks, isBlank]
      have hsame := ofText_regap hword hgap hne hspace (List.cons_ne_nil _ _) hstop
      rw [h, List.append_assoc] at hsame
      exact hsame.symm
    rw [hcommand, h]
    exact ⟨rfl, rfl, rfl⟩
  · intro source line hline word rest h
    have hgeneric := generic_of_ofText h
    have htrim := stopsAt_reverse_trim line.raw
    rw [← trimmed_of_mem hline] at htrim
    rw [h, respaced_of_generic hgeneric]
    exact ⟨rfl, rest_ne_nil htrim hgeneric⟩

theorem tabbed_lines_read_alike :
    let say : Text := "say".toList
    let quoted : Text := "\"hi\"".toList
    let line : Line := ⟨2, " tp\t @s ~ ~1 ~\t".toList, "tp\t @s ~ ~1 ~".toList⟩
    let source : Text := "function f(=> void)\n tp\t @s ~ ~1 ~\t\nend".toList
    IsName say ∧ IsBlanks [' ', '\t'] ∧ IsBlanks ['\n'] ∧ StopsAt isBlank quoted ∧
      ofText (say ++ [' ', '\t'] ++ quoted) = ofText (say ++ ['\n'] ++ quoted) ∧
      line ∈ Source.lines source ∧
      ofText line.trimmed = .command "tp".toList "@s ~ ~1 ~".toList ∧
      ofText "tp @s ~ ~1 ~".toList = .command "tp".toList "@s ~ ~1 ~".toList ∧
      (ofText line.trimmed).command? = some (respaced line.trimmed) ∧
      respaced line.trimmed = "tp @s ~ ~1 ~".toList := by
  intro say quoted line source
  have hsay : IsName say := by decide
  have hgap : IsBlanks [' ', '\t'] := by simp [IsBlanks, isBlank]
  have hgap' : IsBlanks ['\n'] := by simp [IsBlanks, isBlank]
  have hquoted : StopsAt isBlank quoted := stopsAt_cons.2 rfl
  have hmem : line ∈ Source.lines source := by decide +kernel
  have hline : ofText line.trimmed = .command "tp".toList "@s ~ ~1 ~".toList := by decide +kernel
  obtain ⟨hfree, hfixed, hsource⟩ := spacing_is_free
  have halike := hfree say _ _ quoted hsay hgap (by simp) hgap' (by simp) hquoted
  obtain ⟨hrespaced, -⟩ := hsource source line hmem _ _ hline
  exact ⟨hsay, hgap, hgap', hquoted, halike, hmem, hline, (hfixed _ _ _ hline).2.1, hrespaced,
    by decide +kernel⟩

end Datapack.Proofs.Spacing
