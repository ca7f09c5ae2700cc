import Datapack.Source

namespace Datapack.Proofs.LineEnds

variable {l t : Text} {c : Char} {ending : Text} {ls : List Text}

def endings : List Text := [['\n'], ['\r'], ['\r', '\n']]

def endLines (ending : Text) (ls : List Text) : Text := ls.flatMap (· ++ ending)

def withEnding (ending t : Text) : Text := t.flatMap (fun c => if c = '\n' then ending else [c])

def IsBreakFree (t : Text) : Prop := ∀ c ∈ t, isLineBreak c = false

instance (t : Text) : Decidable (IsBreakFree t) :=
  decidable_of_iff (t.all (fun c => !isLineBreak c) = true) (by simp [IsBreakFree])

/-- The lines of a text before a last empty one is dropped. -/
def pieces (t : Text) : List Text := (Text.splitPairs t).flatMap (List.splitOnP isLineBreak)

theorem splitPairs_ne_nil (t : Text) : Text.splitPairs t ≠ [] := by
  fun_induction Text.splitPairs t with
  | case1 => simp
  | case2 => simp
  | case3 c t _ ih =>
      cases h : Text.splitPairs t with
      | nil => exact absurd h ih
      | cons first rest => simp

theorem pieces_pair (t : Text) : pieces ('\r' :: '\n' :: t) = [] :: pieces t := by
  simp [pieces, Text.splitPairs, List.splitOnP_nil]

theorem pieces_ne_nil (t : Text) : pieces t ≠ [] := by
  cases h : Text.splitPairs t with
  | nil => exact absurd h (splitPairs_ne_nil t)
  | cons first rest => simp [pieces, h, List.splitOnP_ne_nil]

theorem splitPairs_cons (h : c = '\r' → t.head? ≠ some '\n') :
    Text.splitPairs (c :: t) = (Text.splitPairs t).modifyHead (c :: ·) := by
  apply Text.splitPairs.eq_3
  rintro t' rfl rfl
  exact h rfl rfl

/-- A break that is no half of a pair ends a piece, any other character goes to
the first piece of the rest. -/
theorem pieces_cons (h : c = '\r' → t.head? ≠ some '\n') :
    pieces (c :: t) =
      if isLineBreak c then [] :: pieces t else (pieces t).modifyHead (c :: ·) := by
  cases hs : Text.splitPairs t with
  | nil => exact absurd hs (splitPairs_ne_nil t)
  | cons first rest =>
      simp only [pieces, splitPairs_cons h, hs, List.modifyHead_cons, List.flatMap_cons,
        List.splitOnP_cons_eq_if_modifyHead]
      split
      · rfl
      · cases hf : first.splitOnP isLineBreak with
        | nil => exact absurd hf (List.splitOnP_ne_nil _ _)
        | cons piece others => rfl

theorem pieces_append (hl : IsBreakFree l) : pieces (l ++ t) = (pieces t).modifyHead (l ++ ·) := by
  induction l with
  | nil => cases h : pieces t <;> simp [h]
  | cons c l ih =>
      obtain ⟨hc, hl⟩ := List.forall_mem_cons.1 hl
      have hne : c = '\r' → (l ++ t).head? ≠ some '\n' := by
        rintro rfl
        exact absurd hc (by decide)
      rw [List.cons_append, pieces_cons hne, ih hl, hc]
      cases h : pieces t <;> simp

theorem pieces_ending (he : ending ∈ endings) (ht : ending = ['\r'] → t.head? ≠ some '\n') :
    pieces (ending ++ t) = [] :: pieces t := by
  simp only [endings, List.mem_cons, List.not_mem_nil, or_false] at he
  rcases he with rfl | rfl | rfl
  · exact pieces_cons (fun h => absurd h (by decide))
  · exact pieces_cons (fun _ => ht rfl)
  · exact pieces_pair t

theorem getLast?_ending (he : ending ∈ endings) (t : Text) :
    ∃ c, (t ++ ending).getLast? = some c ∧ isLineBreak c = true := by
  simp only [endings, List.mem_cons, List.not_mem_nil, or_false] at he
  rcases he with rfl | rfl | rfl
  · exact ⟨'\n', by simp, by decide⟩
  · exact ⟨'\r', by simp, by decide⟩
  · exact ⟨'\n', by simp, by decide⟩

theorem lines_append (hl : IsBreakFree l) (he : ending ∈ endings)
    (ht : ending = ['\r'] → t.head? ≠ some '\n') :
    (l ++ ending ++ t).lines = l :: t.lines := by
  have hpieces : pieces (l ++ ending ++ t) = l :: pieces t := by
    rw [List.append_assoc, pieces_append hl, pieces_ending he ht]
    simp
  cases hlast : t.getLast? with
  | none =>
      obtain rfl := List.getLast?_eq_none_iff.1 hlast
      obtain ⟨c, hc, hbreak⟩ := getLast?_ending he l
      simp only [List.append_nil] at hpieces ⊢
      have hdrop : (l ++ ending).lines = (pieces (l ++ ending)).dropLast := by
        simp only [Text.lines, hc, hbreak, if_true, pieces]
      rw [hdrop, hpieces]
      rfl
  | some c =>
      have hc : (l ++ ending ++ t).getLast? = some c := by
        rw [List.getLast?_append, hlast]
        rfl
      have hlines : (l ++ ending ++ t).lines =
          if isLineBreak c then (l :: pieces t).dropLast else l :: pieces t := by
        rw [← hpieces]
        simp only [Text.lines, hc, pieces]
      have hrest : t.lines = if isLineBreak c then (pieces t).dropLast else pieces t := by
        simp only [Text.lines, hlast, pieces]
      rw [hlines, hrest]
      split
      · exact List.dropLast_cons_of_ne_nil (pieces_ne_nil t)
      · rfl

theorem head?_endLines (h : ∀ l ∈ ls, IsBreakFree l) :
    (endLines ['\r'] ls).head? ≠ some '\n' := by
  cases ls with
  | nil => simp [endLines]
  | cons l ls =>
      cases l with
      | nil => simp [endLines]
      | cons c l =>
          have hc : isLineBreak c = false := h (c :: l) (by simp) c (by simp)
          intro hhead
          obtain rfl : c = '\n' := by simpa [endLines] using hhead
          exact absurd hc (by decide)

theorem lines_endLines (h : ∀ l ∈ ls, IsBreakFree l) (he : ending ∈ endings) :
    (endLines ending ls).lines = ls := by
  induction ls with
  | nil => rfl
  | cons l ls ih =>
      obtain ⟨hl, hls⟩ := List.forall_mem_cons.1 h
      have hnext : ending = ['\r'] → (endLines ending ls).head? ≠ some '\n' := by
        rintro rfl
        exact head?_endLines hls
      have hcons : endLines ending (l :: ls) = l ++ ending ++ endLines ending ls := rfl
      rw [hcons, lines_append hl he hnext, ih hls]

theorem withEnding_of_not_mem (ending : Text) (h : '\n' ∉ l) : withEnding ending l = l := by
  induction l with
  | nil => rfl
  | cons c l ih =>
      simp only [List.mem_cons, not_or] at h
      have hcons : withEnding ending (c :: l) =
          (if c = '\n' then ending else [c]) ++ withEnding ending l := rfl
      rw [hcons, if_neg (Ne.symm h.1), ih h.2]
      rfl

theorem withEnding_endLines (ending : Text) (h : ∀ l ∈ ls, '\n' ∉ l) :
    withEnding ending (endLines ['\n'] ls) = endLines ending ls := by
  induction ls with
  | nil => rfl
  | cons l ls ih =>
      obtain ⟨hl, hls⟩ := List.forall_mem_cons.1 h
      have hsplit : withEnding ending (endLines ['\n'] (l :: ls)) =
          withEnding ending l ++ ending ++ withEnding ending (endLines ['\n'] ls) := by
        simp [withEnding, endLines]
      rw [hsplit, withEnding_of_not_mem ending hl, ih hls]
      rfl

theorem splitOnP_endLines {p : Char → Bool} (hp : p '\n' = true)
    (h : ∀ l ∈ ls, ∀ c ∈ l, p c = false) :
    (endLines ['\n'] ls).splitOnP p = ls ++ [[]] := by
  induction ls with
  | nil => rfl
  | cons l ls ih =>
      obtain ⟨hl, hls⟩ := List.forall_mem_cons.1 h
      have hcons : endLines ['\n'] (l :: ls) = l ++ '\n' :: endLines ['\n'] ls := by
        simp [endLines]
      rw [hcons, List.splitOnP_append_cons_of_forall_mem hl _ hp, ih hls]
      rfl

theorem IsBreakFree.newline_not_mem (h : IsBreakFree l) : '\n' ∉ l :=
  fun hm => absurd (h _ hm) (by decide)

theorem eq_false_of_mem_splitOnP {p : Char → Bool} (h : l ∈ t.splitOnP p) :
    ∀ c ∈ l, p c = false := by
  induction t generalizing l with
  | nil =>
      obtain rfl := List.mem_singleton.1 (List.splitOnP_nil ▸ h)
      simp
  | cons d t ih =>
      rw [List.splitOnP_cons_eq_if_modifyHead] at h
      split at h
      · rcases List.mem_cons.1 h with rfl | h
        · simp
        · exact ih h
      · rename_i hd
        cases hs : t.splitOnP p with
        | nil => exact absurd hs (List.splitOnP_ne_nil _ _)
        | cons first rest =>
            rw [hs] at ih h
            rcases List.mem_cons.1 h with rfl | h
            · exact List.forall_mem_cons.2 ⟨by simpa using hd, ih (by simp)⟩
            · exact ih (by simp [h])

theorem isBreakFree_of_mem_lines (h : l ∈ t.lines) : IsBreakFree l := by
  have hpiece : l ∈ pieces t := by
    simp only [Text.lines] at h
    split at h
    · cases h
    · split at h
      · exact List.dropLast_subset _ h
      · exact h
  obtain ⟨part, -, hl⟩ := List.mem_flatMap.1 hpiece
  exact eq_false_of_mem_splitOnP hl

theorem map_raw_lines (t : Text) : (Source.lines t).map Line.raw = t.lines := by
  simp [Source.lines, Line.ofNumbered, Function.comp_def]

end Datapack.Proofs.LineEnds
