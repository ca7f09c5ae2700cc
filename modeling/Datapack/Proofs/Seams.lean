import Datapack.Proofs.SelectorPass

namespace Datapack.Proofs.Seams

open Phrases Divisions Origins SelectorPass

/-- A text with gaps between its characters, at least one of them. -/
def Interrupted (gaps : List Text) (x w : Text) : Prop :=
  ∃ c y v, x = c :: y ∧ w = c :: v ∧ Spread gaps y v ∧ v ≠ y

variable {c : Char} {s t w x back : Text} {entry : Text × Text} {gaps : List Text}
  {table : List (Text × Text)}

theorem agree_or_clash (h : Spread gaps x w) (hs : s <+: w ++ back) :
    Agree s x ∨ ∃ gap ∈ gaps, Clash s gap := by
  induction h generalizing s with
  | nil => exact .inl (.inr List.nil_prefix)
  | @gap x w gap hgap _ _ _ =>
      obtain rfl | hne := eq_or_ne s []
      · exact .inl (.inl List.nil_prefix)
      · rw [List.append_assoc] at hs
        have hagree := agree_of_prefixes hs (List.prefix_append gap _)
        exact .inr ⟨gap, hgap, clash_of_agree hne hagree⟩
  | next c _ ih =>
      rcases List.prefix_cons_iff.1 hs with rfl | ⟨s, rfl, htail⟩
      · exact .inl (.inl List.nil_prefix)
      · rcases ih htail with hagree | ⟨gap, hgap, hclash⟩
        · exact .inl hagree.cons
        · exact .inr ⟨gap, hgap, hclash.mono (List.suffix_cons c s)⟩

theorem eq_or_clash (h : Spread gaps x w) (hx : x <+: w ++ back) :
    w = x ∨ ∃ gap ∈ gaps, Clash x gap := by
  induction h with
  | nil => exact .inl rfl
  | @gap x w gap hgap hne _ _ =>
      rw [List.append_assoc] at hx
      have hagree := agree_of_prefixes hx (List.prefix_append gap _)
      exact .inr ⟨gap, hgap, clash_of_agree hne hagree⟩
  | @next c x w _ ih =>
      rcases ih (List.cons_prefix_cons.1 hx).2 with rfl | ⟨gap, hgap, hclash⟩
      · exact .inl rfl
      · exact .inr ⟨gap, hgap, hclash.mono (List.suffix_cons c x)⟩

theorem not_clash_removed (hsep : Separate table) (hentry : entry ∈ table) :
    ¬∃ gap ∈ removed table, Clash entry.1.tail gap := by
  rintro ⟨gap, hgap, hclash⟩
  exact hsep.disjoint entry hentry _ (mem_removed.1 hgap) hclash

/-- A phrase does not reach beyond the first gap. -/
theorem agree_of_prefix_spread (hsep : Separate table) (hentry : entry ∈ table)
    (h : Spread (removed table) x w) (hbegins : entry.1 <+: c :: (w ++ back)) :
    Agree entry.1 (c :: x) := by
  have hgaps := not_clash_removed hsep hentry
  rcases List.prefix_cons_iff.1 hbegins with hempty | ⟨y, hy, hrest⟩
  · exact absurd hempty (hsep.ne_nil entry hentry)
  · rw [hy] at hgaps ⊢
    exact ((agree_or_clash h hrest).resolve_right hgaps).cons

theorem substitute_spread (hsep : Separate table) (hentry : entry ∈ table)
    (hx : x <:+ entry.1.tail) (h : Spread (removed table) x w) (back : Text) :
    Text.substitute table (w ++ back) = x ++ Text.substitute table back := by
  induction h with
  | nil => rfl
  | @gap x w gap hgap _ _ ih =>
      have hremoved := substitute_phrase hsep (mem_removed.1 hgap) (w ++ back)
      rw [List.append_assoc, hremoved, ih hx]
      rfl
  | @next c x w h ih =>
      rw [List.cons_append, substitute_kept, ih ((List.suffix_cons c x).trans hx)]
      · rfl
      · intro entry' hentry' hbegins
        have hagree := (agree_of_prefix_spread hsep hentry' h hbegins).symm
        exact hsep.disjoint entry hentry entry' hentry' (clash_of_suffix hx (by simp) hagree)

/-- The gaps of an interrupted phrase are taken out, so that the phrase is left. -/
theorem substitute_interrupted (hsep : Separate table) (hentry : entry ∈ table)
    (h : Interrupted (removed table) entry.1 w) (front back : Text) :
    Text.substitute table (front ++ w ++ back) =
      Text.substitute table front ++ entry.1 ++ Text.substitute table back := by
  obtain ⟨c, y, v, hphrase, rfl, hspread, hne⟩ := h
  have hseam : Unreached table (c :: (v ++ back)) := by
    intro entry' hentry' s hs hs' hbegins
    rcases agree_or_clash (hspread.next c) hbegins with hagree | ⟨gap, hgap, hclash⟩
    · rw [← hphrase] at hagree
      exact hsep.disjoint entry' hentry' entry hentry (clash_of_suffix hs hs' hagree)
    · exact not_clash_removed hsep hentry' ⟨gap, hgap, hclash.mono hs⟩
  have hfree : ∀ entry' ∈ table, ¬entry'.1 <+: c :: (v ++ back) := by
    intro entry' hentry' hbegins
    have hagree := agree_of_prefix_spread hsep hentry' hspread hbegins
    rw [← hphrase] at hagree
    -- only the phrase itself could begin here, and a gap comes before its end
    obtain rfl := hsep.eq_of_agree hentry' hentry hagree
    have hgaps := not_clash_removed hsep hentry
    rw [hphrase] at hbegins hgaps
    have hwhole := eq_or_clash hspread (List.cons_prefix_cons.1 hbegins).2
    exact hne (hwhole.resolve_right hgaps)
  have hsuffix : y <:+ entry.1.tail := by
    rw [hphrase]
    exact List.suffix_rfl
  rw [List.append_assoc, List.cons_append, substitute_append hsep hseam, substitute_kept hfree,
    substitute_spread hsep hentry hsuffix hspread, hphrase, List.append_assoc]
  rfl

theorem infix_substitute_iff (hsep : Separate table) (hentry : entry ∈ table)
    (hnew : ∀ entry' ∈ table, entry'.2 ≠ [] → Apart entry.1 entry'.2) :
    entry.1 <:+: Text.substitute table t ↔
      ∃ w, Interrupted (removed table) entry.1 w ∧ w <:+: t := by
  constructor
  · rintro ⟨front, back, h⟩
    obtain ⟨c, x, hphrase⟩ := List.exists_cons_of_ne_nil (hsep.ne_nil entry hentry)
    rw [hphrase] at h hnew ⊢
    obtain ⟨front₀, w, back₀, rfl, hspread, hfree, -, -⟩ := exists_origin hsep hnew h.symm
    refine ⟨c :: w, ⟨c, x, w, rfl, rfl, hspread, ?_⟩, front₀, back₀, rfl⟩
    rintro rfl
    -- without a gap the phrase would have been replaced
    apply hfree entry hentry
    rw [hphrase]
    exact List.prefix_append (c :: w) back₀
  · rintro ⟨w, hinterrupted, front, back, rfl⟩
    rw [substitute_interrupted hsep hentry hinterrupted]
    exact List.infix_append _ _ _

theorem length_substitute_le (hsep : Separate table)
    (hshort : ∀ entry ∈ table, entry.2.length < entry.1.length) (t : Text) :
    (Text.substitute table t).length ≤ t.length := by
  obtain ⟨parts, hparts, rfl⟩ := exists_divided hsep t
  induction hparts with
  | nil => exact Nat.le_refl 0
  | @phrase entry parts hentry _ ih =>
      have hlt := hshort entry hentry
      rw [source_cons, substitute_phrase hsep hentry, List.length_append, List.length_append]
      omega
  | kept hfree _ ih =>
      rw [source_kept, substitute_kept hfree]
      exact Nat.succ_le_succ ih

theorem substitute_eq_self_iff (hsep : Separate table)
    (hshort : ∀ entry ∈ table, entry.2.length < entry.1.length) :
    Text.substitute table t = t ↔ ∀ entry ∈ table, ¬entry.1 <:+: t := by
  constructor
  · rintro hself entry hentry ⟨front, back, rfl⟩
    have hlt := hshort entry hentry
    have hfront := length_substitute_le hsep hshort front
    have hback := length_substitute_le hsep hshort back
    rw [substitute_around hsep hentry] at hself
    have hlength := congrArg List.length hself
    simp only [List.length_append] at hlength
    omega
  · intro hnone
    obtain ⟨parts, hparts, rfl⟩ := exists_divided hsep t
    induction hparts with
    | nil => rfl
    | @phrase entry parts hentry _ _ =>
        exact absurd (List.prefix_append entry.1 _).isInfix (hnone entry hentry)
    | @kept c parts hfree _ ih =>
        rw [source_kept, substitute_kept hfree, ih]
        intro entry hentry hoccurs
        exact hnone entry hentry (hoccurs.trans (List.suffix_cons c _).isInfix)

/-- What rewriting leaves of the vocabulary is what it has itself brought
together by taking out a qualifier. -/
theorem phrase_left_iff_interrupted (t : Text) :
    let qualifier : Text := " at current".toList
    (∀ entry ∈ Conditions.vocabulary, entry.1 <:+: Conditions.toSelectors t ↔
      ∃ w, Interrupted [qualifier] entry.1 w ∧ w <:+: t) ∧
    (Conditions.toSelectors (Conditions.toSelectors t) = Conditions.toSelectors t ↔
      ∀ entry ∈ Conditions.vocabulary, ∀ w, Interrupted [qualifier] entry.1 w → ¬w <:+: t) := by
  intro qualifier
  have hleft : ∀ entry ∈ Conditions.vocabulary, entry.1 <:+: Conditions.toSelectors t ↔
      ∃ w, Interrupted [qualifier] entry.1 w ∧ w <:+: t := by
    have hnew : ∀ entry ∈ Conditions.vocabulary, ∀ entry' ∈ Conditions.vocabulary,
        entry'.2 ≠ [] → Apart entry.1 entry'.2 := by decide
    have hremoved : removed Conditions.vocabulary = [qualifier] := rfl
    intro entry hentry
    rw [toSelectors_eq_substitute, ← hremoved]
    exact infix_substitute_iff separate_vocabulary hentry (hnew entry hentry)
  refine ⟨hleft, ?_⟩
  have hself := substitute_eq_self_iff (t := Conditions.toSelectors t) separate_vocabulary
    (by decide)
  rw [toSelectors_eq_substitute (Conditions.toSelectors t), hself]
  apply forall₂_congr
  intro entry hentry
  rw [hleft entry hentry]
  simp only [not_exists, not_and]

/-- A qualifier within a selector leaves the selector, and one within another
qualifier leaves that one. -/
theorem interrupted_phrases_left :
    let selector : Text := "Player at current.all".toList
    let qualifier : Text := " at at current current".toList
    "Player.all".toList <:+: Conditions.toSelectors selector ∧
      Conditions.toSelectors (Conditions.toSelectors selector) ≠ Conditions.toSelectors selector ∧
      " at current".toList <:+: Conditions.toSelectors qualifier ∧
      Conditions.toSelectors (Conditions.toSelectors qualifier) ≠
        Conditions.toSelectors qualifier := by
  decide

end Datapack.Proofs.Seams
