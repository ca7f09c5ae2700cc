import Datapack.Proofs.Phrases

namespace Datapack.Proofs.Divisions

open Phrases

def kept (c : Char) : Text × Text := ([c], [c])

/-- Parts stand for a text and for what becomes of it. -/
def source (parts : List (Text × Text)) : Text := parts.flatMap Prod.fst

def target (parts : List (Text × Text)) : Text := parts.flatMap Prod.snd

/-- What one pass from left to right takes a text apart into. A character is
kept only where no phrase begins. -/
inductive Divided (table : List (Text × Text)) : List (Text × Text) → Prop
  | nil : Divided table []
  | phrase {entry parts} (hentry : entry ∈ table) (h : Divided table parts) :
      Divided table (entry :: parts)
  | kept {c parts} (hfree : ∀ entry ∈ table, ¬entry.1 <+: c :: source parts)
      (h : Divided table parts) : Divided table (kept c :: parts)

variable {c : Char} {x t front back : Text} {entry : Text × Text}
  {table parts parts' before before' after after' : List (Text × Text)}

theorem source_cons (part : Text × Text) (parts : List (Text × Text)) :
    source (part :: parts) = part.1 ++ source parts := rfl

theorem target_cons (part : Text × Text) (parts : List (Text × Text)) :
    target (part :: parts) = part.2 ++ target parts := rfl

theorem source_append (parts parts' : List (Text × Text)) :
    source (parts ++ parts') = source parts ++ source parts' := List.flatMap_append

theorem target_append (parts parts' : List (Text × Text)) :
    target (parts ++ parts') = target parts ++ target parts' := List.flatMap_append

theorem source_kept (c : Char) (parts : List (Text × Text)) :
    source (kept c :: parts) = c :: source parts := rfl

theorem target_kept (c : Char) (parts : List (Text × Text)) :
    target (kept c :: parts) = c :: target parts := rfl

theorem substitute_source (hsep : Separate table) (h : Divided table parts) :
    Text.substitute table (source parts) = target parts := by
  induction h with
  | nil => rfl
  | phrase hentry _ ih => rw [source_cons, substitute_phrase hsep hentry, ih, target_cons]
  | kept hfree _ ih => rw [source_kept, substitute_kept hfree, ih, target_kept]

theorem exists_divided (hsep : Separate table) (t : Text) :
    ∃ parts, Divided table parts ∧ source parts = t := by
  induction hn : t.length using Nat.strong_induction_on generalizing t with
  | _ n ih =>
      subst hn
      cases t with
      | nil => exact ⟨[], .nil, rfl⟩
      | cons c t =>
          by_cases hphrase : ∃ entry ∈ table, entry.1 <+: c :: t
          · obtain ⟨entry, hentry, rest, hrest⟩ := hphrase
            have hpos : 0 < entry.1.length := List.length_pos_of_ne_nil (hsep.ne_nil entry hentry)
            have hshort : rest.length < (c :: t).length := by
              rw [← hrest, List.length_append]
              omega
            obtain ⟨parts, hparts, rfl⟩ := ih _ hshort rest rfl
            exact ⟨entry :: parts, .phrase hentry hparts, hrest⟩
          · obtain ⟨parts, hparts, rfl⟩ := ih _ (Nat.lt_succ_self _) t rfl
            have hfree : ∀ entry ∈ table, ¬entry.1 <+: c :: source parts :=
              fun entry hentry hbegins => hphrase ⟨entry, hentry, hbegins⟩
            exact ⟨kept c :: parts, .kept hfree hparts, rfl⟩

/-- A text can be taken apart in one way only. -/
theorem Divided.unique (hsep : Separate table) (h : Divided table parts)
    (h' : Divided table parts') (hsource : source parts = source parts') : parts = parts' := by
  induction h generalizing parts' with
  | nil =>
      cases h' with
      | nil => rfl
      | phrase hentry _ =>
          have hempty := List.append_eq_nil_iff.1 hsource.symm
          exact absurd hempty.1 (hsep.ne_nil _ hentry)
      | kept hfree _ => cases hsource
  | @phrase entry parts hentry _ ih =>
      cases h' with
      | nil =>
          have hempty := List.append_eq_nil_iff.1 hsource
          exact absurd hempty.1 (hsep.ne_nil entry hentry)
      | @phrase entry' parts' hentry' h' =>
          have hagree : Agree entry.1 entry'.1 := by
            apply agree_of_prefixes (List.prefix_append entry.1 (source parts))
            rw [← source_cons, hsource]
            exact List.prefix_append entry'.1 (source parts')
          obtain rfl := hsep.eq_of_agree hentry hentry' hagree
          rw [ih h' (List.append_cancel_left hsource)]
      | kept hfree _ =>
          refine absurd ?_ (hfree entry hentry)
          rw [← source_kept, ← hsource]
          exact List.prefix_append entry.1 (source parts)
  | @kept c parts hfree _ ih =>
      cases h' with
      | nil => cases hsource
      | @phrase entry' parts' hentry' _ =>
          refine absurd ?_ (hfree entry' hentry')
          rw [← source_kept, hsource]
          exact List.prefix_append entry'.1 (source parts')
      | kept _ h' =>
          obtain ⟨rfl, htail⟩ := List.cons.inj hsource
          rw [ih h' htail]

theorem Divided.append (h : Divided table parts) (h' : Divided table parts')
    (hseam : Unreached table (source parts')) :
    Divided table (parts ++ parts') := by
  induction h with
  | nil => exact h'
  | phrase hentry _ ih => exact .phrase hentry ih
  | @kept c parts hfree _ ih =>
      refine .kept (fun entry hentry hbegins => ?_) ih
      rw [List.append_eq, source_append, ← List.cons_append] at hbegins
      rcases prefix_append_cases hbegins with hfront | ⟨s, hs, hne, hback⟩
      · exact hfree entry hentry hfront
      · refine hseam entry hentry s ?_ hne hback
        rw [hs]
        exact List.suffix_append (source parts) s

theorem substitute_append (hsep : Separate table) (hseam : Unreached table back)
    (front : Text) :
    Text.substitute table (front ++ back) =
      Text.substitute table front ++ Text.substitute table back := by
  obtain ⟨parts, hparts, rfl⟩ := exists_divided hsep front
  obtain ⟨parts', hparts', rfl⟩ := exists_divided hsep back
  rw [← source_append, substitute_source hsep (hparts.append hparts' hseam),
    substitute_source hsep hparts, substitute_source hsep hparts', target_append]

theorem substitute_around (hsep : Separate table) (hentry : entry ∈ table) (front back : Text) :
    Text.substitute table (front ++ entry.1 ++ back) =
      Text.substitute table front ++ entry.2 ++ Text.substitute table back := by
  rw [List.append_assoc, substitute_append hsep (hsep.unreached hentry back),
    substitute_phrase hsep hentry, List.append_assoc]

theorem divided_around (hsep : Separate table) (hentry : entry ∈ table)
    (hbefore : Divided table before) (hafter : Divided table after) :
    Divided table (before ++ entry :: after) := by
  apply hbefore.append (.phrase hentry hafter)
  exact hsep.unreached hentry (source after)

/-- Parts that stand for nothing do not come between two places of one phrase. -/
theorem eq_nil_of_source (hne : entry.1 ≠ [])
    (h : entry :: after = parts ++ entry :: after') (hparts : source parts = []) : parts = [] := by
  cases parts with
  | nil => rfl
  | cons part parts =>
      obtain ⟨rfl, -⟩ := List.cons.inj h
      exact absurd (List.append_eq_nil_iff.1 hparts).1 hne

theorem place_unique (hne : entry.1 ≠ [])
    (h : before ++ entry :: after = before' ++ entry :: after')
    (hsource : source before = source before') : before = before' ∧ after = after' := by
  have hbefore : before = before' := by
    rcases List.append_eq_append_iff.1 h with ⟨s, rfl, hs⟩ | ⟨s, rfl, hs⟩
    · rw [source_append, eq_comm, List.append_right_eq_self] at hsource
      rw [eq_nil_of_source hne hs hsource, List.append_nil]
    · rw [source_append, List.append_right_eq_self] at hsource
      rw [eq_nil_of_source hne hs hsource, List.append_nil]
  subst hbefore
  exact ⟨rfl, (List.cons.inj (List.append_cancel_left h)).2⟩

/-- The phrases among the parts are the occurrences of phrases in the text. -/
theorem occurrence_iff (hsep : Separate table) (h : Divided table parts) (hentry : entry ∈ table) :
    source parts = front ++ entry.1 ++ back ↔
      ∃! cut : List (Text × Text) × List (Text × Text), parts = cut.1 ++ entry :: cut.2 ∧
        source cut.1 = front ∧ source cut.2 = back := by
  constructor
  · intro hsource
    obtain ⟨before, hbefore, rfl⟩ := exists_divided hsep front
    obtain ⟨after, hafter, rfl⟩ := exists_divided hsep back
    have hparts : parts = before ++ entry :: after := by
      apply h.unique hsep (divided_around hsep hentry hbefore hafter)
      rw [hsource, source_append, source_cons, List.append_assoc]
    refine ⟨(before, after), ⟨hparts, rfl, rfl⟩, ?_⟩
    rintro ⟨before', after'⟩ ⟨hparts', hfront, -⟩
    obtain ⟨rfl, rfl⟩ :=
      place_unique (hsep.ne_nil entry hentry) (hparts'.symm.trans hparts) hfront
    rfl
  · rintro ⟨cut, ⟨rfl, rfl, rfl⟩, -⟩
    rw [source_append, source_cons, List.append_assoc]

theorem substitute_apart (hx : ∀ entry ∈ table, ¬Clash x entry.1) (t : Text) :
    Text.substitute table (x ++ t) = x ++ Text.substitute table t := by
  induction x with
  | nil => rfl
  | cons c x ih =>
      have hfree : ∀ entry ∈ table, ¬entry.1 <+: c :: (x ++ t) := by
        intro entry hentry hbegins
        apply hx entry hentry
        apply clash_of_agree (List.cons_ne_nil c x)
        exact agree_of_prefixes (List.prefix_append (c :: x) t) hbegins
      rw [List.cons_append, substitute_kept hfree, ih]
      · rfl
      · exact fun entry hentry => not_clash_tail (hx entry hentry)

end Datapack.Proofs.Divisions
