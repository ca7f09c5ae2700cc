import Datapack.Text.Substitute
import Mathlib.Data.List.Infix
import Mathlib.Data.List.Pairwise

namespace Datapack.Proofs.Phrases

variable {c : Char} {x y z s t front back front' back' : Text} {entry entry' : Text × Text}
  {table : List (Text × Text)}

def Agree (x y : Text) : Prop := x <+: y ∨ y <+: x

/-- In some text `x` begins no later than `y` and reaches into it. -/
def Clash (x y : Text) : Prop := ∃ s ∈ x.tails, s ≠ [] ∧ Agree s y

def Apart (x y : Text) : Prop := ¬Clash x y ∧ ¬Clash y x

instance (x y : Text) : Decidable (Agree x y) :=
  inferInstanceAs (Decidable (x <+: y ∨ y <+: x))

instance (x y : Text) : Decidable (Clash x y) :=
  inferInstanceAs (Decidable (∃ s ∈ x.tails, s ≠ [] ∧ Agree s y))

instance (x y : Text) : Decidable (Apart x y) :=
  inferInstanceAs (Decidable (¬Clash x y ∧ ¬Clash y x))

/-- No two occurrences of phrases in a text share a character, whether the
phrases are two or one. -/
structure Separate (table : List (Text × Text)) : Prop where
  ne_nil : ∀ entry ∈ table, entry.1 ≠ []
  distinct : table.Pairwise (fun entry entry' => ¬Agree entry.1 entry'.1)
  disjoint : ∀ entry ∈ table, ∀ entry' ∈ table, ¬Clash entry.1.tail entry'.1

def Unreached (table : List (Text × Text)) (t : Text) : Prop :=
  ∀ entry ∈ table, ∀ s, s <:+ entry.1.tail → s ≠ [] → ¬s <+: t

theorem Agree.symm (h : Agree x y) : Agree y x := Or.symm h

theorem Agree.cons (h : Agree x y) : Agree (c :: x) (c :: y) :=
  h.imp (fun h => List.cons_prefix_cons.2 ⟨rfl, h⟩) (fun h => List.cons_prefix_cons.2 ⟨rfl, h⟩)

theorem agree_of_prefixes (hx : x <+: t) (hy : y <+: t) : Agree x y :=
  List.prefix_or_prefix_of_prefix hx hy

theorem clash_of_suffix (hs : s <:+ x) (hne : s ≠ []) (h : Agree s y) : Clash x y :=
  ⟨s, (List.mem_tails s x).2 hs, hne, h⟩

theorem clash_of_agree (hne : x ≠ []) (h : Agree x y) : Clash x y :=
  clash_of_suffix List.suffix_rfl hne h

theorem Clash.mono (hz : z <:+ x) (h : Clash z y) : Clash x y := by
  obtain ⟨s, hs, hne, hagree⟩ := h
  exact clash_of_suffix (((List.mem_tails s z).1 hs).trans hz) hne hagree

theorem not_clash_tail (h : ¬Clash (c :: x) y) : ¬Clash x y :=
  fun hclash => h (hclash.mono (List.suffix_cons c x))

theorem Apart.symm (h : Apart x y) : Apart y x := And.symm h

/-- Nothing is apart from an empty text. -/
theorem Apart.ne_nil (h : Apart x y) (hy : y ≠ []) : x ≠ [] := by
  rintro rfl
  apply h.2
  exact clash_of_agree hy (.inr List.nil_prefix)

theorem agree_or_clash_tail (h : Clash x y) : Agree x y ∨ Clash x.tail y := by
  obtain ⟨s, hs, hne, hagree⟩ := h
  rw [List.mem_tails] at hs
  cases x with
  | nil => exact absurd (List.suffix_nil.1 hs) hne
  | cons c x =>
      rcases List.suffix_cons_iff.1 hs with rfl | hs
      · exact .inl hagree
      · exact .inr (clash_of_suffix hs hne hagree)

theorem Separate.eq_of_agree (hsep : Separate table) (hentry : entry ∈ table)
    (hentry' : entry' ∈ table) (h : Agree entry.1 entry'.1) : entry = entry' := by
  by_contra hne
  have : Std.Symm (fun entry entry' : Text × Text => ¬Agree entry.1 entry'.1) :=
    ⟨fun _ _ hnot hagree => hnot hagree.symm⟩
  exact hsep.distinct.forall hentry hentry' hne h

theorem Separate.not_clash (hsep : Separate table) (hentry : entry ∈ table)
    (hentry' : entry' ∈ table) (hne : entry ≠ entry') : ¬Clash entry.1 entry'.1 := by
  intro hclash
  rcases agree_or_clash_tail hclash with hagree | hclash
  · exact hne (hsep.eq_of_agree hentry hentry' hagree)
  · exact hsep.disjoint entry hentry entry' hentry' hclash

theorem Separate.sublist {table' : List (Text × Text)} (hsep : Separate table)
    (hsub : table'.Sublist table) : Separate table' where
  ne_nil entry hentry := hsep.ne_nil entry (hsub.subset hentry)
  distinct := hsep.distinct.sublist hsub
  disjoint entry hentry entry' hentry' :=
    hsep.disjoint entry (hsub.subset hentry) entry' (hsub.subset hentry')

theorem unreached_append (hx : ∀ entry ∈ table, ¬Clash entry.1.tail x) (t : Text) :
    Unreached table (x ++ t) := by
  intro entry hentry s hs hne hbegins
  apply hx entry hentry
  apply clash_of_suffix hs hne
  exact agree_of_prefixes hbegins (List.prefix_append x t)

theorem Separate.unreached (hsep : Separate table) (hentry : entry ∈ table) (t : Text) :
    Unreached table (entry.1 ++ t) :=
  unreached_append (fun entry' hentry' => hsep.disjoint entry' hentry' entry hentry) t

theorem prefix_append_cases (h : x <+: front ++ back) :
    x <+: front ∨ ∃ s, x = front ++ s ∧ s ≠ [] ∧ s <+: back := by
  rcases agree_of_prefixes h (List.prefix_append front back) with hfront | ⟨s, rfl⟩
  · exact .inl hfront
  · obtain rfl | hne := eq_or_ne s []
    · exact .inl (by simp)
    · exact .inr ⟨s, rfl, hne, (List.prefix_append_right_inj front).1 h⟩

/-- Of two occurrences of a text that cannot clash with itself, one is over
before the other begins. -/
theorem occurrence_cases (hx : ¬Clash x.tail x) (h : front ++ x ++ back = front' ++ x ++ back')
    (hle : front.length ≤ front'.length) : front = front' ∨ ∃ z, front' = front ++ x ++ z := by
  have hfront : front <+: front ++ (x ++ back) := List.prefix_append _ _
  have hfront' : front' <+: front ++ (x ++ back) := by
    rw [← List.append_assoc, h, List.append_assoc]
    exact List.prefix_append _ _
  obtain ⟨s, rfl⟩ := List.prefix_of_prefix_length_le hfront hfront' hle
  simp only [List.append_assoc, List.append_cancel_left_eq] at h
  rcases List.append_eq_append_iff.1 h with ⟨z, rfl, -⟩ | ⟨u, rfl, hrest⟩
  · exact .inr ⟨z, (List.append_assoc _ _ _).symm⟩
  · cases s with
    | nil => exact .inl (List.append_nil front).symm
    | cons c s =>
        obtain rfl | hne := eq_or_ne u []
        · exact .inr ⟨[], by simp⟩
        · -- the first occurrence ends with what the second one begins with
          exfalso
          apply hx
          apply clash_of_suffix (List.suffix_append s u) hne
          exact agree_of_prefixes (hrest ▸ List.prefix_append u back) (List.prefix_append _ back')

theorem substituteFrom_drop (table : List (Text × Text)) (n : Nat) (t : Text) :
    Text.substituteFrom table n t = Text.substitute table (t.drop n) := by
  induction n generalizing t with
  | zero => rfl
  | succ n ih =>
      cases t with
      | nil => rfl
      | cons c t => exact ih t

theorem substitute_phrase (hsep : Separate table) (hentry : entry ∈ table) (t : Text) :
    Text.substitute table (entry.1 ++ t) = entry.2 ++ Text.substitute table t := by
  obtain ⟨c, phrase, hphrase⟩ := List.exists_cons_of_ne_nil (hsep.ne_nil entry hentry)
  have hfind : table.find? (fun entry => entry.1.isPrefixOf (c :: (phrase ++ t))) = some entry := by
    cases hfound : table.find? (fun entry => entry.1.isPrefixOf (c :: (phrase ++ t))) with
    | none =>
        have hnot := List.find?_eq_none.1 hfound entry hentry
        exact absurd (List.isPrefixOf_iff_prefix.2 (by simp [hphrase])) hnot
    | some entry' =>
        have hbegins := List.find?_some hfound
        have hagree : Agree entry'.1 entry.1 :=
          agree_of_prefixes (List.isPrefixOf_iff_prefix.1 hbegins) (by simp [hphrase])
        rw [hsep.eq_of_agree (List.mem_of_find?_eq_some hfound) hentry hagree]
  rw [hphrase, List.cons_append, Text.substitute, Text.substituteFrom, hfind]
  simp only [substituteFrom_drop, hphrase, List.length_cons, Nat.add_sub_cancel, List.drop_left]

theorem substitute_kept (hfree : ∀ entry ∈ table, ¬entry.1 <+: c :: t) :
    Text.substitute table (c :: t) = c :: Text.substitute table t := by
  have hfind : table.find? (fun entry => entry.1.isPrefixOf (c :: t)) = none := by
    apply List.find?_eq_none.2
    intro entry hentry hbegins
    exact hfree entry hentry (List.isPrefixOf_iff_prefix.1 hbegins)
  rw [Text.substitute, Text.substituteFrom, hfind]
  rfl

end Datapack.Proofs.Phrases
