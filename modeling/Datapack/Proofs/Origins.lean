import Datapack.Proofs.Divisions

namespace Datapack.Proofs.Origins

open Phrases Divisions

def removed (table : List (Text × Text)) : List Text :=
  table.filterMap (fun entry => if entry.2 = [] then some entry.1 else none)

/-- The second text has gaps before some characters of the first one. -/
inductive Spread (gaps : List Text) : Text → Text → Prop
  | nil : Spread gaps [] []
  | gap {x w gap : Text} (hgap : gap ∈ gaps) (hx : x ≠ []) (h : Spread gaps x w) :
      Spread gaps x (gap ++ w)
  | next (c : Char) {x w : Text} (h : Spread gaps x w) : Spread gaps (c :: x) (c :: w)

variable {c : Char} {x w t front back : Text} {entry : Text × Text} {gaps : List Text}
  {table : List (Text × Text)}

theorem mem_removed : x ∈ removed table ↔ (x, []) ∈ table := by
  rw [removed, List.mem_filterMap]
  constructor
  · rintro ⟨⟨phrase, replacement⟩, hentry, hsome⟩
    obtain ⟨hempty, hphrase⟩ := Option.ite_none_right_eq_some.1 hsome
    cases hempty
    cases hphrase
    exact hentry
  · intro hentry
    exact ⟨_, hentry, if_pos rfl⟩

theorem eq_of_spread_nil (h : Spread [] x w) : w = x := by
  induction h with
  | nil => rfl
  | gap hgap _ _ _ => cases hgap
  | next c _ ih => rw [ih]

theorem removed_eq_nil (h : ∀ entry ∈ table, entry.2 ≠ []) : removed table = [] := by
  apply List.eq_nil_iff_forall_not_mem.2
  intro phrase hphrase
  exact h _ (mem_removed.1 hphrase) rfl

/-- A text that a replacement has no part in comes from itself, with removed
phrases between its characters. -/
theorem exists_spread (hsep : Separate table)
    (hx : ∀ entry ∈ table, entry.2 ≠ [] → ¬Clash x entry.2)
    (h : Text.substitute table t = x ++ back) :
    ∃ w rest, t = w ++ rest ∧ Spread (removed table) x w ∧ Text.substitute table rest = back := by
  obtain ⟨parts, hparts, rfl⟩ := exists_divided hsep t
  induction hparts generalizing x with
  | nil =>
      obtain ⟨rfl, rfl⟩ := List.append_eq_nil_iff.1 h.symm
      exact ⟨[], [], rfl, .nil, rfl⟩
  | @phrase entry parts hentry hparts ih =>
      obtain rfl | hne := eq_or_ne x []
      · exact ⟨[], _, rfl, .nil, h⟩
      rw [source_cons, substitute_phrase hsep hentry] at h
      by_cases hempty : entry.2 = []
      · rw [hempty, List.nil_append] at h
        obtain ⟨w, rest, hrest, hspread, hback⟩ := ih hx h
        have hgap : entry.1 ∈ removed table := by
          rw [mem_removed, ← hempty]
          exact hentry
        refine ⟨entry.1 ++ w, rest, ?_, .gap hgap hne hspread, hback⟩
        rw [source_cons, hrest, List.append_assoc]
      · have hagree : Agree x entry.2 :=
          agree_of_prefixes (h ▸ List.prefix_append x back) (List.prefix_append entry.2 _)
        exfalso
        apply hx entry hentry hempty
        exact clash_of_agree hne hagree
  | @kept d parts hfree hparts ih =>
      cases x with
      | nil => exact ⟨[], _, rfl, .nil, h⟩
      | cons c x =>
          rw [source_kept, substitute_kept hfree, List.cons_append] at h
          obtain ⟨rfl, htail⟩ := List.cons.inj h
          have hx' : ∀ entry ∈ table, entry.2 ≠ [] → ¬Clash x entry.2 :=
            fun entry hentry hne => not_clash_tail (hx entry hentry hne)
          obtain ⟨w, rest, hrest, hspread, hback⟩ := ih hx' htail
          exact ⟨d :: w, rest, by rw [source_kept, hrest, List.cons_append], .next d hspread, hback⟩

/-- If nothing is removed and no replacement reaches into a text, it has stood
there before. -/
theorem exists_same (hsep : Separate table) (hkeep : ∀ entry ∈ table, entry.2 ≠ [])
    (hx : ∀ entry ∈ table, ¬Clash x entry.2) (h : Text.substitute table t = x ++ back) :
    ∃ rest, t = x ++ rest ∧ Text.substitute table rest = back := by
  obtain ⟨w, rest, rfl, hspread, hback⟩ :=
    exists_spread hsep (fun entry hentry _ => hx entry hentry) h
  rw [removed_eq_nil hkeep] at hspread
  exact ⟨rest, by rw [eq_of_spread_nil hspread], hback⟩

/-- Where a text stands after a pass, its characters have stood before, the
first one as a character that was kept. -/
theorem exists_origin (hsep : Separate table)
    (hx : ∀ entry ∈ table, entry.2 ≠ [] → Apart (c :: x) entry.2)
    (h : Text.substitute table t = front ++ c :: x ++ back) :
    ∃ front₀ w back₀, t = front₀ ++ c :: w ++ back₀ ∧ Spread (removed table) x w ∧
      (∀ entry ∈ table, ¬entry.1 <+: c :: (w ++ back₀)) ∧
      Text.substitute table front₀ = front ∧ Text.substitute table back₀ = back := by
  obtain ⟨parts, hparts, rfl⟩ := exists_divided hsep t
  rw [List.append_assoc] at h
  induction hparts generalizing front with
  | nil => cases front <;> cases h
  | @phrase entry parts hentry hparts ih =>
      rw [source_cons, substitute_phrase hsep hentry] at h
      -- the replacement is over before the text begins
      have hahead : ∃ front', front = entry.2 ++ front' ∧
          Text.substitute table (source parts) = front' ++ (c :: x ++ back) := by
        rcases List.append_eq_append_iff.1 h with hahead | ⟨s, hs, hrest⟩
        · exact hahead
        · obtain rfl | hne := eq_or_ne s []
          · exact ⟨[], by simp [hs], hrest.symm⟩
          · have hagree : Agree s (c :: x) :=
              agree_of_prefixes (hrest ▸ List.prefix_append s _) (List.prefix_append _ back)
            have hreplaced : entry.2 ≠ [] := by simp [hs, hne]
            exfalso
            apply (hx entry hentry hreplaced).2
            exact clash_of_suffix (hs ▸ List.suffix_append front s) hne hagree
      obtain ⟨front', rfl, hrest⟩ := hahead
      obtain ⟨front₀, w, back₀, hsource, hspread, hfree, rfl, hback⟩ := ih hrest
      refine ⟨entry.1 ++ front₀, w, back₀, ?_, hspread, hfree, ?_, hback⟩
      · rw [source_cons, hsource]
        simp only [List.append_assoc]
      · exact substitute_phrase hsep hentry front₀
  | @kept d parts hfree hparts ih =>
      rw [source_kept, substitute_kept hfree] at h
      cases front with
      | nil =>
          obtain ⟨rfl, htail⟩ := List.cons.inj h
          have hx' : ∀ entry ∈ table, entry.2 ≠ [] → ¬Clash x entry.2 :=
            fun entry hentry hne => not_clash_tail (hx entry hentry hne).1
          obtain ⟨w, rest, hrest, hspread, hback⟩ := exists_spread hsep hx' htail
          exact ⟨[], w, rest, by rw [source_kept, hrest]; rfl, hspread, hrest ▸ hfree, rfl, hback⟩
      | cons e front =>
          obtain ⟨rfl, htail⟩ := List.cons.inj h
          obtain ⟨front₀, w, back₀, hsource, hspread, hfree', rfl, hback⟩ := ih htail
          refine ⟨d :: front₀, w, back₀, ?_, hspread, hfree', ?_, hback⟩
          · rw [source_kept, hsource]
            rfl
          · apply substitute_kept
            intro entry hentry hbegins
            apply hfree entry hentry
            rw [hsource, List.append_assoc, ← List.cons_append]
            exact hbegins.trans (List.prefix_append _ _)

end Datapack.Proofs.Origins
