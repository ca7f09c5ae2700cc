import Datapack.Conditions
import Datapack.Proofs.Origins

namespace Datapack.Proofs.SelectorPass

open Phrases Divisions Origins

def pass : Text → Text
  | [] => []
  | c :: t =>
      if "Player.all".toList <+: c :: t then "@a".toList ++ pass ((c :: t).drop 10)
      else if " at current".toList <+: c :: t then pass ((c :: t).drop 11)
      else c :: pass t
termination_by t => t.length
decreasing_by all_goals simp only [List.length_drop, List.length_cons]; omega

variable {c : Char} {x t front back front' back' : Text} {entry : Text × Text}
  {table : List (Text × Text)}

/-- A phrase that begins after another one has been replaced has begun before. -/
theorem begins_before {later : Text × Text} (hone : Separate [entry]) (hlater : later.1 ≠ [])
    (hnew : Apart entry.2 later.1) (h : later.1 <+: c :: Text.substitute [entry] t) :
    later.1 <+: c :: t := by
  rcases List.prefix_cons_iff.1 h with hempty | ⟨phrase, hphrase, back, hback⟩
  · exact absurd hempty hlater
  · rw [hphrase] at hnew ⊢
    have hkeep : entry.2 ≠ [] := hnew.ne_nil (List.cons_ne_nil c phrase)
    have hclash : ¬Clash phrase entry.2 := not_clash_tail hnew.2
    obtain ⟨rest, rfl, -⟩ :=
      exists_same hone (by simpa using hkeep) (by simpa using hclash) hback.symm
    exact List.cons_prefix_cons.2 ⟨rfl, List.prefix_append phrase rest⟩

/-- Replacing one phrase ahead of the others makes no difference if what
replaces it clashes with none of them. -/
theorem substitute_cons (hsep : Separate (entry :: table))
    (hnew : ∀ later ∈ table, Apart entry.2 later.1) (t : Text) :
    Text.substitute table (Text.substitute [entry] t) = Text.substitute (entry :: table) t := by
  have hone : Separate [entry] := hsep.sublist (by simp)
  have hlater : Separate table := hsep.sublist (List.sublist_cons_self entry table)
  obtain ⟨parts, hparts, rfl⟩ := exists_divided hsep t
  induction hparts with
  | nil => rfl
  | @phrase part parts hpart hparts ih =>
      rw [source_cons, substitute_phrase hsep hpart]
      rcases List.mem_cons.1 hpart with rfl | hmem
      · rw [substitute_phrase hone (by simp),
          substitute_apart (fun later hmem => (hnew later hmem).1), ih]
      · have hne : part ≠ entry := by
          rintro rfl
          exact (List.pairwise_cons.1 hsep.distinct).1 part hmem (.inl List.prefix_rfl)
        have hclash : ∀ entry' ∈ [entry], ¬Clash part.1 entry'.1 := by
          intro entry' hentry'
          rw [List.mem_singleton.1 hentry']
          exact hsep.not_clash hpart (by simp) hne
        rw [substitute_apart hclash, substitute_phrase hlater hmem, ih]
  | @kept c parts hfree hparts ih =>
      rw [source_kept, substitute_kept hfree]
      have hcopied : Text.substitute [entry] (c :: source parts) =
          c :: Text.substitute [entry] (source parts) :=
        substitute_kept (fun entry' hentry' => hfree entry' (by simp_all))
      rw [hcopied, substitute_kept, ih]
      intro later hmem hbegins
      apply hfree later (List.mem_cons_of_mem entry hmem)
      exact begins_before hone (hlater.ne_nil later hmem) (hnew later hmem) hbegins

theorem substitute_nil (t : Text) : Text.substitute [] t = t := by
  induction t with
  | nil => rfl
  | cons c t ih => rw [substitute_kept (by simp), ih]

theorem substitute_successively (hsep : Separate table)
    (hnew : table.Pairwise (fun entry later => Apart entry.2 later.1)) (t : Text) :
    table.foldl (fun t entry => t.substitute [entry]) t = t.substitute table := by
  induction table generalizing t with
  | nil => exact (substitute_nil t).symm
  | cons entry table ih =>
      obtain ⟨hentry, hrest⟩ := List.pairwise_cons.1 hnew
      rw [List.foldl_cons, ih (hsep.sublist (List.sublist_cons_self entry table)) hrest,
        substitute_cons hsep hentry]

theorem substitute_around_apart (hsep : Separate table) (hx : ∀ entry ∈ table, Apart x entry.1)
    (front back : Text) :
    Text.substitute table (front ++ x ++ back) =
      Text.substitute table front ++ x ++ Text.substitute table back := by
  have hseam : Unreached table (x ++ back) :=
    unreached_append (fun entry hentry h => (hx entry hentry).2 (h.mono (List.tail_suffix _))) back
  rw [List.append_assoc, substitute_append hsep hseam,
    substitute_apart (fun entry hentry => (hx entry hentry).1), List.append_assoc]

theorem eq_of_substitute_eq (hsep : Separate table) (hx : ∀ entry ∈ table, Apart x entry.1)
    (hself : ¬Clash x.tail x) (hne : x ≠ []) (h : front ++ x ++ back = front' ++ x ++ back')
    (hle : front.length ≤ front'.length)
    (himage : Text.substitute table front = Text.substitute table front') : front = front' := by
  rcases occurrence_cases hself h hle with rfl | ⟨z, rfl⟩
  · rfl
  · rw [substitute_around_apart hsep hx] at himage
    have hlength := congrArg List.length himage
    have hpos := List.length_pos_of_ne_nil hne
    simp only [List.length_append] at hlength
    omega

/-- The occurrences of a text before and after a pass that leaves it alone are
the same, each in the place to which its front is brought. -/
theorem substitute_eq_append_iff (hsep : Separate table)
    (hx : ∀ entry ∈ table, Apart x entry.1) (hx' : ∀ entry ∈ table, Apart x entry.2)
    (hself : ¬Clash x.tail x) (hne : x ≠ []) :
    Text.substitute table t = front ++ x ++ back ↔
      ∃! cut : Text × Text, t = cut.1 ++ x ++ cut.2 ∧ Text.substitute table cut.1 = front ∧
        Text.substitute table cut.2 = back := by
  constructor
  · intro h
    obtain ⟨c, y, rfl⟩ := List.exists_cons_of_ne_nil hne
    have hkeep : ∀ entry ∈ table, entry.2 ≠ [] :=
      fun entry hentry => (hx' entry hentry).symm.ne_nil hne
    obtain ⟨front₀, w, back₀, rfl, hspread, -, hfront, hback⟩ :=
      exists_origin hsep (fun entry hentry _ => hx' entry hentry) h
    rw [removed_eq_nil hkeep] at hspread
    obtain rfl := eq_of_spread_nil hspread
    refine ⟨(front₀, back₀), ⟨rfl, hfront, hback⟩, ?_⟩
    rintro ⟨front₁, back₁⟩ ⟨hcut, hfront₁, -⟩
    have hsame : front₁ = front₀ := by
      rcases Nat.le_total front₁.length front₀.length with hle | hle
      · exact eq_of_substitute_eq hsep hx hself hne hcut.symm hle (hfront₁.trans hfront.symm)
      · exact (eq_of_substitute_eq hsep hx hself hne hcut hle (hfront.trans hfront₁.symm)).symm
    rw [hsame] at hcut ⊢
    rw [List.append_cancel_left hcut]
  · rintro ⟨cut, ⟨rfl, rfl, rfl⟩, -⟩
    exact substitute_around_apart hsep hx cut.1 cut.2

theorem separate_vocabulary : Separate Conditions.vocabulary where
  ne_nil := by decide
  distinct := by decide
  disjoint := by decide

theorem toSelectors_eq_substitute (t : Text) :
    Conditions.toSelectors t = t.substitute Conditions.vocabulary :=
  substitute_successively separate_vocabulary (by decide) t

theorem substitute_eq_pass (t : Text) : t.substitute Conditions.vocabulary = pass t := by
  fun_induction pass t with
  | case1 => rfl
  | case2 c t hphrase ih =>
      obtain ⟨rest, hrest⟩ := hphrase
      have hselector : ("Player.all".toList, "@a".toList) ∈ Conditions.vocabulary := by
        simp [Conditions.vocabulary]
      rw [← ih, ← hrest, substitute_phrase separate_vocabulary hselector]
      rfl
  | case3 c t hselector hphrase ih =>
      obtain ⟨rest, hrest⟩ := hphrase
      have hqualifier : (" at current".toList, []) ∈ Conditions.vocabulary := by
        simp [Conditions.vocabulary]
      rw [← ih, ← hrest, substitute_phrase separate_vocabulary hqualifier]
      rfl
  | case4 c t hselector hqualifier ih =>
      rw [substitute_kept, ih]
      intro entry hentry
      simp only [Conditions.vocabulary, List.mem_cons, List.not_mem_nil, or_false] at hentry
      rcases hentry with rfl | rfl
      · exact hselector
      · exact hqualifier

/-- Rewriting one phrase after the other is one pass for both. The qualifier
stands in the same places before and after selectors are replaced, and the text
is made of the occurrences of phrases, each of which is replaced, and of
characters that are kept. -/
theorem rewriting_is_one_pass (t : Text) :
    let qualifier : Text := " at current".toList
    let select (t : Text) : Text := t.substitute [("Player.all".toList, "@a".toList)]
    Conditions.toSelectors t = pass t ∧
    (∀ front back, select t = front ++ qualifier ++ back ↔
      ∃! cut : Text × Text, t = cut.1 ++ qualifier ++ cut.2 ∧ select cut.1 = front ∧
        select cut.2 = back) ∧
    ∃ parts, Divided Conditions.vocabulary parts ∧ source parts = t ∧
      target parts = Conditions.toSelectors t ∧
      ∀ entry ∈ Conditions.vocabulary, ∀ front back, t = front ++ entry.1 ++ back ↔
        ∃! cut : List (Text × Text) × List (Text × Text), parts = cut.1 ++ entry :: cut.2 ∧
          source cut.1 = front ∧ source cut.2 = back := by
  intro qualifier select
  have hone : Separate [("Player.all".toList, "@a".toList)] :=
    separate_vocabulary.sublist (by simp [Conditions.vocabulary])
  obtain ⟨parts, hparts, rfl⟩ := exists_divided separate_vocabulary t
  refine ⟨?_, fun front back => ?_, parts, hparts, rfl, ?_, fun entry hentry front back => ?_⟩
  · rw [toSelectors_eq_substitute, substitute_eq_pass]
  · apply substitute_eq_append_iff hone <;> decide
  · rw [toSelectors_eq_substitute, substitute_source separate_vocabulary hparts]
  · exact occurrence_iff separate_vocabulary hparts hentry

end Datapack.Proofs.SelectorPass
