import Datapack.Proofs.Margins
import Datapack.Proofs.RuleForms

namespace Datapack.Proofs.SectionBounds

open Runs Grammar RuleForms LineEnds Margins Statement

variable {c : Char} {t rest first second first' second' blanks front back : Text}

def LastSplit (first second t : Text) : Prop :=
  Split first second t ∧ ∀ first' second', Split first' second' t → first'.length ≤ first.length

def parted (first blanks second : Text) : Text := first ++ ['}', ','] ++ blanks ++ ['{'] ++ second

def executeLine (blanks inner : Text) : Text :=
  "execute".toList ++ blanks ++ ['(', '=', '>', '{'] ++ inner ++ ['}', ')']

theorem exists_lastSplit (h : Split first second t) :
    ∃ first' second', LastSplit first' second' t := by
  obtain ⟨first', second', hs, -⟩ := sections?_longest h
  exact ⟨first', second', sections?_eq_some_iff.1 hs⟩

theorem rest_of_not_mem {front before after : Text} (hfront : c ∉ front)
    (h : front ++ rest = before ++ c :: after) :
    ∃ between, before = front ++ between ∧ rest = between ++ c :: after := by
  rcases List.append_eq_append_iff.1 h with ⟨between, rfl, hrest⟩ | ⟨between, rfl, hrest⟩
  · exact ⟨between, rfl, hrest⟩
  · cases between with
    | nil => exact ⟨[], by simp, hrest.symm⟩
    | cons d between =>
        obtain ⟨rfl, -⟩ := List.cons.inj hrest
        exact absurd (by simp) hfront

/-- A boundary after the first one stands within the second payload. -/
theorem split_later (h : Split first second t) (h' : Split first' second' t) :
    first'.length ≤ first.length ∨ ∃ between, Split between second' second ∧
      first'.length + second.length = t.length + between.length := by
  obtain ⟨blanks, hblanks, -, -, rfl⟩ := h
  obtain ⟨blanks', hblanks', hfirst', hsecond', heq⟩ := h'
  -- no boundary begins within another one
  let sign := ',' :: (blanks ++ ['{'])
  have hsign : '}' ∉ sign := by
    have hblank : '}' ∉ blanks := fun hm => absurd (hblanks _ hm) (by decide)
    simp [sign, hblank]
  have hcut : first ++ '}' :: (sign ++ second) =
      first' ++ '}' :: (',' :: (blanks' ++ '{' :: second')) := by simpa [sign] using heq
  rcases List.append_eq_append_iff.1 hcut with ⟨x, rfl, hrest⟩ | ⟨x, rfl, -⟩
  · cases x with
    | nil => simp
    | cons d x =>
        obtain ⟨rfl, hlater⟩ : '}' = d ∧
            sign ++ second = x ++ '}' :: (',' :: (blanks' ++ '{' :: second')) := by
          simpa using hrest
        obtain ⟨y, rfl, hsecond⟩ := rest_of_not_mem hsign hlater
        refine .inr ⟨y, ⟨blanks', hblanks', ?_, hsecond', by simp [hsecond]⟩, ?_⟩
        · exact fun hm => hfirst' (by simp [hm])
        · simp only [sign, List.length_append, List.length_cons, List.length_nil]
          omega
  · simp

theorem lastSplit_of_bare (h : Split first second t)
    (hbare : ∀ front back, ¬Split front back second) : LastSplit first second t := by
  refine ⟨h, fun first' second' h' => ?_⟩
  exact (split_later h h').resolve_right fun ⟨front, hfront, _⟩ => hbare front second' hfront

/-- The last boundary of the second payload is the last one of all. -/
theorem lastSplit_within (hblanks : IsBlanks blanks) (hfeed : '\n' ∉ blanks) (hfirst : '\n' ∉ first)
    (hsecond : '\n' ∉ second) (h : LastSplit front back second) :
    LastSplit (parted first blanks front) back (parted first blanks second) := by
  obtain ⟨⟨blanks', hblanks', hfront, hback, heq⟩, hmax⟩ := h
  have hwhole : Split first second (parted first blanks second) :=
    ⟨blanks, hblanks, hfirst, hsecond, rfl⟩
  refine ⟨⟨blanks', hblanks', ?_, hback, by simp [parted, heq]⟩, fun first' second' h' => ?_⟩
  · simp [parted, hfirst, hfeed, hfront]
  · have hlength : (parted first blanks second).length + front.length =
        (parted first blanks front).length + second.length := by
      simp only [parted, List.length_append]
      omega
    rcases split_later hwhole h' with hle | ⟨between, hbetween, hsum⟩
    · simp only [parted, List.length_append]
      omega
    · have hle := hmax between second' hbetween
      omega

theorem ofText_lastSplit (hblanks : IsBlanks blanks) (h : LastSplit first second t) :
    ofText (executeLine blanks t) = .execute (Line.trim first) (Line.trim second) := by
  refine ofText_of_keyword (.execute ⟨⟨blanks, t, hblanks, h.1, rfl⟩, ?_⟩)
  rintro first' second' ⟨blanks', inner, hblanks', hsplit, heq⟩
  obtain ⟨-, rfl⟩ := frame_unique hblanks hblanks' heq
  exact h.2 first' second' hsplit

theorem ofText_execute {conditions action blanks blanks' : Text} (hblanks : IsBlanks blanks)
    (hblanks' : IsBlanks blanks') (hconditions : IsBreakFree conditions)
    (haction : IsBreakFree action) (hbare : ∀ first second, ¬Split first second action) :
    ofText ("execute".toList ++ blanks ++ ['(', '=', '>', '{'] ++
      (conditions ++ ['}', ','] ++ blanks' ++ ['{'] ++ action) ++ ['}', ')']) =
      .execute (Line.trim conditions) (Line.trim action) := by
  have hsplit : Split conditions action
      (conditions ++ ['}', ','] ++ blanks' ++ ['{'] ++ action) :=
    ⟨blanks', hblanks', hconditions.newline_not_mem, haction.newline_not_mem, rfl⟩
  exact ofText_lastSplit hblanks (lastSplit_of_bare hsplit hbare)

theorem mem_trim (hc : isMargin c = false) (h : c ∈ t) : c ∈ Line.trim t := by
  obtain ⟨front, back, rfl⟩ := List.append_of_mem h
  rw [trim_append_cons hc]
  simp

variable {conditions action : Text}

/-- Conditions without a closing brace are kept apart from the action as long as
the action holds no boundary itself. Otherwise they go on to the last boundary
in the action, and only what follows it is run. -/
theorem conditions_end_at_last_boundary (hconditions : '\n' ∉ conditions)
    (hbrace : '}' ∉ conditions) (hblanks : IsBlanks blanks) (hfeed : '\n' ∉ blanks)
    (haction : '\n' ∉ action) :
    let line := executeLine [' '] (parted conditions blanks action)
    let kept := Statement.execute (Line.trim conditions) (Line.trim action)
    (ofText line = kept ↔ ∀ front back, ¬Split front back action) ∧
    ((∀ front back, ¬Split front back action) → (ofText line).command? =
      some ("execute ".toList ++ Conditions.toSelectors (Line.trim conditions) ++ " run ".toList ++
        Line.trim action)) ∧
    ∀ front back, LastSplit front back action →
      ofText line = .execute (Line.trim (parted conditions blanks front)) (Line.trim back) := by
  intro line kept
  have hspace : IsBlanks [' '] := by simp [IsBlanks, isBlank]
  have hbare (h : ∀ front back, ¬Split front back action) : ofText line = kept :=
    ofText_lastSplit hspace
      (lastSplit_of_bare ⟨blanks, hblanks, hconditions, haction, rfl⟩ h)
  have hlast (front back : Text) (h : LastSplit front back action) :
      ofText line = .execute (Line.trim (parted conditions blanks front)) (Line.trim back) :=
    ofText_lastSplit hspace (lastSplit_within hblanks hfeed hconditions haction h)
  refine ⟨⟨fun hkept front back hsplit => ?_, hbare⟩, fun h => ?_, hlast⟩
  · obtain ⟨front', back', h⟩ := exists_lastSplit hsplit
    have hsame : Line.trim (parted conditions blanks front') = Line.trim conditions := by
      have hexecute := (hlast front' back' h).symm.trans hkept
      injection hexecute
    -- the brace of the first boundary has become part of the conditions
    have hmem : '}' ∈ Line.trim (parted conditions blanks front') :=
      mem_trim (by decide) (by simp [parted])
    rw [hsame] at hmem
    exact hbrace (mem_of_mem_strip hmem)
  · rw [hbare h]
    rfl

/-- Braces in an action do no harm as long as no comma follows a closing one. -/
theorem braces_in_action_kept :
    let conditions : Text := "as Player.all ".toList
    let action : Text := "summon pig ~ ~ ~ \x7bTags:[\"a\"],Pose:\x7bHead:[0f]\x7d\x7d".toList
    '\n' ∉ conditions ∧ '}' ∉ conditions ∧ IsBlanks ['\t'] ∧ '\n' ∉ action ∧
      (∀ front back, ¬Split front back action) ∧
      ofText (executeLine [' '] (parted conditions ['\t'] action)) =
        .execute "as Player.all".toList action := by
  intro conditions action
  have hconditions : '\n' ∉ conditions := by decide
  have hbrace : '}' ∉ conditions := by decide
  have hblanks : IsBlanks ['\t'] := by simp [IsBlanks, isBlank]
  have haction : '\n' ∉ action := by decide
  have hsplit : ∀ front back, ¬Split front back action := by
    intro front back h
    obtain ⟨first', second', hs, -⟩ := sections?_longest h
    have hnone : sections? action = none := by decide +kernel
    cases hnone.symm.trans hs
  obtain ⟨hkept, -, -⟩ :=
    conditions_end_at_last_boundary hconditions hbrace hblanks (by decide) haction
  exact ⟨hconditions, hbrace, hblanks, haction, hsplit, hkept.2 hsplit⟩

/-- Two components of a list in an action stand on either side of a boundary, so
the first one is taken for a condition. -/
theorem component_list_divided :
    let conditions : Text := "as Player.all".toList
    let action : Text := "tellraw @s [\x7b\"text\":\"a\"\x7d,\x7b\"text\":\"b\"\x7d]".toList
    let line := executeLine [' '] (parted conditions [' '] action)
    IsBreakFree conditions ∧ '}' ∉ conditions ∧ IsBreakFree action ∧
      ofText line = .execute
        "as Player.all\x7d, \x7btellraw @s [\x7b\"text\":\"a\"".toList "\"text\":\"b\"\x7d]".toList ∧
      ofText line ≠ .execute (Line.trim conditions) (Line.trim action) := by
  intro conditions action line
  decide +kernel

end Datapack.Proofs.SectionBounds
