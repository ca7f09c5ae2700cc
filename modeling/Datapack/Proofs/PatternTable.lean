import Datapack.Proofs.Backtracking
import Datapack.Proofs.RuleForms

namespace Datapack.Proofs.PatternTable

open Runs Statement Grammar RuleForms Backtracking

structure Entry where
  pattern : List Item
  build : List Text → Statement

def Entry.rule (entry : Entry) : Rule := fun t =>
  (match? entry.pattern t).map (fun xs => entry.build (groups entry.pattern xs))

def isDot (c : Char) : Bool := c ≠ '\n'

def part (kept : List Text) (i : Nat) : Text := kept.getD i []

def headerEntry : Entry where
  pattern := [.word "function".toList, .many isBlank, .group (.many isNameChar), .any isBlank,
    .word ['('], .any isDot, .word ['=', '>'], .any isBlank, .many isNameChar, .word [')']]
  build kept := .header (part kept 0)

def declareEntry : Entry where
  pattern := [.word "var".toList, .many isBlank, .group (.many isNameChar), .any isBlank,
    .word ['='], .any isBlank, .group (.any isDot)]
  build kept := .declare (part kept 0) (part kept 1)

def sayEntry : Entry where
  pattern := [.word "say".toList, .many isBlank, .word ['"'], .group (.any isDot), .word ['"'],
    .any isBlank]
  build kept := .say (part kept 0)

def executeEntry : Entry where
  pattern := [.word "execute".toList, .any isBlank, .word ['(', '=', '>', '{'],
    .group (.any isDot), .word ['}', ','], .any isBlank, .word ['{'], .group (.any isDot),
    .word ['}', ')']]
  build kept := .execute (Line.trim (part kept 0)) (Line.trim (part kept 1))

def commandEntry : Entry where
  pattern := [.group (.many isNameChar), .many isBlank, .group (.any isDot)]
  build kept := .command (part kept 0) (part kept 1)

def closeEntry : Entry where
  pattern := [.word "end".toList]
  build _ := .close

def table : List Entry :=
  [headerEntry, declareEntry, sayEntry, executeEntry, commandEntry, closeEntry]

theorem dots_iff {t : Text} : (∀ c ∈ t, isDot c = true) ↔ '\n' ∉ t := by
  simp only [isDot, decide_eq_true_eq]
  exact ⟨fun h hm => h _ hm rfl, fun h c hc he => h (he ▸ hc)⟩

theorem rule_eq {entry : Entry} {rule : Rule}
    (hsound : ∀ t xs, match? entry.pattern t = some xs →
      rule t = some (entry.build (groups entry.pattern xs)))
    (hcomplete : ∀ t s, rule t = some s → ∃ xs, Fits entry.pattern xs t) :
    entry.rule = rule := by
  funext t
  cases hm : match? entry.pattern t with
  | some xs => simp [Entry.rule, hm, hsound t xs hm]
  | none =>
      cases hr : rule t with
      | none => simp [Entry.rule, hm]
      | some s =>
          obtain ⟨xs, hfits⟩ := hcomplete t s hr
          obtain ⟨ys, hys⟩ := exists_match? hfits
          rw [hm] at hys
          cases hys

theorem headerEntry_rule : headerEntry.rule = headerRule := by
  apply rule_eq
  · intro t xs hm
    obtain ⟨hfits, rfl⟩ := (match?_prefers hm).1
    rcases hfits with _ | ⟨rfl, _ | ⟨⟨hne, hgap⟩, _ | ⟨hname, _ | ⟨hblanks, _ | ⟨rfl,
      _ | ⟨hparams, _ | ⟨rfl, _ | ⟨hblanks', _ | ⟨htype, _ | ⟨rfl, ⟨⟩⟩⟩⟩⟩⟩⟩⟩⟩⟩⟩
    exact headerRule_eq_some_iff.2 ⟨_, rfl, _, _, _, _, _, hgap, hne, ⟨hname.2, hname.1⟩,
      hblanks, dots_iff.1 hparams, hblanks', ⟨htype.2, htype.1⟩, by simp [groups, part, headerEntry]⟩
  · intro t s hr
    obtain ⟨name, -, gap, blanks, parameters, blanks', type, hgap, hne, hname, hblanks, hparams,
      hblanks', htype, rfl⟩ := headerRule_eq_some_iff.1 hr
    exact ⟨["function".toList, gap, name, blanks, ['('], parameters, ['=', '>'], blanks', type,
      [')']], .cons rfl (.cons ⟨hne, hgap⟩ (.cons ⟨hname.2, hname.1⟩ (.cons hblanks (.cons rfl
        (.cons (dots_iff.2 hparams) (.cons rfl (.cons hblanks' (.cons ⟨htype.2, htype.1⟩
          (.cons rfl .nil))))))))), by simp⟩

/-- No match leaves a character to its last part that the run before it could
have taken. -/
theorem last_run_maximal (front : List Text) (run t : Text) (c : Char) :
    ¬(front ++ [run ++ [c], t] = front ++ [run, c :: t] ∨
      Prefers (front ++ [run, c :: t]) (front ++ [run ++ [c], t])) := by
  induction front with
  | nil => simp [Prefers]
  | cons x front ih => simpa [Prefers] using ih

theorem declareEntry_rule : declareEntry.rule = declareRule := by
  apply rule_eq
  · intro t xs hm
    obtain ⟨⟨hfits, rfl⟩, hbest⟩ := match?_prefers hm
    rcases hfits with _ | ⟨rfl, _ | ⟨⟨hne, hgap⟩, _ | ⟨hname, _ | ⟨hblanks, _ | ⟨rfl,
      _ | ⟨hblanks', _ | ⟨hvalue, ⟨⟩⟩⟩⟩⟩⟩⟩⟩
    rename_i gap name blanks blanks' value
    -- a reading with a blank at the front of the value is not the greedy one
    have hstop : StopsAt isBlank value := by
      cases value with
      | nil => exact stopsAt_nil
      | cons c value =>
          refine stopsAt_cons.2 (Bool.eq_false_iff.2 fun hc => ?_)
          have hlonger : ∀ d ∈ blanks' ++ [c], isBlank d = true :=
            List.forall_mem_append.2 ⟨hblanks', by simpa using hc⟩
          exact last_run_maximal ["var".toList, gap, name, blanks, ['=']] blanks' value c
            (hbest _ ⟨.cons rfl (.cons ⟨hne, hgap⟩ (.cons hname (.cons hblanks (.cons rfl
              (.cons hlonger (.cons (List.forall_mem_cons.1 hvalue).2 .nil)))))), by simp⟩)
    exact declareRule_eq_some_iff.2 ⟨_, _, rfl, _, _, _, hgap, hne, ⟨hname.2, hname.1⟩, hblanks,
      hblanks', dots_iff.1 hvalue, hstop, by simp [groups, part, declareEntry]⟩
  · intro t s hr
    obtain ⟨name, value, -, gap, blanks, blanks', hgap, hne, hname, hblanks, hblanks', hvalue, -,
      rfl⟩ := declareRule_eq_some_iff.1 hr
    exact ⟨["var".toList, gap, name, blanks, ['='], blanks', value],
      .cons rfl (.cons ⟨hne, hgap⟩ (.cons ⟨hname.2, hname.1⟩ (.cons hblanks (.cons rfl
        (.cons hblanks' (.cons (dots_iff.2 hvalue) .nil)))))), by simp⟩

theorem sayEntry_rule : sayEntry.rule = sayRule := by
  apply rule_eq
  · intro t xs hm
    obtain ⟨hfits, rfl⟩ := (match?_prefers hm).1
    rcases hfits with _ | ⟨rfl, _ | ⟨⟨hne, hgap⟩, _ | ⟨rfl, _ | ⟨hmessage, _ | ⟨rfl,
      _ | ⟨hblanks, ⟨⟩⟩⟩⟩⟩⟩⟩
    exact sayRule_eq_some_iff.2 ⟨_, rfl, _, _, hgap, hne, dots_iff.1 hmessage, hblanks,
      by simp [groups, part, sayEntry]⟩
  · intro t s hr
    obtain ⟨message, -, gap, blanks, hgap, hne, hmessage, hblanks, rfl⟩ :=
      sayRule_eq_some_iff.1 hr
    exact ⟨["say".toList, gap, ['"'], message, ['"'], blanks],
      .cons rfl (.cons ⟨hne, hgap⟩ (.cons rfl (.cons (dots_iff.2 hmessage) (.cons rfl
        (.cons hblanks .nil))))), by simp⟩

theorem commandEntry_rule : commandEntry.rule = commandRule := by
  apply rule_eq
  · intro t xs hm
    obtain ⟨⟨hfits, rfl⟩, hbest⟩ := match?_prefers hm
    rcases hfits with _ | ⟨hword, _ | ⟨⟨hne, hgap⟩, _ | ⟨hrest, ⟨⟩⟩⟩⟩
    rename_i word gap rest
    have hstop : StopsAt isBlank rest := by
      cases rest with
      | nil => exact stopsAt_nil
      | cons c rest =>
          refine stopsAt_cons.2 (Bool.eq_false_iff.2 fun hc => ?_)
          have hlonger : ∀ d ∈ gap ++ [c], isBlank d = true :=
            List.forall_mem_append.2 ⟨hgap, by simpa using hc⟩
          exact last_run_maximal [word] gap rest c
            (hbest _ ⟨.cons hword (.cons ⟨by simp, hlonger⟩
              (.cons (List.forall_mem_cons.1 hrest).2 .nil)), by simp⟩)
    exact commandRule_eq_some_iff.2 ⟨_, _, rfl, _, ⟨hword.2, hword.1⟩, hgap, hne,
      dots_iff.1 hrest, hstop, by simp [groups, part, commandEntry]⟩
  · intro t s hr
    obtain ⟨word, rest, -, gap, hword, hgap, hne, hrest, -, rfl⟩ := commandRule_eq_some_iff.1 hr
    exact ⟨[word, gap, rest], .cons ⟨hword.2, hword.1⟩ (.cons ⟨hne, hgap⟩
      (.cons (dots_iff.2 hrest) .nil)), by simp⟩

theorem closeEntry_rule : closeEntry.rule = closeRule := by
  apply rule_eq
  · intro t xs hm
    obtain ⟨hfits, rfl⟩ := (match?_prefers hm).1
    rcases hfits with _ | ⟨rfl, ⟨⟩⟩
    exact closeRule_eq_some_iff.2 ⟨rfl, by simp⟩
  · intro t s hr
    obtain ⟨-, rfl⟩ := closeRule_eq_some_iff.1 hr
    exact ⟨["end".toList], .cons rfl .nil, by simp⟩

theorem executeEntry_rule : executeEntry.rule = executeRule := by
  apply rule_eq
  · intro t xs hm
    obtain ⟨⟨hfits, rfl⟩, hbest⟩ := match?_prefers hm
    rcases hfits with _ | ⟨rfl, _ | ⟨hblanks, _ | ⟨rfl, _ | ⟨hconditions, _ | ⟨rfl,
      _ | ⟨hblanks', _ | ⟨rfl, _ | ⟨haction, _ | ⟨rfl, ⟨⟩⟩⟩⟩⟩⟩⟩⟩⟩⟩
    rename_i blanks conditions blanks' action
    have htext : ["execute".toList, blanks, ['(', '=', '>', '{'], conditions, ['}', ','], blanks',
        ['{'], action, ['}', ')']].flatten = "execute".toList ++ blanks ++ ['(', '=', '>', '{'] ++
          (conditions ++ ['}', ','] ++ blanks' ++ ['{'] ++ action) ++ ['}', ')'] := by simp
    refine executeRule_eq_some_iff.2 ⟨conditions, action, rfl, ⟨blanks, _, hblanks,
      ⟨blanks', hblanks', dots_iff.1 hconditions, dots_iff.1 haction, rfl⟩, htext⟩, ?_⟩
    rintro conditions' action' ⟨b, _, hb, ⟨b', hb', hconditions', haction', rfl⟩, ht⟩
    obtain ⟨rfl, -⟩ := frame_unique hblanks hb (htext.symm.trans ht)
    have hother := hbest ["execute".toList, blanks, ['(', '=', '>', '{'], conditions', ['}', ','],
      b', ['{'], action', ['}', ')']] ⟨.cons rfl (.cons hblanks (.cons rfl
        (.cons (dots_iff.2 hconditions') (.cons rfl (.cons hb' (.cons rfl
          (.cons (dots_iff.2 haction') (.cons rfl .nil)))))))), by rw [ht]; simp⟩
    rcases hother with heq | hp
    · cases heq
      exact Nat.le_refl _
    · simp only [Prefers, Nat.lt_irrefl, true_and, false_or] at hp
      rcases hp with hlt | ⟨rfl, -⟩
      · exact Nat.le_of_lt hlt
      · exact Nat.le_refl _
  · intro t s hr
    obtain ⟨conditions, action, -, ⟨blanks, _, hblanks, ⟨blanks', hblanks', hconditions, haction,
      rfl⟩, rfl⟩, -⟩ := executeRule_eq_some_iff.1 hr
    exact ⟨["execute".toList, blanks, ['(', '=', '>', '{'], conditions, ['}', ','], blanks', ['{'],
      action, ['}', ')']], .cons rfl (.cons hblanks (.cons rfl (.cons (dots_iff.2 hconditions)
        (.cons rfl (.cons hblanks' (.cons rfl (.cons (dots_iff.2 haction)
          (.cons rfl .nil)))))))), by simp⟩

theorem table_rules : table.map Entry.rule = rules := by
  simp only [table, List.map_cons, List.map_nil, headerEntry_rule, declareEntry_rule,
    sayEntry_rule, executeEntry_rule, commandEntry_rule, closeEntry_rule, rules]

/-- A text is read as the one statement of which it is a written form, with the
sections of a conditional command divided in one way only. This is also what
the patterns of the table give when the first match decides. -/
theorem ofText_reads_grammar (t : Text) :
    (∀ s, ofText t = s ↔ Written s t) ∧
    (∀ s s', Written s t → Written s' t → s = s') ∧
    (∀ conditions action conditions' action', LongestSections conditions action t →
      LongestSections conditions' action' t → conditions = conditions' ∧ action = action') ∧
    ofText t = ofRules (table.map Entry.rule) t := by
  refine ⟨fun s => ofText_eq_iff_written, fun s s' h h' => ?_, ?_, by rw [table_rules]; rfl⟩
  · rw [← ofText_of_written h, ofText_of_written h']
  · rintro c a c' a' ⟨hs, hmax⟩ ⟨hs', hmax'⟩
    have hlen : c.length = c'.length := Nat.le_antisymm (hmax' _ _ hs) (hmax _ _ hs')
    obtain ⟨blanks, inner, hblanks, hsplit, rfl⟩ := hs
    obtain ⟨blanks', inner', hblanks', hsplit', ht⟩ := hs'
    obtain ⟨-, rfl⟩ := frame_unique hblanks hblanks' ht
    exact split_unique hsplit hsplit' hlen

end Datapack.Proofs.PatternTable
