import Datapack.Proofs.RuleForms
import Mathlib.Data.List.Nodup
import Mathlib.Data.List.Pairwise

namespace Datapack.Proofs.RuleOrder

open Runs Statement Grammar RuleForms

variable {c : Char} {s : Statement} {t word rest : Text} {rule rule' : Rule} {order : List Rule}

def Exclusive (rule rule' : Rule) : Prop := ∀ t, rule t = none ∨ rule' t = none

def StartsWith (c : Char) (rule : Rule) : Prop := ∀ t s, rule t = some s → t.head? = some c

/-- The text is a command as well, and is taken for one wherever the command
rule comes first. -/
def Shadowed (rule : Rule) (t : Text) : Prop :=
  ∃ word rest, commandRule t = some (.command word rest) ∧
    ∀ order : List Rule, order.Perm rules → [commandRule, rule].Sublist order →
      ofRules order t = .command word rest ∧ ofRules order t ≠ ofText t

theorem startsWith_header : StartsWith 'f' headerRule := by
  intro t s h
  obtain ⟨name, rfl, hform⟩ := headerRule_eq_some_iff.1 h
  exact head?_of_keyword (.header hform)

theorem startsWith_declare : StartsWith 'v' declareRule := by
  intro t s h
  obtain ⟨name, value, rfl, hform⟩ := declareRule_eq_some_iff.1 h
  exact head?_of_keyword (.declare hform)

theorem startsWith_say : StartsWith 's' sayRule := by
  intro t s h
  obtain ⟨message, rfl, hform⟩ := sayRule_eq_some_iff.1 h
  exact head?_of_keyword (.say hform)

theorem startsWith_execute : StartsWith 'e' executeRule := by
  intro t s h
  obtain ⟨conditions, action, rfl, hform⟩ := executeRule_eq_some_iff.1 h
  exact head?_of_keyword (.execute hform)

theorem exclusive_of_startsWith {c' : Char} (h : StartsWith c rule) (h' : StartsWith c' rule')
    (hne : c ≠ c') : Exclusive rule rule' := by
  intro t
  cases hrule : rule t with
  | none => exact .inl rfl
  | some s =>
      right
      cases hrule' : rule' t with
      | none => rfl
      | some s' =>
          have hsame := (h t s hrule).symm.trans (h' t s' hrule')
          exact absurd (Option.some.inj hsame) hne

theorem exclusive_close (h : rule "end".toList = none) : Exclusive rule closeRule := by
  intro t
  by_cases hend : t = "end".toList
  · rw [hend]
    exact .inl h
  · exact .inr (if_neg hend)

theorem Exclusive.symm (h : Exclusive rule rule') : Exclusive rule' rule := fun t => (h t).symm

theorem Exclusive.eq_none (h : Exclusive rule rule') (hs : rule t = some s) : rule' t = none := by
  apply (h t).resolve_left
  rw [hs]
  exact Option.some_ne_none s

theorem exclusive_keywords : keywordRules.Pairwise Exclusive := by
  have hfv := exclusive_of_startsWith startsWith_header startsWith_declare (by decide)
  have hfs := exclusive_of_startsWith startsWith_header startsWith_say (by decide)
  have hfe := exclusive_of_startsWith startsWith_header startsWith_execute (by decide)
  have hvs := exclusive_of_startsWith startsWith_declare startsWith_say (by decide)
  have hve := exclusive_of_startsWith startsWith_declare startsWith_execute (by decide)
  have hse := exclusive_of_startsWith startsWith_say startsWith_execute (by decide)
  simp [keywordRules, hfv, hfs, hfe, hvs, hve, hse]

theorem exclusive_keyword_close (hrule : rule ∈ keywordRules) : Exclusive rule closeRule := by
  apply exclusive_close
  simp only [keywordRules, List.mem_cons, List.not_mem_nil, or_false] at hrule
  rcases hrule with rfl | rfl | rfl | rfl <;> decide

theorem keyword_rule_unique {s' : Statement} (hrule : rule ∈ keywordRules)
    (hrule' : rule' ∈ keywordRules) (hs : rule t = some s) (hs' : rule' t = some s') :
    rule = rule' := by
  by_contra hne
  have : Std.Symm Exclusive := ⟨fun _ _ h => h.symm⟩
  have hnone := (exclusive_keywords.forall hrule hrule' hne).eq_none hs
  rw [hs'] at hnone
  cases hnone

/-- No rule stands twice in the table, since each makes a statement of its own
out of the first of these texts that fits it. -/
theorem nodup_rules : rules.Nodup := by
  let texts : List Text := ["function f(=>v)".toList, "var v=".toList, "say \"\"".toList,
    "execute(=>\x7b\x7d,\x7b\x7d)".toList, "end".toList]
  exact List.Nodup.of_map (fun rule => texts.findSome? rule) (by decide)

theorem mem_rules_cases (h : rule ∈ rules) :
    rule ∈ keywordRules ∨ rule = commandRule ∨ rule = closeRule := by
  have hrules : rules = keywordRules ++ [commandRule, closeRule] := rfl
  simpa [hrules] using h

/-- In an order without repetitions a rule that comes before another one is
among those tried before it. -/
theorem mem_front {α : Type} {a b : α} {front back : List α} (hnodup : (front ++ b :: back).Nodup)
    (h : [a, b].Sublist (front ++ b :: back)) : a ∈ front := by
  have hnot : b ∉ back := (List.nodup_cons.1 (List.nodup_append.1 hnodup).2.1).1
  obtain ⟨x, y, hxy, hx, hy⟩ := List.sublist_append_iff.1 h
  cases x with
  | cons a' x =>
      obtain ⟨rfl, -⟩ := List.cons.inj hxy
      exact hx.subset List.mem_cons_self
  | nil =>
      obtain rfl : [a, b] = y := hxy
      have hback : [b].Sublist back := by
        cases hy with
        | cons _ hy => exact (List.sublist_cons_self a [b]).trans hy
        | cons_cons _ hy => exact hy
      exact absurd (hback.subset List.mem_cons_self) hnot

theorem keyword_not_command {word rest : Text} : ¬Keyword (.command word rest) t := by
  rintro ⟨⟩

/-- A keyword statement is read wherever its rule stands before the command
rule, and nothing else depends on the order. -/
theorem ofRules_reordered (hperm : order.Perm rules)
    (hbehind : ∀ rule ∈ keywordRules, [rule, commandRule].Sublist order) (t : Text) :
    ofRules order t = ofText t := by
  have hnodup : order.Nodup := hperm.nodup_iff.2 nodup_rules
  cases hfirst : order.findSome? (fun rule => rule t) with
  | none =>
      have hnone : rules.findSome? (fun rule => rule t) = none := by
        rw [List.findSome?_eq_none_iff] at hfirst ⊢
        exact fun rule hrule => hfirst rule (hperm.mem_iff.2 hrule)
      rw [ofText, ofRules, ofRules, hfirst, hnone]
  | some s =>
      rw [ofRules, hfirst, Option.getD_some]
      obtain ⟨front, rule, back, rfl, hs, hfront⟩ := List.findSome?_eq_some_iff.1 hfirst
      have hrule : rule ∈ rules := hperm.subset (by simp)
      symm
      rcases mem_rules_cases hrule with hkeyword | rfl | rfl
      · exact ofText_of_keyword (keyword_of_rule hkeyword hs)
      · obtain ⟨word, rest, rfl, hform⟩ := commandRule_eq_some_iff.1 hs
        apply ofText_of_written
        refine .command hform fun s' hkeyword => ?_
        -- a keyword rule that fits would have been tried before
        obtain ⟨rule, hrule, hs'⟩ := rule_of_keyword hkeyword
        have hnone := hfront rule (mem_front hnodup (hbehind rule hrule))
        rw [hs'] at hnone
        cases hnone
      · obtain ⟨rfl, rfl⟩ := closeRule_eq_some_iff.1 hs
        exact ofText_of_written .close

theorem shadowed_of_generic (hgeneric : Generic word rest t) (hrule : rule ∈ keywordRules)
    (hs : rule t = some s) : Shadowed rule t := by
  have hcommand : commandRule t = some (.command word rest) :=
    commandRule_eq_some_iff.2 ⟨word, rest, rfl, hgeneric⟩
  refine ⟨word, rest, hcommand, fun order hperm hbefore => ?_⟩
  have hnodup : order.Nodup := hperm.nodup_iff.2 nodup_rules
  have hread : ofRules order t = .command word rest := by
    cases hfirst : order.findSome? (fun rule => rule t) with
    | none =>
        have hnone := List.findSome?_eq_none_iff.1 hfirst commandRule (hbefore.subset (by simp))
        rw [hcommand] at hnone
        cases hnone
    | some s' =>
        rw [ofRules, hfirst, Option.getD_some]
        obtain ⟨front, rule', back, rfl, hs', hfront⟩ := List.findSome?_eq_some_iff.1 hfirst
        have hrule' : rule' ∈ rules := hperm.subset (by simp)
        rcases mem_rules_cases hrule' with hkeyword | rfl | rfl
        · -- the keyword rule is not tried before the command rule
          obtain rfl := keyword_rule_unique hkeyword hrule hs' hs
          have hnone := hfront commandRule (mem_front hnodup hbefore)
          rw [hcommand] at hnone
          cases hnone
        · exact Option.some.inj (hs'.symm.trans hcommand)
        · have hnone := (exclusive_keyword_close hrule).eq_none hs
          rw [hs'] at hnone
          cases hnone
  have hkeyword := keyword_of_rule hrule hs
  refine ⟨hread, fun hsame => ?_⟩
  rw [hread, ofText_of_keyword hkeyword] at hsame
  exact keyword_not_command (hsame ▸ hkeyword)

theorem exists_generic (hword : IsName word) (hc : isBlank c = true)
    (hfeed : '\n' ∉ word ++ c :: rest) : ∃ rest', Generic word rest' (word ++ c :: rest) := by
  have hgap : ∀ d ∈ c :: rest.takeWhile isBlank, isBlank d = true :=
    List.forall_mem_cons.2 ⟨hc, List.all_eq_true.1 List.all_takeWhile⟩
  have hrest : '\n' ∉ rest.dropWhile isBlank := by
    intro hm
    have hmem := (List.dropWhile_sublist isBlank).subset hm
    exact hfeed (by simp [hmem])
  exact ⟨rest.dropWhile isBlank, c :: rest.takeWhile isBlank, hword, hgap, by simp, hrest,
    stopsAt_dropWhile isBlank rest, by simp⟩

/-- Three of the keyword statements cannot do without a blank after the keyword. -/
theorem exists_blank (hrule : rule ∈ [headerRule, declareRule, sayRule]) (hs : rule t = some s) :
    ∃ word c rest, IsName word ∧ isBlank c = true ∧ t = word ++ c :: rest := by
  simp only [List.mem_cons, List.not_mem_nil, or_false] at hrule
  rcases hrule with rfl | rfl | rfl
  · obtain ⟨name, -, gap, _, _, _, _, hgap, hne, -, -, -, -, -, rfl⟩ := headerRule_eq_some_iff.1 hs
    obtain ⟨c, gap, rfl⟩ := List.exists_cons_of_ne_nil hne
    exact ⟨"function".toList, c, _, by decide, hgap c (by simp), by simp; rfl⟩
  · obtain ⟨name, value, -, gap, _, _, hgap, hne, -, -, -, -, -, rfl⟩ :=
      declareRule_eq_some_iff.1 hs
    obtain ⟨c, gap, rfl⟩ := List.exists_cons_of_ne_nil hne
    exact ⟨"var".toList, c, _, by decide, hgap c (by simp), by simp; rfl⟩
  · obtain ⟨message, -, gap, _, hgap, hne, -, -, rfl⟩ := sayRule_eq_some_iff.1 hs
    obtain ⟨c, gap, rfl⟩ := List.exists_cons_of_ne_nil hne
    exact ⟨"say".toList, c, _, by decide, hgap c (by simp), by simp; rfl⟩

/-- The place of the command rule behind the keyword rules is all that matters
about the order, and it matters for every keyword line that has a blank after
its keyword. -/
theorem only_command_order_matters :
    (keywordRules ++ [closeRule]).Pairwise Exclusive ∧
    Exclusive closeRule commandRule ∧
    (∀ order : List Rule, order.Perm rules →
      (∀ rule ∈ keywordRules, [rule, commandRule].Sublist order) →
        ∀ t, ofRules order t = ofText t) ∧
    (∀ t, '\n' ∉ t → ∀ rule ∈ [headerRule, declareRule, sayRule], (rule t).isSome →
      Shadowed rule t) ∧
    ∀ c rest, isBlank c = true → '\n' ∉ "execute".toList ++ c :: rest →
      (executeRule ("execute".toList ++ c :: rest)).isSome →
        Shadowed executeRule ("execute".toList ++ c :: rest) := by
  refine ⟨?_, ?_, fun order hperm hbehind t => ofRules_reordered hperm hbehind t, ?_, ?_⟩
  · apply List.pairwise_append.2
    refine ⟨exclusive_keywords, List.pairwise_singleton _ _, fun rule hrule rule' hrule' => ?_⟩
    rw [List.mem_singleton.1 hrule']
    exact exclusive_keyword_close hrule
  · exact (exclusive_close (by decide)).symm
  · intro t hfeed rule hrule hsome
    obtain ⟨s, hs⟩ := Option.isSome_iff_exists.1 hsome
    obtain ⟨word, c, rest, hword, hc, rfl⟩ := exists_blank hrule hs
    obtain ⟨rest', hgeneric⟩ := exists_generic hword hc hfeed
    have hkeyword : rule ∈ keywordRules := by
      simp only [keywordRules, List.mem_cons, List.not_mem_nil, or_false] at hrule ⊢
      tauto
    exact shadowed_of_generic hgeneric hkeyword hs
  · intro c rest hc hfeed hsome
    obtain ⟨s, hs⟩ := Option.isSome_iff_exists.1 hsome
    obtain ⟨rest', hgeneric⟩ := exists_generic (by decide) hc hfeed
    exact shadowed_of_generic hgeneric (by simp [keywordRules]) hs

theorem reversed_keywords_read_alike :
    let order : List Rule := closeRule :: keywordRules.reverse ++ [commandRule]
    let line : Text := "say \"hi\"".toList
    order.Perm rules ∧ (∀ rule ∈ keywordRules, [rule, commandRule].Sublist order) ∧
      ofRules order line = .say "hi".toList ∧ '\n' ∉ line ∧ (sayRule line).isSome ∧
      Shadowed sayRule line := by
  intro order line
  have hperm : order.Perm rules := by
    have hkeywords := (List.reverse_perm keywordRules).append_right [commandRule, closeRule]
    have hclose : ([closeRule] ++ (keywordRules.reverse ++ [commandRule])).Perm
        (keywordRules.reverse ++ [commandRule] ++ [closeRule]) := List.perm_append_comm
    rw [List.append_assoc keywordRules.reverse] at hclose
    exact hclose.trans hkeywords
  have hbehind : ∀ rule ∈ keywordRules, [rule, commandRule].Sublist order := by
    intro rule hrule
    have hfront : [rule].Sublist (closeRule :: keywordRules.reverse) := by
      simp [hrule]
    exact hfront.append (List.Sublist.refl [commandRule])
  have hfeed : '\n' ∉ line := by decide
  have hsome : (sayRule line).isSome := by decide
  obtain ⟨-, -, hreorder, hshadow, -⟩ := only_command_order_matters
  refine ⟨hperm, hbehind, ?_, hfeed, hsome, hshadow line hfeed sayRule (by simp) hsome⟩
  rw [hreorder order hperm hbehind line]
  decide

end Datapack.Proofs.RuleOrder
