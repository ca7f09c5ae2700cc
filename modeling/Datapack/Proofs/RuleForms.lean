import Datapack.Proofs.Grammar

namespace Datapack.Proofs.RuleForms

open Runs Statement Grammar

variable {s : Statement} {t : Text}

theorem isSignature_iff : isSignature t = true ↔
    ∃ parameters blanks type, '\n' ∉ parameters ∧ IsBlanks blanks ∧ IsName type ∧
      t = parameters ++ ['=', '>'] ++ blanks ++ type ++ [')'] := by
  constructor
  · intro h
    simp only [isSignature] at h
    split at h
    · cases h
    · rename_i s hs
      split at h
      · cases h
      · rename_i type s' hrun
        split at h
        · cases h
        · rename_i params hparams
          rw [Text.after?_eq_some_iff] at hs hparams
          obtain ⟨rfl, hne, htype, -⟩ := run?_eq_some_iff.1 hrun
          obtain ⟨blanks, hs', hblanks, -⟩ := dropWhile_eq_iff.1 hparams
          subst hs'
          refine ⟨params.reverse, blanks.reverse, type.reverse, ?_, IsBlanks.reverse hblanks,
            IsName.reverse ⟨htype, hne⟩, ?_⟩
          · simpa using isPayload_iff.1 h
          · simpa using congrArg List.reverse hs
  · rintro ⟨parameters, blanks, type, hparams, hblanks, htype, rfl⟩
    have hafter : Text.after? (parameters ++ ['=', '>'] ++ blanks ++ type ++ [')']).reverse [')'] =
        some (type.reverse ++ (blanks.reverse ++ (['>', '='] ++ parameters.reverse))) :=
      Text.after?_eq_some_iff.2 (by simp)
    have hrun : Text.run? isNameChar
        (type.reverse ++ (blanks.reverse ++ (['>', '='] ++ parameters.reverse))) =
        some (type.reverse, blanks.reverse ++ (['>', '='] ++ parameters.reverse)) :=
      run?_eq_some_iff.2 ⟨rfl, htype.reverse.2, htype.reverse.1,
        stopsAt_append hblanks.reverse.not_name (stopsAt_cons.2 rfl)⟩
    have hdrop : (blanks.reverse ++ (['>', '='] ++ parameters.reverse)).dropWhile isBlank =
        ['>', '='] ++ parameters.reverse :=
      dropWhile_eq_iff.2 ⟨_, rfl, hblanks.reverse, stopsAt_cons.2 rfl⟩
    have hlast : Text.after? (['>', '='] ++ parameters.reverse) ['>', '='] =
        some parameters.reverse := Text.after?_eq_some_iff.2 rfl
    have hpay : isPayload parameters.reverse = true := isPayload_iff.2 (by simpa using hparams)
    simp only [isSignature, hafter, hrun, hdrop, hlast, hpay]

theorem headerRule_eq_some_iff :
    headerRule t = some s ↔ ∃ name, s = .header name ∧ Header name t := by
  simp only [headerRule, Option.bind_eq_bind, Option.bind_eq_some_iff, Prod.exists,
    Text.after?_eq_some_iff, run?_eq_some_iff, dropWhile_eq_iff, Option.ite_none_right_eq_some,
    Option.some.injEq, isSignature_iff]
  constructor
  · rintro ⟨_, rfl, gap, _, ⟨rfl, hne, hgap, -⟩, name, _, ⟨rfl, hname, hchars, -⟩, _,
      ⟨blanks, rfl, hblanks, -⟩, ⟨parameters, blanks', type, hparams, hblanks', htype, rfl⟩, rfl⟩
    exact ⟨name, rfl, gap, blanks, parameters, blanks', type, hgap, hne, ⟨hchars, hname⟩, hblanks,
      hparams, hblanks', htype, by simp⟩
  · rintro ⟨name, rfl, gap, blanks, parameters, blanks', type, hgap, hne, hname, hblanks, hparams,
      hblanks', htype, rfl⟩
    let signature := parameters ++ ['=', '>'] ++ blanks' ++ type ++ [')']
    have hparen : StopsAt isNameChar (blanks ++ (['('] ++ signature)) :=
      stopsAt_append hblanks.not_name (stopsAt_cons.2 rfl)
    exact ⟨gap ++ (name ++ (blanks ++ (['('] ++ signature))), by simp [signature], gap, _,
      ⟨rfl, hne, hgap, hname.stops_blanks _⟩, name, _, ⟨rfl, hname.2, hname.1, hparen⟩, signature,
      ⟨blanks, rfl, hblanks, stopsAt_cons.2 rfl⟩,
      ⟨parameters, blanks', type, hparams, hblanks', htype, rfl⟩, rfl⟩

theorem declareRule_eq_some_iff :
    declareRule t = some s ↔ ∃ name value, s = .declare name value ∧ Declaration name value t := by
  simp only [declareRule, Option.bind_eq_bind, Option.bind_eq_some_iff, Prod.exists,
    Text.after?_eq_some_iff, run?_eq_some_iff, Option.ite_none_right_eq_some,
    Option.some.injEq, isPayload_iff]
  constructor
  · rintro ⟨_, rfl, gap, _, ⟨rfl, hne, hgap, -⟩, name, _, ⟨rfl, hname, hchars, -⟩, t, hequal,
      hvalue, rfl⟩
    obtain ⟨blanks, rfl, hblanks, -⟩ := dropWhile_eq_iff.1 hequal
    obtain ⟨blanks', ht, hblanks', hstop⟩ := dropWhile_eq_iff.1 (Eq.refl (t.dropWhile isBlank))
    exact ⟨name, _, rfl, gap, blanks, blanks', hgap, hne, ⟨hchars, hname⟩, hblanks, hblanks',
      hvalue, hstop, by simp [← ht]⟩
  · rintro ⟨name, value, rfl, gap, blanks, blanks', hgap, hne, hname, hblanks, hblanks', hvalue,
      hstop, rfl⟩
    have hequal : StopsAt isNameChar (blanks ++ (['='] ++ (blanks' ++ value))) :=
      stopsAt_append hblanks.not_name (stopsAt_cons.2 rfl)
    have hdrop : (blanks' ++ value).dropWhile isBlank = value :=
      dropWhile_eq_iff.2 ⟨blanks', rfl, hblanks', hstop⟩
    exact ⟨_, by simp only [List.append_assoc], gap, _,
      ⟨rfl, hne, hgap, hname.stops_blanks _⟩, name, _, ⟨rfl, hname.2, hname.1, hequal⟩, _,
      dropWhile_eq_iff.2 ⟨blanks, rfl, hblanks, stopsAt_cons.2 rfl⟩,
      by rwa [hdrop], by rw [hdrop]⟩

theorem sayRule_eq_some_iff :
    sayRule t = some s ↔ ∃ message, s = .say message ∧ Saying message t := by
  simp only [sayRule, Option.bind_eq_bind, Option.bind_eq_some_iff, Prod.exists,
    Text.after?_eq_some_iff, run?_eq_some_iff, dropWhile_eq_iff, Option.ite_none_right_eq_some,
    Option.some.injEq, isPayload_iff]
  constructor
  · rintro ⟨_, rfl, gap, _, ⟨rfl, hne, hgap, -⟩, t, rfl, message, ⟨blanks, ht, hblanks, -⟩,
      hmessage, rfl⟩
    have hrev : t = message.reverse ++ ['"'] ++ blanks.reverse := by
      simpa using congrArg List.reverse ht
    exact ⟨_, rfl, gap, blanks.reverse, hgap, hne, by simpa using hmessage,
      IsBlanks.reverse hblanks, by simp [hrev]⟩
  · rintro ⟨message, rfl, gap, blanks, hgap, hne, hmessage, hblanks, rfl⟩
    let quoted := message ++ ['"'] ++ blanks
    exact ⟨gap ++ (['"'] ++ quoted), by simp [quoted], gap, _,
      ⟨rfl, hne, hgap, stopsAt_cons.2 rfl⟩, quoted, rfl, message.reverse,
      ⟨blanks.reverse, by simp [quoted], hblanks.reverse, stopsAt_cons.2 rfl⟩,
      by simpa using hmessage, by simp⟩

theorem commandRule_eq_some_iff :
    commandRule t = some s ↔ ∃ word rest, s = .command word rest ∧ Generic word rest t := by
  simp only [commandRule, Option.bind_eq_bind, Option.bind_eq_some_iff, Prod.exists,
    run?_eq_some_iff, Option.ite_none_right_eq_some, Option.some.injEq, isPayload_iff]
  constructor
  · rintro ⟨word, _, ⟨rfl, hword, hchars, -⟩, gap, rest, ⟨rfl, hne, hgap, hstop⟩, hrest, rfl⟩
    exact ⟨word, rest, rfl, gap, ⟨hchars, hword⟩, hgap, hne, hrest, hstop, by simp⟩
  · rintro ⟨word, rest, rfl, gap, hword, hgap, hne, hrest, hstop, rfl⟩
    have hafter : StopsAt isNameChar (gap ++ rest) :=
      stopsAt_append_of_ne_nil (IsBlanks.not_name hgap) hne
    exact ⟨word, gap ++ rest, ⟨by simp, hword.2, hword.1, hafter⟩, gap, rest,
      ⟨rfl, hne, hgap, hstop⟩, hrest, rfl⟩

theorem split_cons {c : Char} {first second : Text} (hc : c ≠ '\n') (h : Split first second t) :
    Split (c :: first) second (c :: t) := by
  obtain ⟨blanks, hblanks, hfirst, hsecond, rfl⟩ := h
  exact ⟨blanks, hblanks, by simp [hc.symm, hfirst], hsecond, rfl⟩

theorem split_cons_cases {c : Char} {first second : Text} (h : Split first second (c :: t)) :
    first = [] ∨ ∃ first', first = c :: first' ∧ c ≠ '\n' ∧ Split first' second t := by
  obtain ⟨blanks, hblanks, hfirst, hsecond, ht⟩ := h
  cases first with
  | nil => exact .inl rfl
  | cons d first =>
      simp only [List.cons_append, List.cons.injEq] at ht
      obtain ⟨rfl, rfl⟩ := ht
      simp only [List.mem_cons, not_or] at hfirst
      exact .inr ⟨first, rfl, Ne.symm hfirst.1, blanks, hblanks, hfirst.2, hsecond, rfl⟩

theorem afterBoundary?_eq_some_iff {second : Text} :
    afterBoundary? t = some second ↔
      ∃ blanks, IsBlanks blanks ∧ t = ['}', ','] ++ blanks ++ ['{'] ++ second := by
  simp only [afterBoundary?, Option.bind_eq_bind, Option.bind_eq_some_iff,
    Text.after?_eq_some_iff, dropWhile_eq_iff]
  constructor
  · rintro ⟨_, rfl, blanks, rfl, hblanks, -⟩
    exact ⟨blanks, hblanks, by simp⟩
  · rintro ⟨blanks, hblanks, rfl⟩
    exact ⟨blanks ++ (['{'] ++ second), by simp, blanks, rfl, hblanks, stopsAt_cons.2 rfl⟩

theorem sections?_sound {first second : Text} (h : sections? t = some (first, second)) :
    Split first second t := by
  induction t generalizing first with
  | nil => simp [sections?] at h
  | cons c t ih =>
      simp only [sections?] at h
      split at h
      · rename_i first' second' hlater
        simp only [Option.ite_none_left_eq_some] at hlater
        cases h
        exact split_cons hlater.1 (ih hlater.2)
      · split at h
        · rename_i second' hhere
          simp only [Option.ite_none_right_eq_some, Option.some.injEq, Prod.mk.injEq] at h
          obtain ⟨hpay, rfl, rfl⟩ := h
          obtain ⟨blanks, hblanks, ht⟩ := afterBoundary?_eq_some_iff.1 hhere
          exact ⟨blanks, hblanks, by simp, isPayload_iff.1 hpay, ht⟩
        · cases h

theorem sections?_longest {first second : Text} (h : Split first second t) :
    ∃ first' second', sections? t = some (first', second') ∧ first.length ≤ first'.length := by
  induction t generalizing first with
  | nil =>
      obtain ⟨blanks, -, -, -, ht⟩ := h
      simp at ht
  | cons c t ih =>
      rcases split_cons_cases h with rfl | ⟨first, rfl, hc, hlater⟩
      · -- a boundary further on is taken before the one at the front
        cases hl : (if c = '\n' then none else sections? t) with
        | some later => exact ⟨c :: later.1, later.2, by simp only [sections?, hl], Nat.zero_le _⟩
        | none =>
            obtain ⟨blanks, hblanks, -, hsecond, ht⟩ := h
            have hhere : afterBoundary? (c :: t) = some second :=
              afterBoundary?_eq_some_iff.2 ⟨blanks, hblanks, ht⟩
            exact ⟨[], second, by simp [sections?, hl, hhere, isPayload_iff.2 hsecond],
              Nat.le_refl _⟩
      · obtain ⟨first', second', hs, hle⟩ := ih hlater
        exact ⟨c :: first', second', by simp [sections?, hc, hs], by simpa using hle⟩

theorem split_unique {first second first' second' : Text} (h : Split first second t)
    (h' : Split first' second' t) (hlen : first.length = first'.length) :
    first = first' ∧ second = second' := by
  obtain ⟨blanks, hblanks, -, -, rfl⟩ := h
  obtain ⟨blanks', hblanks', -, -, ht⟩ := h'
  simp only [List.append_assoc] at ht
  obtain ⟨hfirst, htail⟩ := List.append_inj ht hlen
  -- the brace after the boundary stops both runs of blanks at one place
  obtain ⟨-, hbrace⟩ := run_unique hblanks hblanks' (stopsAt_cons.2 rfl)
    (stopsAt_cons.2 rfl) (List.append_cancel_left htail)
  exact ⟨hfirst, (List.cons.inj hbrace).2⟩

theorem sections?_eq_some_iff {first second : Text} :
    sections? t = some (first, second) ↔ Split first second t ∧
      ∀ first' second', Split first' second' t → first'.length ≤ first.length := by
  constructor
  · intro h
    refine ⟨sections?_sound h, fun first' second' h' => ?_⟩
    obtain ⟨_, _, hs, hle⟩ := sections?_longest h'
    rw [h] at hs
    cases hs
    exact hle
  · rintro ⟨h, hmax⟩
    obtain ⟨first', second', hs, hle⟩ := sections?_longest h
    have h' := sections?_sound hs
    obtain ⟨rfl, rfl⟩ := split_unique h h' (Nat.le_antisymm hle (hmax _ _ h'))
    exact hs

theorem frame_unique {blanks inner blanks' inner' : Text} (hblanks : IsBlanks blanks)
    (hblanks' : IsBlanks blanks')
    (h : "execute".toList ++ blanks ++ ['(', '=', '>', '{'] ++ inner ++ ['}', ')'] =
      "execute".toList ++ blanks' ++ ['(', '=', '>', '{'] ++ inner' ++ ['}', ')']) :
    blanks = blanks' ∧ inner = inner' := by
  -- the opening parenthesis ends the blanks after the keyword
  have hfront := List.append_cancel_right h
  simp only [List.append_assoc] at hfront
  obtain ⟨hrun, hopen⟩ := run_unique hblanks hblanks' (stopsAt_cons.2 rfl)
    (stopsAt_cons.2 rfl) (List.append_cancel_left hfront)
  exact ⟨hrun, (List.append_right_inj ['(', '=', '>', '{']).1 hopen⟩

theorem executeRule_eq_some_iff :
    executeRule t = some s ↔ ∃ conditions action,
      s = .execute (Line.trim conditions) (Line.trim action) ∧
        LongestSections conditions action t := by
  simp only [executeRule, Option.bind_eq_bind, Option.bind_eq_some_iff, Prod.exists,
    Text.after?_eq_some_iff, Text.before?_eq_some_iff, dropWhile_eq_iff, Option.some.injEq,
    sections?_eq_some_iff]
  constructor
  · rintro ⟨_, rfl, _, ⟨blanks, rfl, hblanks, -⟩, inner, rfl, conditions, action, ⟨hsplit, hmax⟩,
      rfl⟩
    refine ⟨conditions, action, rfl, ⟨blanks, inner, hblanks, hsplit, by simp⟩, ?_⟩
    rintro conditions' action' ⟨blanks', inner', hblanks', hsplit', ht⟩
    obtain ⟨-, rfl⟩ := frame_unique hblanks hblanks' (by simpa using ht)
    exact hmax _ _ hsplit'
  · rintro ⟨conditions, action, rfl, ⟨blanks, inner, hblanks, hsplit, rfl⟩, hmax⟩
    refine ⟨blanks ++ (['(', '=', '>', '{'] ++ (inner ++ ['}', ')'])), by simp, _,
      ⟨blanks, rfl, hblanks, stopsAt_cons.2 rfl⟩, inner, rfl, conditions, action,
      ⟨hsplit, fun conditions' action' hsplit' => ?_⟩, rfl⟩
    exact hmax _ _ ⟨blanks, inner, hblanks, hsplit', rfl⟩

theorem closeRule_eq_some_iff : closeRule t = some s ↔ s = .close ∧ t = "end".toList := by
  simp [closeRule, eq_comm, and_comm]

def keywordRules : List Rule := [headerRule, declareRule, sayRule, executeRule]

def initial : Statement → Option Char
  | .header _ => some 'f'
  | .declare _ _ => some 'v'
  | .say _ => some 's'
  | .execute _ _ => some 'e'
  | _ => none

theorem head?_of_keyword (h : Keyword s t) : t.head? = initial s := by
  cases h with
  | header h =>
      obtain ⟨_, _, _, _, _, -, -, -, -, -, -, -, rfl⟩ := h
      rfl
  | declare h =>
      obtain ⟨_, _, _, -, -, -, -, -, -, -, rfl⟩ := h
      rfl
  | say h =>
      obtain ⟨_, _, -, -, -, -, rfl⟩ := h
      rfl
  | execute h =>
      obtain ⟨⟨_, _, -, -, rfl⟩, -⟩ := h
      rfl

theorem keyword_of_rule {rule : Rule} (hrule : rule ∈ keywordRules) (h : rule t = some s) :
    Keyword s t := by
  simp only [keywordRules, List.mem_cons, List.not_mem_nil, or_false] at hrule
  rcases hrule with rfl | rfl | rfl | rfl
  · obtain ⟨name, rfl, hform⟩ := headerRule_eq_some_iff.1 h
    exact .header hform
  · obtain ⟨name, value, rfl, hform⟩ := declareRule_eq_some_iff.1 h
    exact .declare hform
  · obtain ⟨message, rfl, hform⟩ := sayRule_eq_some_iff.1 h
    exact .say hform
  · obtain ⟨conditions, action, rfl, hform⟩ := executeRule_eq_some_iff.1 h
    exact .execute hform

theorem rule_of_keyword (h : Keyword s t) : ∃ rule ∈ keywordRules, rule t = some s := by
  cases h with
  | header h => exact ⟨headerRule, by simp [keywordRules], headerRule_eq_some_iff.2 ⟨_, rfl, h⟩⟩
  | declare h =>
      exact ⟨declareRule, by simp [keywordRules], declareRule_eq_some_iff.2 ⟨_, _, rfl, h⟩⟩
  | say h => exact ⟨sayRule, by simp [keywordRules], sayRule_eq_some_iff.2 ⟨_, rfl, h⟩⟩
  | execute h =>
      exact ⟨executeRule, by simp [keywordRules], executeRule_eq_some_iff.2 ⟨_, _, rfl, h⟩⟩

theorem keyword_unique {s' : Statement} (h : Keyword s t) (h' : Keyword s' t) : s = s' := by
  have hinitial : initial s = initial s' := (head?_of_keyword h).symm.trans (head?_of_keyword h')
  -- two statements with one initial come from one rule
  have hsame {rule : Rule} (hs : rule t = some s) (hs' : rule t = some s') : s = s' :=
    Option.some.inj (hs.symm.trans hs')
  cases h with
  | header h =>
      cases h' with
      | header h' =>
          exact hsame (headerRule_eq_some_iff.2 ⟨_, rfl, h⟩) (headerRule_eq_some_iff.2 ⟨_, rfl, h'⟩)
      | declare | say | execute => simp [initial] at hinitial
  | declare h =>
      cases h' with
      | declare h' =>
          exact hsame (declareRule_eq_some_iff.2 ⟨_, _, rfl, h⟩)
            (declareRule_eq_some_iff.2 ⟨_, _, rfl, h'⟩)
      | header | say | execute => simp [initial] at hinitial
  | say h =>
      cases h' with
      | say h' =>
          exact hsame (sayRule_eq_some_iff.2 ⟨_, rfl, h⟩) (sayRule_eq_some_iff.2 ⟨_, rfl, h'⟩)
      | header | declare | execute => simp [initial] at hinitial
  | execute h =>
      cases h' with
      | execute h' =>
          exact hsame (executeRule_eq_some_iff.2 ⟨_, _, rfl, h⟩)
            (executeRule_eq_some_iff.2 ⟨_, _, rfl, h'⟩)
      | header | declare | say => simp [initial] at hinitial

theorem findSome?_keywordRules_iff :
    keywordRules.findSome? (fun rule => rule t) = some s ↔ Keyword s t := by
  constructor
  · intro h
    obtain ⟨rule, hrule, hs⟩ := List.exists_of_findSome?_eq_some h
    exact keyword_of_rule hrule hs
  · intro h
    obtain ⟨rule, hrule, hs⟩ := rule_of_keyword h
    cases hfirst : keywordRules.findSome? (fun rule => rule t) with
    | none =>
        have hnone := List.findSome?_eq_none_iff.1 hfirst rule hrule
        rw [hs] at hnone
        cases hnone
    | some s' =>
        obtain ⟨rule', hrule', hs'⟩ := List.exists_of_findSome?_eq_some hfirst
        rw [keyword_unique h (keyword_of_rule hrule' hs')]

theorem ofText_of_keyword (h : Keyword s t) : ofText t = s := by
  have hfirst := findSome?_keywordRules_iff.2 h
  have hrules : rules = keywordRules ++ [commandRule, closeRule] := rfl
  rw [ofText, ofRules, hrules, List.findSome?_append, hfirst]
  rfl

theorem ofText_of_not_keyword (h : ∀ s, ¬Keyword s t) :
    ofText t = ofRules [commandRule, closeRule] t := by
  have hfirst : keywordRules.findSome? (fun rule => rule t) = none := by
    cases hf : keywordRules.findSome? (fun rule => rule t) with
    | none => rfl
    | some s => exact absurd (findSome?_keywordRules_iff.1 hf) (h s)
  have hrules : rules = keywordRules ++ [commandRule, closeRule] := rfl
  rw [ofText, ofRules, hrules, List.findSome?_append, hfirst]
  rfl

theorem written_ofText (t : Text) : Written (ofText t) t := by
  by_cases hkey : ∃ s, Keyword s t
  · obtain ⟨s, h⟩ := hkey
    exact ofText_of_keyword h ▸ .keyword h
  · simp only [not_exists] at hkey
    rw [ofText_of_not_keyword hkey]
    cases hc : commandRule t with
    | some s =>
        obtain ⟨word, rest, rfl, h⟩ := commandRule_eq_some_iff.1 hc
        simpa [ofRules, hc] using Written.command h hkey
    | none =>
        by_cases hend : t = "end".toList
        · subst hend
          exact .close
        · have hgen : ∀ word rest, ¬Generic word rest t := by
            intro word rest h
            rw [commandRule_eq_some_iff.2 ⟨word, rest, rfl, h⟩] at hc
            cases hc
          have hclose : closeRule t = none := if_neg hend
          simpa [ofRules, hc, hclose] using Written.unmatched hkey hgen hend

theorem ofText_of_written (h : Written s t) : ofText t = s := by
  cases h with
  | keyword h => exact ofText_of_keyword h
  | command h hkey =>
      have hc := commandRule_eq_some_iff.2 ⟨_, _, rfl, h⟩
      rw [ofText_of_not_keyword hkey]
      simp [ofRules, hc]
  | close => decide
  | unmatched hkey hgen hclose =>
      have hc : commandRule t = none := by
        refine Option.eq_none_iff_forall_ne_some.2 fun s hs => ?_
        obtain ⟨word, rest, -, h⟩ := commandRule_eq_some_iff.1 hs
        exact hgen word rest h
      have hnone : closeRule t = none := if_neg hclose
      rw [ofText_of_not_keyword hkey]
      simp [ofRules, hc, hnone]

theorem ofText_eq_iff_written : ofText t = s ↔ Written s t :=
  ⟨fun h => h ▸ written_ofText t, ofText_of_written⟩

/-- Whatever follows the equals sign is the value, but for blanks before it. -/
theorem ofText_declaration {gap name blanks rest : Text} (hgap : IsBlanks gap) (hne : gap ≠ [])
    (hname : IsName name) (hblanks : IsBlanks blanks) (hrest : '\n' ∉ rest) :
    ofText ("var".toList ++ gap ++ name ++ blanks ++ '=' :: rest) =
      .declare name (rest.dropWhile isBlank) := by
  have hvalue : '\n' ∉ rest.dropWhile isBlank :=
    fun hm => hrest ((List.dropWhile_sublist _).subset hm)
  have hblanks' : IsBlanks (rest.takeWhile isBlank) := List.all_eq_true.1 List.all_takeWhile
  exact ofText_of_keyword (.declare ⟨gap, blanks, rest.takeWhile isBlank, hgap, hne, hname, hblanks,
    hblanks', hvalue, stopsAt_dropWhile _ _, by simp⟩)

end Datapack.Proofs.RuleForms
