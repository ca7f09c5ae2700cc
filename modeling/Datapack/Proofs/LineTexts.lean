import Datapack.Proofs.LastBlock
import Datapack.Proofs.Margins
import Datapack.Proofs.RuleForms

namespace Datapack.Proofs.LineTexts

open Runs Grammar RuleForms LastBlock Margins

variable {c : Char} {t command : Text} {s : Statement} {lines : List Line}

theorem mem_substituteFrom {table : List (Text × Text)} {n : Nat}
    (h : c ∈ Text.substituteFrom table n t) : c ∈ t ∨ ∃ entry ∈ table, c ∈ entry.2 := by
  induction t generalizing n with
  | nil => cases n <;> simp [Text.substituteFrom] at h
  | cons d t ih =>
      cases n with
      | succ n => exact (ih h).imp_left (List.mem_cons_of_mem d)
      | zero =>
          rw [Text.substituteFrom] at h
          split at h
          · rename_i phrase replacement hfind
            rcases List.mem_append.1 h with h | h
            · exact .inr ⟨_, List.mem_of_find?_eq_some hfind, h⟩
            · exact (ih h).imp_left (List.mem_cons_of_mem d)
          · rcases List.mem_cons.1 h with rfl | h
            · exact .inl (List.mem_cons_self ..)
            · exact (ih h).imp_left (List.mem_cons_of_mem d)

theorem isLineBreak_of_all (h : t.all (fun c => !isLineBreak c) = true) :
    ∀ c ∈ t, isLineBreak c = false := by
  intro c hc
  simpa using List.all_eq_true.1 h c hc

theorem mem_toSelectors (h : c ∈ Conditions.toSelectors t) : c ∈ t ∨ isLineBreak c = false := by
  have hsel : ∀ entry ∈ Conditions.vocabulary, ∀ d ∈ entry.2, isLineBreak d = false := by
    simp only [Conditions.vocabulary, List.forall_mem_cons]
    exact ⟨isLineBreak_of_all rfl, isLineBreak_of_all rfl, by simp⟩
  simp only [Conditions.toSelectors, Conditions.vocabulary, List.foldl_cons, List.foldl_nil] at h
  rcases mem_substituteFrom h with h | ⟨entry, he, hc⟩
  · rcases mem_substituteFrom h with h | ⟨entry, he, hc⟩
    · exact .inl h
    · exact .inr (hsel entry (by simp_all [Conditions.vocabulary]) c hc)
  · exact .inr (hsel entry (by simp_all [Conditions.vocabulary]) c hc)

def texts : Statement → List Text
  | .header name => [name]
  | .declare name value => [name, value]
  | .say message => [message]
  | .execute conditions action => [conditions, action]
  | .command word rest => [word, rest]
  | .close | .unmatched => []

theorem newline_not_mem_name (h : IsName t) : '\n' ∉ t := by
  intro hm
  have hchar := h.1 _ hm
  revert hchar
  decide

theorem isName_of_header {name : Text} (h : Written (.header name) t) : IsName name := by
  cases h with
  | keyword h =>
      cases h with
      | header h =>
          obtain ⟨_, _, _, _, _, -, -, hname, -⟩ := h
          exact hname

theorem mem_texts_of_written (h : Written s t) :
    ∀ x ∈ texts s, '\n' ∉ x ∧ ∀ c ∈ x, c ∈ t := by
  intro x hx
  cases h with
  | keyword h =>
      cases h with
      | header h =>
          obtain ⟨_, _, _, _, _, -, -, hname, -, -, -, -, rfl⟩ := h
          obtain rfl := List.mem_singleton.1 hx
          exact ⟨newline_not_mem_name hname, by simp +contextual⟩
      | declare h =>
          obtain ⟨_, _, _, -, -, hname, -, -, hvalue, -, rfl⟩ := h
          simp only [texts, List.mem_cons, List.not_mem_nil, or_false] at hx
          rcases hx with rfl | rfl
          · exact ⟨newline_not_mem_name hname, by simp +contextual⟩
          · exact ⟨hvalue, by simp +contextual⟩
      | say h =>
          obtain ⟨_, _, -, -, hmessage, -, rfl⟩ := h
          obtain rfl := List.mem_singleton.1 hx
          exact ⟨hmessage, by simp +contextual⟩
      | execute h =>
          obtain ⟨⟨_, _, -, ⟨_, -, hconditions, haction, rfl⟩, rfl⟩, -⟩ := h
          simp only [texts, List.mem_cons, List.not_mem_nil, or_false] at hx
          rcases hx with rfl | rfl
          · refine ⟨fun hm => hconditions (mem_of_mem_strip hm), fun c hc => ?_⟩
            have hcond := mem_of_mem_strip hc
            simp [hcond]
          · refine ⟨fun hm => haction (mem_of_mem_strip hm), fun c hc => ?_⟩
            have hact := mem_of_mem_strip hc
            simp [hact]
  | command h =>
      obtain ⟨_, hword, -, -, hrest, -, rfl⟩ := h
      simp only [texts, List.mem_cons, List.not_mem_nil, or_false] at hx
      rcases hx with rfl | rfl
      · exact ⟨newline_not_mem_name hword, by simp +contextual⟩
      · exact ⟨hrest, by simp +contextual⟩
  | close | unmatched => cases hx

/-- Outside the kept texts a command has no line breaks. -/
theorem mem_command? (h : s.command? = some command) (hc : c ∈ command) :
    (∃ x ∈ texts s, c ∈ x) ∨ isLineBreak c = false := by
  have hadd := isLineBreak_of_all (t := "scoreboard objectives add ".toList) rfl
  have hdummy := isLineBreak_of_all (t := " dummy".toList) rfl
  have hsay := isLineBreak_of_all (t := "say ".toList) rfl
  have hexecute := isLineBreak_of_all (t := "execute ".toList) rfl
  have hrun := isLineBreak_of_all (t := " run ".toList) rfl
  cases s with
  | header name | close | unmatched => cases h
  | declare name value =>
      cases h
      simp only [List.mem_append] at hc
      rcases hc with (hc | hc) | hc
      · exact .inr (hadd c hc)
      · exact .inl ⟨name, by simp [texts], hc⟩
      · exact .inr (hdummy c hc)
  | say message =>
      cases h
      rcases List.mem_append.1 hc with hc | hc
      · exact .inr (hsay c hc)
      · exact .inl ⟨message, by simp [texts], hc⟩
  | execute conditions action =>
      cases h
      simp only [List.mem_append] at hc
      rcases hc with ((hc | hc) | hc) | hc
      · exact .inr (hexecute c hc)
      · exact (mem_toSelectors hc).imp_left fun hc => ⟨conditions, by simp [texts], hc⟩
      · exact .inr (hrun c hc)
      · exact .inl ⟨action, by simp [texts], hc⟩
  | command word rest =>
      cases h
      simp only [List.mem_append, List.mem_cons] at hc
      rcases hc with hc | rfl | hc
      · exact .inl ⟨word, by simp [texts], hc⟩
      · exact .inr (by decide)
      · exact .inl ⟨rest, by simp [texts], hc⟩

theorem isLineBreak_of_mem_command? (h : (Statement.ofText t).command? = some command)
    (hc : c ∈ command) (hbreak : isLineBreak c = true) : c ∈ t ∧ c ≠ '\n' := by
  rcases mem_command? h hc with ⟨x, hx, hcx⟩ | hnone
  · obtain ⟨hfeed, hline⟩ := mem_texts_of_written (written_ofText t) x hx
    exact ⟨hline c hcx, fun he => hfeed (he ▸ hcx)⟩
  · rw [hbreak] at hnone
    cases hnone

theorem isName_of_mem_names {name : Text} (h : name ∈ (FunctionTable.ofLines lines).names) :
    IsName name := by
  obtain ⟨line, -, hline⟩ := List.mem_map.1 ((mem_names_ofStatements _ _).1 h)
  exact isName_of_header (hline ▸ written_ofText line.trimmed)

theorem slash_not_mem_names {name : Text} (h : name ∈ (FunctionTable.ofLines lines).names) :
    '/' ∉ name := by
  intro hm
  have hchar := (isName_of_mem_names h).1 _ hm
  revert hchar
  decide

theorem exists_line_of_mem {name : Text} {commands : List Text}
    (h : (FunctionTable.ofLines lines).get? name = some commands) (hc : command ∈ commands) :
    ∃ line ∈ lines, (Statement.ofText line.trimmed).command? = some command := by
  obtain ⟨body, ⟨before, after, heq, -, -, -⟩, rfl⟩ := (get?_ofStatements_iff _ _ _).1 h
  obtain ⟨s, hs, hcommand⟩ := List.mem_filterMap.1 hc
  have hmem : s ∈ lines.map (fun line => Statement.ofText line.trimmed) := by
    rw [heq]
    simp [hs]
  obtain ⟨line, hline, rfl⟩ := List.mem_map.1 hmem
  exact ⟨line, hline, hcommand⟩

theorem newline_not_mem_command {name : Text} {commands : List Text}
    (h : (FunctionTable.ofLines lines).get? name = some commands) (hc : command ∈ commands) :
    '\n' ∉ command := by
  obtain ⟨line, -, hline⟩ := exists_line_of_mem h hc
  exact fun hm => (isLineBreak_of_mem_command? hline hm (by decide)).2 rfl

end Datapack.Proofs.LineTexts
