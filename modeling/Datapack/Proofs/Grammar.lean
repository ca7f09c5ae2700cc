import Datapack.Proofs.Runs
import Datapack.Source
import Datapack.Statement.Rules

namespace Datapack.Proofs.Grammar

open Runs Statement

def IsBlanks (t : Text) : Prop := ∀ c ∈ t, isBlank c = true

def IsName (t : Text) : Prop := (∀ c ∈ t, isNameChar c = true) ∧ t ≠ []

instance (t : Text) : Decidable (IsName t) :=
  decidable_of_iff (t.all isNameChar = true ∧ t ≠ []) (by simp [IsName])

def Header (name t : Text) : Prop :=
  ∃ gap blanks parameters blanks' type, IsBlanks gap ∧ gap ≠ [] ∧ IsName name ∧
    IsBlanks blanks ∧ '\n' ∉ parameters ∧ IsBlanks blanks' ∧ IsName type ∧
    t = "function".toList ++ gap ++ name ++ blanks ++ ['('] ++ parameters ++ ['=', '>'] ++
      blanks' ++ type ++ [')']

def Declaration (name value t : Text) : Prop :=
  ∃ gap blanks blanks', IsBlanks gap ∧ gap ≠ [] ∧ IsName name ∧ IsBlanks blanks ∧
    IsBlanks blanks' ∧ '\n' ∉ value ∧ StopsAt isBlank value ∧
    t = "var".toList ++ gap ++ name ++ blanks ++ ['='] ++ blanks' ++ value

def Saying (message t : Text) : Prop :=
  ∃ gap blanks, IsBlanks gap ∧ gap ≠ [] ∧ '\n' ∉ message ∧ IsBlanks blanks ∧
    t = "say".toList ++ gap ++ ['"'] ++ message ++ ['"'] ++ blanks

def Split (first second t : Text) : Prop :=
  ∃ blanks, IsBlanks blanks ∧ '\n' ∉ first ∧ '\n' ∉ second ∧
    t = first ++ ['}', ','] ++ blanks ++ ['{'] ++ second

def Sections (conditions action t : Text) : Prop :=
  ∃ blanks inner, IsBlanks blanks ∧ Split conditions action inner ∧
    t = "execute".toList ++ blanks ++ ['(', '=', '>', '{'] ++ inner ++ ['}', ')']

def LongestSections (conditions action t : Text) : Prop :=
  Sections conditions action t ∧
    ∀ conditions' action', Sections conditions' action' t → conditions'.length ≤ conditions.length

def Generic (word rest t : Text) : Prop :=
  ∃ gap, IsName word ∧ IsBlanks gap ∧ gap ≠ [] ∧ '\n' ∉ rest ∧ StopsAt isBlank rest ∧
    t = word ++ gap ++ rest

inductive Keyword : Statement → Text → Prop
  | header {name t} (h : Header name t) : Keyword (.header name) t
  | declare {name value t} (h : Declaration name value t) : Keyword (.declare name value) t
  | say {message t} (h : Saying message t) : Keyword (.say message) t
  | execute {conditions action t} (h : LongestSections conditions action t) :
      Keyword (.execute (Line.trim conditions) (Line.trim action)) t

/-- The grammar of one line. A text that fits a keyword statement is no command
of the target. -/
inductive Written : Statement → Text → Prop
  | keyword {s t} (h : Keyword s t) : Written s t
  | command {word rest t} (h : Generic word rest t) (hkey : ∀ s, ¬Keyword s t) :
      Written (.command word rest) t
  | close : Written .close "end".toList
  | unmatched {t} (hkey : ∀ s, ¬Keyword s t) (hgen : ∀ word rest, ¬Generic word rest t)
      (hclose : t ≠ "end".toList) : Written .unmatched t

variable {t : Text}

theorem isPayload_iff : isPayload t = true ↔ '\n' ∉ t := by
  simp only [isPayload, List.all_eq_true, decide_eq_true_eq]
  exact ⟨fun h hm => h _ hm rfl, fun h c hc he => h (he ▸ hc)⟩

theorem IsBlanks.not_name (h : IsBlanks t) : ∀ c ∈ t, isNameChar c = false :=
  fun c hc => isNameChar_eq_false_of_isBlank (h c hc)

theorem IsName.not_blank (h : IsName t) : ∀ c ∈ t, isBlank c = false :=
  fun c hc => isBlank_eq_false_of_isNameChar (h.1 c hc)

theorem IsName.stops_blanks (h : IsName t) (r : Text) : StopsAt isBlank (t ++ r) :=
  stopsAt_append_of_ne_nil h.not_blank h.2

theorem IsBlanks.reverse (h : IsBlanks t) : IsBlanks t.reverse :=
  fun c hc => h c (List.mem_reverse.1 hc)

theorem IsName.reverse (h : IsName t) : IsName t.reverse :=
  ⟨fun c hc => h.1 c (List.mem_reverse.1 hc), by simpa using h.2⟩

end Datapack.Proofs.Grammar
