import Datapack.Proofs.Feeding
import Mathlib.Data.List.Induction

namespace Datapack.Proofs.OpenBlocks

open LastBlock Feeding

/-- The name of the block that is open after some statements, whose header is
their last boundary. -/
def openName? (statements : List Statement) : Option Text :=
  match statements.reverse.find? isBoundary with
  | some (.header name) => some name
  | _ => none

def WasClosed (name : Text) (statements : List Statement) : Prop :=
  ∃ before after, statements = before ++ .header name :: after ∧ ∃ s ∈ after, isBoundary s = true

def nameAfter (name? : Option Text) : Statement → Option Text
  | .header name => some name
  | .close => none
  | _ => name?

theorem openName?_concat (statements : List Statement) (s : Statement) :
    openName? (statements ++ [s]) = nameAfter (openName? statements) s := by
  cases s <;> simp [openName?, nameAfter, isBoundary, List.find?_cons]

theorem wasClosed_concat (name : Text) (statements : List Statement) (s : Statement) :
    WasClosed name (statements ++ [s]) ↔
      WasClosed name statements ∨ isBoundary s = true ∧ .header name ∈ statements := by
  constructor
  · rintro ⟨before, after, heq, end', hend, hboundary⟩
    rcases List.eq_nil_or_concat after with rfl | ⟨later, last, rfl⟩
    · cases hend
    · have hcut : statements ++ [s] = (before ++ .header name :: later) ++ [last] := by simp [heq]
      obtain ⟨rfl, hlast⟩ := List.append_inj' hcut rfl
      obtain rfl : s = last := by simpa using hlast
      rw [List.concat_eq_append, List.mem_append] at hend
      rcases hend with hlater | hs
      · exact .inl ⟨before, later, rfl, end', hlater, hboundary⟩
      · exact .inr ⟨List.mem_singleton.1 hs ▸ hboundary, by simp⟩
  · rintro (⟨before, after, rfl, end', hend, hboundary⟩ | ⟨hs, hm⟩)
    · exact ⟨before, after ++ [s], by simp, end', by simp [hend], hboundary⟩
    · obtain ⟨before, after, rfl⟩ := List.append_of_mem hm
      exact ⟨before, after ++ [s], by simp, s, by simp, hs⟩

theorem current_feed (b : Blocks) (s : Statement) :
    (b.feed s).current.map Body.name = nameAfter (b.current.map Body.name) s := by
  cases hs : isBoundary s with
  | true =>
      rcases isBoundary_iff.1 hs with ⟨name, rfl⟩ | rfl
      · rfl
      · rw [feed_close]
        rfl
  | false =>
      have hname : nameAfter (b.current.map Body.name) s = b.current.map Body.name := by
        cases s <;> first | rfl | cases hs
      rw [feed_inner b hs, hname, Option.map_map]
      rfl

theorem functions_feed (b : Blocks) (s : Statement) :
    (b.feed s).functions = if isBoundary s then b.finish else b.functions := by
  cases hs : isBoundary s with
  | true =>
      rcases isBoundary_iff.1 hs with ⟨name, rfl⟩ | rfl
      · rfl
      · rw [feed_close]
        rfl
  | false =>
      rw [feed_inner b hs]
      rfl

theorem feedAll_concat (b : Blocks) (statements : List Statement) (s : Statement) :
    b.feedAll (statements ++ [s]) = (b.feedAll statements).feed s := by
  rw [feedAll_append]
  rfl

theorem current_feedAll (statements : List Statement) :
    (Blocks.start.feedAll statements).current.map Body.name = openName? statements := by
  induction statements using List.reverseRecOn with
  | nil => rfl
  | append_singleton statements s ih => rw [feedAll_concat, current_feed, openName?_concat, ih]

theorem mem_names_feedAll (statements : List Statement) (name : Text) :
    name ∈ (Blocks.start.feedAll statements).functions.names ↔ WasClosed name statements := by
  induction statements using List.reverseRecOn with
  | nil =>
      have hnone : ¬WasClosed name [] := by
        rintro ⟨before, after, heq, -⟩
        simp at heq
      exact iff_of_false (FunctionTable.get?_eq_none_iff.1 (FunctionTable.get?_empty name)) hnone
  | append_singleton statements s ih =>
      -- a boundary finishes the table, which then has the names of all headers
      have hall := mem_names_ofStatements statements name
      rw [feedAll_concat, functions_feed, wasClosed_concat, ← ih]
      cases hs : isBoundary s with
      | false => simp
      | true =>
          have hkept : name ∈ (Blocks.start.feedAll statements).functions.names →
              .header name ∈ statements := by
            rw [ih]
            rintro ⟨before, after, rfl, -⟩
            simp
          simpa using ⟨fun hm => .inr (hall.1 hm), fun hm => hall.2 (hm.elim hkept id)⟩

theorem isOpen_start (statements : List Statement) :
    (Blocks.start.feedAll statements).isOpen = true ↔ LeftOpen statements := by
  rw [isOpen_feedAll]
  simp [Blocks.start, Blocks.isOpen]

instance (statements : List Statement) : Decidable (LeftOpen statements) :=
  decidable_of_iff _ (isOpen_start statements)

instance (name : Text) (statements : List Statement) : Decidable (WasClosed name statements) :=
  decidable_of_iff _ (FunctionTable.contains_iff.trans (mem_names_feedAll statements name))

end Datapack.Proofs.OpenBlocks
