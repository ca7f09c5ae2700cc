import Datapack.Proofs.Feeding

namespace Datapack.Proofs.Continuation

open LastBlock Feeding

variable {earlier : FunctionTable} {b c : Blocks} {s : Statement} {statements : List Statement}

def StartsAfresh (statements : List Statement) : Prop :=
  ∀ s ∈ statements.find? (· ≠ .unmatched), isBoundary s = true

instance (statements : List Statement) : Decidable (StartsAfresh statements) :=
  decidable_of_iff ((statements.find? (· ≠ .unmatched)).all isBoundary = true)
    (by simp [StartsAfresh, Option.all_eq_true])

/-- The first blocks are the second ones on top of an earlier table. -/
structure Continues (earlier : FunctionTable) (b c : Blocks) : Prop where
  current : b.current = c.current
  get? : ∀ name, b.functions.get? name = (c.functions.get? name).or (earlier.get? name)

theorem continues_start (h : b.isOpen = false) : Continues b.functions b .start where
  current := by simpa [Blocks.isOpen, Blocks.start] using h
  get? := fun _ => rfl

theorem Continues.finish (h : Continues earlier b c) (name : Text) :
    b.finish.get? name = (c.finish.get? name).or (earlier.get? name) := by
  obtain ⟨current, functions⟩ := b
  obtain ⟨current', functions'⟩ := c
  obtain rfl : current = current' := h.current
  have hget : functions.get? name = (functions'.get? name).or (earlier.get? name) := h.get? name
  cases current with
  | none => exact hget
  | some body =>
      simp only [Blocks.finish, Blocks.close, FunctionTable.get?_insert]
      split
      · rfl
      · exact hget

theorem Continues.feed (h : Continues earlier b c) (s : Statement) :
    Continues earlier (b.feed s) (c.feed s) := by
  cases hs : isBoundary s with
  | true =>
      rcases isBoundary_iff.1 hs with ⟨name, rfl⟩ | rfl
      · exact ⟨rfl, h.finish⟩
      · rw [feed_close, feed_close]
        exact ⟨rfl, h.finish⟩
  | false =>
      rw [feed_inner b hs, feed_inner c hs, h.current]
      exact ⟨rfl, h.get?⟩

theorem Continues.feedAll (h : Continues earlier b c) (statements : List Statement) :
    Continues earlier (b.feedAll statements) (c.feedAll statements) := by
  induction statements generalizing b c with
  | nil => exact h
  | cons s statements ih => exact ih (h.feed s)

theorem closed_close (b : Blocks) : b.close.isOpen = false := by
  rcases b with ⟨_ | body, functions⟩ <;> rfl

theorem close_of_closed (h : b.isOpen = false) : b.close = b := by
  rcases b with ⟨_ | body, functions⟩
  · rfl
  · cases h

/-- What opens or ends a block closes the open body itself. -/
theorem feed_boundary (b : Blocks) (hs : isBoundary s = true) : b.feed s = b.close.feed s := by
  have hclose : b.close.close = b.close := close_of_closed (closed_close b)
  rcases isBoundary_iff.1 hs with ⟨name, rfl⟩ | rfl
  · simp only [Blocks.feed, hclose]
  · exact hclose.symm

theorem finish_feedAll_close (h : StartsAfresh statements) (b : Blocks) :
    (b.feedAll statements).finish = (b.close.feedAll statements).finish := by
  induction statements with
  | nil => exact congrArg Blocks.functions (close_of_closed (closed_close b)).symm
  | cons s statements ih =>
      by_cases hs : s = .unmatched
      · subst hs
        apply ih
        simpa [StartsAfresh] using h
      · have hboundary : isBoundary s = true := h s (by simp [hs])
        have hfirst : b.feed s = b.close.feed s := feed_boundary b hboundary
        simp only [Blocks.feedAll, List.foldl_cons, hfirst]

/-- Statements that follow others and do not go on with their last body give the
functions they give alone, over those from before. -/
theorem get?_append {statements' : List Statement}
    (h : (Blocks.start.feedAll statements).isOpen = false ∨ StartsAfresh statements')
    (name : Text) : (FunctionTable.ofStatements (statements ++ statements')).get? name =
      ((FunctionTable.ofStatements statements').get? name).or
        ((FunctionTable.ofStatements statements).get? name) := by
  let b := Blocks.start.feedAll statements
  have hrun : (b.feedAll statements').finish = (b.close.feedAll statements').finish := by
    rcases h with h | h
    · rw [close_of_closed h]
    · exact finish_feedAll_close h b
  rw [FunctionTable.ofStatements, feedAll_append, hrun]
  exact ((continues_start (closed_close b)).feedAll statements').finish name

end Datapack.Proofs.Continuation
