import Datapack.Pack.Render
import Datapack.Proofs.LastBlock
import Mathlib.Data.List.Forall2

namespace Datapack.Proofs.Feeding

open LastBlock

variable {s s' : Statement} {statements statements' : List Statement}

def statementsOf (lines : List Text) : List Statement :=
  lines.map (fun line => Statement.ofText (Line.trim line))

theorem ofLines_source (t : Text) :
    FunctionTable.ofLines (Source.lines t) = .ofStatements (statementsOf t.lines) := by
  have hlines : (t.lines.zipIdx 1).map Prod.fst = t.lines := List.zipIdx_map_fst 1 t.lines
  conv_rhs => rw [← hlines]
  simp only [FunctionTable.ofLines, Source.lines, statementsOf, List.map_map]
  rfl

/-- No blocks can tell one statement from the other. -/
def Alike (s s' : Statement) : Prop := ∀ b : Blocks, b.feed s = b.feed s'

theorem Alike.refl (s : Statement) : Alike s s := fun _ => rfl

theorem alike_declare (name value value' : Text) :
    Alike (.declare name value) (.declare name value') := fun _ => rfl

theorem feedAll_append (b : Blocks) (statements statements' : List Statement) :
    b.feedAll (statements ++ statements') = (b.feedAll statements).feedAll statements' :=
  List.foldl_append

theorem feedAll_alike (h : List.Forall₂ Alike statements statements') (b : Blocks) :
    b.feedAll statements = b.feedAll statements' := by
  induction h generalizing b with
  | nil => rfl
  | @cons s s' rest rest' hs _ ih =>
      have hfirst : b.feedAll (s :: rest) = (b.feed s).feedAll rest := rfl
      rw [hfirst, hs b]
      exact ih (b.feed s')

theorem feed_unmatched (b : Blocks) : b.feed .unmatched = b := rfl

theorem feed_inner (b : Blocks) (hs : isBoundary s = false) :
    b.feed s =
      ⟨b.current.map (fun body => ⟨body.name, body.commands ++ s.command?.toList⟩), b.functions⟩ := by
  rcases b with ⟨_ | body, functions⟩
  · exact feed_outside functions hs
  · exact feed_inside body.commands functions hs

theorem feed_closed {b : Blocks} (hb : b.isOpen = false) (hs : ∀ name, s ≠ .header name) :
    b.feed s = b := by
  obtain ⟨current, functions⟩ := b
  obtain rfl : current = none := by simpa [Blocks.isOpen] using hb
  cases hboundary : isBoundary s with
  | false => exact feed_outside functions hboundary
  | true =>
      rcases isBoundary_iff.1 hboundary with ⟨name, rfl⟩ | rfl
      · exact absurd rfl (hs name)
      · rfl

end Datapack.Proofs.Feeding
