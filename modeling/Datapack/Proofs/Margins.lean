import Datapack.Proofs.LineEnds
import Datapack.Proofs.Runs
import Mathlib.Data.List.DropRight

namespace Datapack.Proofs.Margins

open LineEnds Runs

variable {p : Char → Bool} {c : Char} {t x front back : Text}

def IsMargins (t : Text) : Prop := ∀ c ∈ t, isMargin c = true ∧ isLineBreak c = false

instance (t : Text) : Decidable (IsMargins t) :=
  decidable_of_iff (t.all (fun c => isMargin c && !isLineBreak c) = true) (by simp [IsMargins])

theorem dropWhile_append_cons (hc : p c = false) (x t : Text) :
    (x ++ c :: t).dropWhile p = x.dropWhile p ++ c :: t := by
  induction x with
  | nil => simp [hc]
  | cons d x ih => by_cases hd : p d = true <;> simp [hd, ih]

/-- A character that is kept parts what is removed before it from what is
removed after it. -/
theorem strip_append_cons (hc : p c = false) (x t : Text) :
    Text.strip p (x ++ c :: t) = x.dropWhile p ++ c :: t.rdropWhile p := by
  rw [Text.strip, dropWhile_append_cons hc, List.reverse_append, List.reverse_cons,
    List.append_assoc, List.singleton_append, dropWhile_append_cons hc]
  simp [List.rdropWhile]

theorem mem_of_mem_strip (h : c ∈ Text.strip p t) : c ∈ t := by
  have hback := (List.dropWhile_sublist p).subset (List.mem_reverse.1 h)
  exact (List.dropWhile_sublist p).subset (List.mem_reverse.1 hback)

theorem trim_append_cons (hc : isMargin c = false) (x t : Text) :
    Line.trim (x ++ c :: t) = x.dropWhile isMargin ++ c :: t.rdropWhile isMargin :=
  strip_append_cons hc x t

theorem strip_pad (hfront : ∀ c ∈ front, p c = true) (hback : ∀ c ∈ back, p c = true) :
    Text.strip p (front ++ t ++ back) = Text.strip p t := by
  have hend (t : Text) : (t ++ back).reverse.dropWhile p = t.reverse.dropWhile p := by
    rw [List.reverse_append]
    exact List.dropWhile_append_of_pos fun c hc => hback c (List.mem_reverse.1 hc)
  rw [List.append_assoc, Text.strip, Text.strip, List.dropWhile_append_of_pos hfront,
    List.dropWhile_append]
  split
  · rename_i hnil
    have hback' : back.dropWhile p = [] := List.dropWhile_eq_nil_iff.2 hback
    rw [hback', List.isEmpty_iff.1 hnil]
  · rw [hend]

theorem strip_eq_iff : Text.strip p t = x ↔
    (∃ front back, t = front ++ x ++ back ∧ (∀ c ∈ front, p c = true) ∧ ∀ c ∈ back, p c = true) ∧
      StopsAt p x ∧ StopsAt p x.reverse := by
  constructor
  · rintro rfl
    obtain ⟨front, hfront, hall, hstart⟩ := dropWhile_eq_iff.1 (Eq.refl (t.dropWhile p))
    obtain ⟨back, hback, hall', hstop⟩ :=
      dropWhile_eq_iff.1 (Eq.refl ((t.dropWhile p).reverse.dropWhile p))
    have hrest : t.dropWhile p = Text.strip p t ++ back.reverse := by
      rw [Text.strip, ← List.reverse_append, ← hback, List.reverse_reverse]
    refine ⟨⟨front, back.reverse, ?_, hall, fun c hc => hall' c (List.mem_reverse.1 hc)⟩, ?_, ?_⟩
    · rw [List.append_assoc, ← hrest]
      exact hfront
    · exact stopsAt_of_append (hrest ▸ hstart)
    · rwa [Text.strip, List.reverse_reverse]
  · rintro ⟨⟨front, back, rfl, hfront, hback⟩, hstart, hstop⟩
    rw [strip_pad hfront hback, Text.strip, dropWhile_of_stopsAt hstart, dropWhile_of_stopsAt hstop,
      List.reverse_reverse]

theorem trim_pad (hfront : IsMargins front) (hback : IsMargins back) :
    Line.trim (front ++ t ++ back) = Line.trim t :=
  strip_pad (fun c hc => (hfront c hc).1) (fun c hc => (hback c hc).1)

theorem trim_of_stopsAt (hstart : StopsAt isMargin t) (hend : StopsAt isMargin t.reverse) :
    Line.trim t = t :=
  strip_eq_iff.2 ⟨⟨[], [], by simp, by simp, by simp⟩, hstart, hend⟩

theorem isMargin_eq_false_of_isNameChar (h : isNameChar c = true) : isMargin c = false := by
  cases hmargin : isMargin c with
  | false => rfl
  | true =>
      have hle : c.toNat ≤ 32 := of_decide_eq_true hmargin
      have hall : ∀ n ≤ 32, (Char.ofNat n).isAlphanum = false := by decide
      have hlow : c.isAlphanum = false := Char.ofNat_toNat c ▸ hall c.toNat hle
      have hne : c ≠ '_' := by
        rintro rfl
        exact absurd hmargin (by decide)
      simp [isNameChar, hlow, hne] at h

theorem trim_of_start (hstart : StopsAt isMargin x) (hc : isMargin c = false) :
    Line.trim (x ++ c :: t) = x ++ c :: t.rdropWhile isMargin := by
  rw [trim_append_cons hc, dropWhile_of_stopsAt hstart]

theorem stopsAt_reverse_concat (hc : p c = false) : StopsAt p (t ++ [c]).reverse := by
  rw [List.reverse_concat]
  exact stopsAt_cons.2 hc

end Datapack.Proofs.Margins
