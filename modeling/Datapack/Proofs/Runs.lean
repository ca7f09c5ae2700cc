import Datapack.Text.Class

namespace Datapack.Proofs.Runs

variable {p q : Char → Bool} {t x r : Text}

/-- A run of characters in `p` cannot be longer than what stands before `t`. -/
def StopsAt (p : Char → Bool) (t : Text) : Prop := ∀ c ∈ t.head?, p c = false

instance (p : Char → Bool) (t : Text) : Decidable (StopsAt p t) :=
  decidable_of_iff (t.head?.all (fun c => !p c) = true) (by cases t <;> simp [StopsAt])

theorem stopsAt_nil : StopsAt p [] := by simp [StopsAt]

theorem stopsAt_cons {c : Char} : StopsAt p (c :: t) ↔ p c = false := by simp [StopsAt]

theorem stopsAt_append (hx : ∀ c ∈ x, p c = false) (hr : StopsAt p r) : StopsAt p (x ++ r) := by
  cases x with
  | nil => exact hr
  | cons c x => exact stopsAt_cons.2 (hx c (by simp))

theorem stopsAt_append_of_ne_nil (hx : ∀ c ∈ x, p c = false) (hne : x ≠ []) :
    StopsAt p (x ++ r) := by
  cases x with
  | nil => exact absurd rfl hne
  | cons c x => exact stopsAt_cons.2 (hx c (by simp))

theorem stopsAt_append_left (h : StopsAt p t) (hne : t ≠ []) (r : Text) : StopsAt p (t ++ r) := by
  cases t with
  | nil => exact absurd rfl hne
  | cons c t => exact stopsAt_cons.2 (stopsAt_cons.1 h)

theorem stopsAt_of_append (h : StopsAt p (t ++ r)) : StopsAt p t := by
  cases t with
  | nil => exact stopsAt_nil
  | cons c t => exact stopsAt_cons.2 (stopsAt_cons.1 h)

theorem stopsAt_dropWhile (p : Char → Bool) (t : Text) : StopsAt p (t.dropWhile p) := by
  intro c hc
  have h := List.head?_dropWhile_not p t
  rw [Option.mem_def.1 hc] at h
  simpa using h

theorem dropWhile_of_stopsAt (h : StopsAt p r) : r.dropWhile p = r := by
  cases r with
  | nil => rfl
  | cons c r => simp [stopsAt_cons.1 h]

theorem dropWhile_eq_iff :
    t.dropWhile p = r ↔ ∃ x, t = x ++ r ∧ (∀ c ∈ x, p c = true) ∧ StopsAt p r := by
  constructor
  · rintro rfl
    exact ⟨t.takeWhile p, List.takeWhile_append_dropWhile.symm,
      List.all_eq_true.1 List.all_takeWhile, stopsAt_dropWhile p t⟩
  · rintro ⟨x, rfl, hx, hr⟩
    rw [List.dropWhile_append_of_pos hx, dropWhile_of_stopsAt hr]

/-- What follows a run cannot give it more or take any of it. -/
theorem run_unique {x' r' : Text} (hx : ∀ c ∈ x, p c = true) (hx' : ∀ c ∈ x', p c = true)
    (hr : StopsAt p r) (hr' : StopsAt p r') (h : x ++ r = x' ++ r') : x = x' ∧ r = r' := by
  have hrest : (x ++ r).dropWhile p = r := dropWhile_eq_iff.2 ⟨x, rfl, hx, hr⟩
  have hrest' : (x ++ r).dropWhile p = r' := dropWhile_eq_iff.2 ⟨x', h, hx', hr'⟩
  obtain rfl : r = r' := hrest.symm.trans hrest'
  exact ⟨List.append_cancel_right h, rfl⟩

theorem run?_eq_some_iff :
    t.run? p = some (x, r) ↔ t = x ++ r ∧ x ≠ [] ∧ (∀ c ∈ x, p c = true) ∧ StopsAt p r := by
  have hspan : t.takeWhile p ++ t.dropWhile p = t := List.takeWhile_append_dropWhile
  have hall : ∀ c ∈ t.takeWhile p, p c = true := List.all_eq_true.1 List.all_takeWhile
  simp only [Text.run?, Option.ite_none_left_eq_some, List.isEmpty_iff, Option.some.injEq,
    Prod.mk.injEq]
  constructor
  · rintro ⟨hne, rfl, rfl⟩
    exact ⟨hspan.symm, hne, hall, stopsAt_dropWhile p t⟩
  · rintro ⟨ht, hne, hx, hr⟩
    have hrest : t.dropWhile p = r := dropWhile_eq_iff.2 ⟨x, ht, hx, hr⟩
    have hrun : t.takeWhile p = x := by
      rw [hrest] at hspan
      exact List.append_cancel_right (hspan.trans ht)
    exact ⟨by rwa [hrun], hrun, hrest⟩

theorem isBlank_eq_false_of_isNameChar {c : Char} (h : isNameChar c) : isBlank c = false := by
  cases hb : isBlank c with
  | false => rfl
  | true => rw [isNameChar_eq_false_of_isBlank hb] at h; cases h

end Datapack.Proofs.Runs
