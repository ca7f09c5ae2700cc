import Datapack.Text.Basic
import Mathlib.Data.List.Forall2

namespace Datapack.Proofs.Backtracking

inductive Item
  | word (text : Text)
  | any (p : Char → Bool)
  | many (p : Char → Bool)
  | group (item : Item)

variable {p : Char → Bool} {item : Item} {items : List Item} {t x r : Text} {xs ys : List Text}

def Item.Fits : Item → Text → Prop
  | .word text, x => x = text
  | .any p, x => ∀ c ∈ x, p c = true
  | .many p, x => x ≠ [] ∧ ∀ c ∈ x, p c = true
  | .group item, x => item.Fits x

def runCuts (p : Char → Bool) : Text → List (Text × Text)
  | [] => [([], [])]
  | c :: t =>
      (if p c then (runCuts p t).map (fun cut => (c :: cut.1, cut.2)) else []) ++ [([], c :: t)]

def Item.cuts : Item → Text → List (Text × Text)
  | .word text, t => (t.after? text).toList.map (fun r => (text, r))
  | .any p, t => runCuts p t
  | .many p, t => (runCuts p t).filter (fun cut => !cut.1.isEmpty)
  | .group item, t => item.cuts t

/-- All readings of a whole text, in the order in which a backtracking matcher
meets them: it gives up the choice it made last first. -/
def readings : List Item → Text → List (List Text)
  | [], t => if t.isEmpty then [[]] else []
  | item :: items, t =>
      (item.cuts t).flatMap (fun cut => (readings items cut.2).map (cut.1 :: ·))

def match? (items : List Item) (t : Text) : Option (List Text) := (readings items t).head?

def groups : List Item → List Text → List Text
  | .group _ :: items, x :: xs => x :: groups items xs
  | _ :: items, _ :: xs => groups items xs
  | _, _ => []

def Fits (items : List Item) (xs : List Text) (t : Text) : Prop :=
  List.Forall₂ Item.Fits items xs ∧ xs.flatten = t

/-- Longer at the first part where the two differ. -/
def Prefers : List Text → List Text → Prop
  | x :: xs, y :: ys => y.length < x.length ∨ x = y ∧ Prefers xs ys
  | _, _ => False

theorem mem_runCuts_cons {c : Char} :
    (x, r) ∈ runCuts p (c :: t) ↔
      (∃ x', x = c :: x' ∧ p c = true ∧ (x', r) ∈ runCuts p t) ∨ x = [] ∧ r = c :: t := by
  rw [runCuts, List.mem_append, List.mem_singleton, Prod.mk.injEq]
  refine or_congr_left ?_
  split
  · rename_i hp
    rw [List.mem_map]
    constructor
    · rintro ⟨⟨x', r'⟩, hm, heq⟩
      cases heq
      exact ⟨x', rfl, hp, hm⟩
    · rintro ⟨x', rfl, -, hm⟩
      exact ⟨(x', r), hm, rfl⟩
  · rename_i hp
    simp [hp]

theorem mem_runCuts : (x, r) ∈ runCuts p t ↔ t = x ++ r ∧ ∀ c ∈ x, p c = true := by
  induction t generalizing x with
  | nil =>
      rw [runCuts, List.mem_singleton, Prod.mk.injEq]
      constructor
      · rintro ⟨rfl, rfl⟩
        simp
      · rintro ⟨heq, -⟩
        exact List.append_eq_nil_iff.1 heq.symm
  | cons c t ih =>
      rw [mem_runCuts_cons]
      constructor
      · rintro (⟨x, rfl, hp, hm⟩ | ⟨rfl, rfl⟩)
        · obtain ⟨rfl, hx⟩ := ih.1 hm
          exact ⟨rfl, List.forall_mem_cons.2 ⟨hp, hx⟩⟩
        · simp
      · rintro ⟨heq, hx⟩
        cases x with
        | nil => exact .inr ⟨rfl, heq.symm⟩
        | cons d x =>
            obtain ⟨rfl, rfl⟩ := List.cons.inj heq
            obtain ⟨hp, hx⟩ := List.forall_mem_cons.1 hx
            exact .inl ⟨x, rfl, hp, ih.2 ⟨rfl, hx⟩⟩

theorem mem_cuts : (x, r) ∈ item.cuts t ↔ t = x ++ r ∧ item.Fits x := by
  induction item with
  | word text =>
      simp only [Item.cuts, Item.Fits, List.mem_map, Option.mem_toList,
        Text.after?_eq_some_iff, Prod.mk.injEq]
      constructor
      · rintro ⟨r, rfl, rfl, rfl⟩
        exact ⟨rfl, rfl⟩
      · rintro ⟨rfl, rfl⟩
        exact ⟨r, rfl, rfl, rfl⟩
  | any p => exact mem_runCuts
  | many p =>
      simp only [Item.cuts, Item.Fits, List.mem_filter, mem_runCuts, Bool.not_eq_true',
        List.isEmpty_eq_false_iff, and_assoc]
      exact and_congr_right' and_comm
  | group item ih => exact ih

theorem mem_readings : xs ∈ readings items t ↔ Fits items xs t := by
  induction items generalizing xs t with
  | nil => cases t <;> cases xs <;> simp [readings, Fits]
  | cons item items ih =>
      simp only [readings, List.mem_flatMap, List.mem_map, Prod.exists, mem_cuts, ih, Fits]
      constructor
      · rintro ⟨x, r, ⟨rfl, hx⟩, xs, ⟨hxs, rfl⟩, rfl⟩
        exact ⟨.cons hx hxs, rfl⟩
      · rintro ⟨hfits, rfl⟩
        cases hfits with
        | cons hx hxs => exact ⟨_, _, ⟨rfl, hx⟩, _, ⟨hxs, rfl⟩, rfl⟩

theorem runCuts_sorted (p : Char → Bool) (t : Text) :
    (runCuts p t).Pairwise (fun a b => b.1.length < a.1.length) := by
  induction t with
  | nil => simp [runCuts]
  | cons c t ih =>
      rw [runCuts, List.pairwise_append]
      refine ⟨?_, List.pairwise_singleton _ _, ?_⟩
      · split
        · rw [List.pairwise_map]
          exact ih.imp (fun h => by simpa using h)
        · exact .nil
      · intro a ha b hb
        split at ha
        · obtain ⟨cut, -, rfl⟩ := List.mem_map.1 ha
          obtain rfl := List.mem_singleton.1 hb
          exact Nat.zero_lt_succ _
        · cases ha

theorem cuts_sorted (item : Item) (t : Text) :
    (item.cuts t).Pairwise (fun a b => b.1.length < a.1.length) := by
  induction item with
  | word text => cases h : t.after? text <;> simp [Item.cuts, h]
  | any p => exact runCuts_sorted p t
  | many p => exact (runCuts_sorted p t).filter _
  | group item ih => exact ih

theorem readings_sorted (items : List Item) (t : Text) : (readings items t).Pairwise Prefers := by
  induction items generalizing t with
  | nil => cases t <;> simp [readings]
  | cons item items ih =>
      rw [readings, List.pairwise_flatMap]
      constructor
      · intro cut _
        rw [List.pairwise_map]
        exact (ih cut.2).imp (fun h => .inr ⟨rfl, h⟩)
      · refine (cuts_sorted item t).imp ?_
        rintro a b hlt _ ha _ hb
        obtain ⟨xs, -, rfl⟩ := List.mem_map.1 ha
        obtain ⟨ys, -, rfl⟩ := List.mem_map.1 hb
        exact .inl hlt

theorem match?_prefers (h : match? items t = some xs) :
    Fits items xs t ∧ ∀ ys, Fits items ys t → ys = xs ∨ Prefers xs ys := by
  have hsorted := readings_sorted items t
  cases hr : readings items t with
  | nil => simp [match?, hr] at h
  | cons first others =>
      rw [match?, hr, List.head?_cons, Option.some.injEq] at h
      subst h
      rw [hr] at hsorted
      refine ⟨mem_readings.1 (by simp [hr]), fun ys hys => ?_⟩
      have hmem := mem_readings.2 hys
      rw [hr, List.mem_cons] at hmem
      exact hmem.imp id ((List.pairwise_cons.1 hsorted).1 ys)

theorem exists_match? (h : Fits items xs t) : ∃ ys, match? items t = some ys := by
  have hmem := mem_readings.2 h
  cases hr : readings items t with
  | nil =>
      rw [hr] at hmem
      cases hmem
  | cons first others => exact ⟨first, by simp [match?, hr]⟩

end Datapack.Proofs.Backtracking
