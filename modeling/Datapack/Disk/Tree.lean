import Datapack.Lookup
import Datapack.Text.Utf8

namespace Datapack

abbrev Location := List Text

inductive Entry
  | directory
  | file (contents : Bytes)
  deriving DecidableEq, Repr

/-- The first entry at a location counts. The root needs none. -/
structure Tree where
  entries : List (Location × Entry)
  deriving DecidableEq, Repr

namespace Tree

open Lookup

def get? (tree : Tree) (place : Location) : Option Entry :=
  if place = [] then some .directory else tree.entries.lookup place

def replace (place : Location) (entry : Entry) :
    List (Location × Entry) → List (Location × Entry)
  | [] => [(place, entry)]
  | old :: rest => if old.1 = place then (place, entry) :: rest else old :: replace place entry rest

def put (tree : Tree) (place : Location) (entry : Entry) : Tree :=
  ⟨replace place entry tree.entries⟩

theorem lookup_replace (place other : Location) (entry : Entry)
    (entries : List (Location × Entry)) :
    (replace place entry entries).lookup other =
      if other = place then some entry else entries.lookup other := by
  induction entries with
  | nil => simp [replace, lookup_cons]
  | cons old rest ih =>
      by_cases hp : old.1 = place
      · by_cases h : other = place <;> simp [replace, hp, lookup_cons, h]
      · by_cases h : other = old.1
        · have hne : other ≠ place := fun he => hp (h.symm.trans he)
          simp [replace, lookup_cons, ← h, hne]
        · simp [replace, hp, lookup_cons, h, ih]

theorem get?_put {tree : Tree} {place : Location} {entry : Entry} (other : Location)
    (h : place ≠ []) :
    (tree.put place entry).get? other = if other = place then some entry else tree.get? other := by
  by_cases ho : other = []
  · subst ho
    simp [get?, Ne.symm h]
  · simp [get?, put, ho, lookup_replace]

theorem replace_of_lookup {place : Location} {entry : Entry} {entries : List (Location × Entry)}
    (h : entries.lookup place = some entry) : replace place entry entries = entries := by
  induction entries with
  | nil => cases h
  | cons old rest ih =>
      rw [lookup_cons] at h
      by_cases hp : place = old.1
      · rw [if_pos hp] at h
        rw [replace, if_pos hp.symm, hp, ← Option.some.inj h]
      · rw [if_neg hp] at h
        rw [replace, if_neg (Ne.symm hp), ih h]

theorem mem_replace {place : Location} {entry : Entry} {entries : List (Location × Entry)}
    {other : Location × Entry} (h : other ∈ replace place entry entries) :
    other = (place, entry) ∨ other ∈ entries := by
  induction entries with
  | nil => exact .inl (List.mem_singleton.1 h)
  | cons old rest ih =>
      rw [replace] at h
      split at h
      · exact (List.mem_cons.1 h).imp_right (List.mem_cons_of_mem old)
      · rcases List.mem_cons.1 h with rfl | h
        · exact .inr (List.mem_cons_self ..)
        · exact (ih h).imp_right (List.mem_cons_of_mem old)

theorem map_fst_replace (place : Location) (entry : Entry) (entries : List (Location × Entry)) :
    place ∈ entries.map Prod.fst ∧
        (replace place entry entries).map Prod.fst = entries.map Prod.fst ∨
      place ∉ entries.map Prod.fst ∧
        (replace place entry entries).map Prod.fst = entries.map Prod.fst ++ [place] := by
  induction entries with
  | nil => exact .inr ⟨by simp, rfl⟩
  | cons old rest ih =>
      by_cases h : old.1 = place
      · exact .inl ⟨by simp [h], by simp [replace, h]⟩
      · simpa [replace, h, Ne.symm h] using ih

theorem put_of_get? {tree : Tree} {place : Location} {entry : Entry} (hne : place ≠ [])
    (h : tree.get? place = some entry) : tree.put place entry = tree := by
  rw [get?, if_neg hne] at h
  rw [put, replace_of_lookup h]

end Tree

end Datapack
