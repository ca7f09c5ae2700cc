import Datapack.Lookup
import Datapack.Text.Basic

namespace Datapack

/-- Function bodies by name. Names increase strictly in the order of code
points, so a table is determined by its look-ups. -/
structure FunctionTable where
  entries : List (Text × List Text)
  sorted : entries.Pairwise (fun a b => a.1 < b.1)

namespace FunctionTable

open Lookup

def place (name : Text) (body : List Text) : List (Text × List Text) → List (Text × List Text)
  | [] => [(name, body)]
  | entry :: rest =>
      if name < entry.1 then (name, body) :: entry :: rest
      else if entry.1 < name then entry :: place name body rest
      else (name, body) :: rest

theorem mem_place {name : Text} {body : List Text} {entries : List (Text × List Text)}
    {entry : Text × List Text} (h : entry ∈ place name body entries) :
    entry = (name, body) ∨ entry ∈ entries := by
  induction entries with
  | nil => simpa [place] using h
  | cons e es ih =>
      simp only [place] at h
      split at h
      · simpa using h
      · split at h
        · rcases List.mem_cons.1 h with h | h
          · simp [h]
          · rcases ih h with h | h <;> simp [h]
        · rcases List.mem_cons.1 h with h | h <;> simp [h]

theorem place_sorted (name : Text) (body : List Text) {entries : List (Text × List Text)}
    (h : entries.Pairwise (fun a b => a.1 < b.1)) :
    (place name body entries).Pairwise (fun a b => a.1 < b.1) := by
  induction entries with
  | nil => simp [place]
  | cons e es ih =>
      obtain ⟨he, hes⟩ := List.pairwise_cons.1 h
      simp only [place]
      split
      · rename_i hlt
        refine List.pairwise_cons.2 ⟨fun a ha => ?_, h⟩
        rcases List.mem_cons.1 ha with rfl | ha
        · exact hlt
        · exact List.lt_trans hlt (he a ha)
      · split
        · rename_i hlt
          refine List.pairwise_cons.2 ⟨fun a ha => ?_, ih hes⟩
          rcases mem_place ha with rfl | ha
          · exact hlt
          · exact he a ha
        · rename_i hle hge
          have heq : e.1 = name := List.le_antisymm (List.not_lt.1 hle) (List.not_lt.1 hge)
          exact List.pairwise_cons.2 ⟨fun a ha => heq ▸ he a ha, hes⟩

theorem lookup_place (name : Text) (body : List Text) (other : Text)
    (entries : List (Text × List Text)) :
    (place name body entries).lookup other =
      if other = name then some body else entries.lookup other := by
  induction entries with
  | nil => simp [place, lookup_cons]
  | cons e es ih =>
      simp only [place]
      split
      · simp [lookup_cons]
      · rename_i hle
        split
        · rename_i hlt
          rw [lookup_cons, ih, lookup_cons]
          by_cases h : other = e.1
          · have hne : other ≠ name := by
              rintro rfl
              exact List.lt_irrefl _ (h ▸ hlt)
            simp [← h, hne]
          · simp [h]
        · rename_i hge
          have heq : e.1 = name := List.le_antisymm (List.not_lt.1 hle) (List.not_lt.1 hge)
          by_cases h : other = name <;> simp [lookup_cons, heq, h]

theorem lookup_eq_none {name : Text} {entries : List (Text × List Text)}
    (h : ∀ entry ∈ entries, name < entry.1) : entries.lookup name = none := by
  induction entries with
  | nil => rfl
  | cons e es ih =>
      have hne : name ≠ e.1 := by
        intro he
        exact List.lt_irrefl _ (he ▸ h e (by simp))
      rw [lookup_cons, if_neg hne]
      exact ih (fun entry he => h entry (by simp [he]))

theorem lookup_eq_some_iff {name : Text} {body : List Text} {entries : List (Text × List Text)}
    (h : entries.Pairwise (fun a b => a.1 < b.1)) :
    entries.lookup name = some body ↔ (name, body) ∈ entries := by
  induction entries with
  | nil => simp
  | cons e es ih =>
      obtain ⟨he, hes⟩ := List.pairwise_cons.1 h
      rw [lookup_cons, List.mem_cons]
      split
      · rename_i heq
        have hout : (e.1, body) ∉ es := fun hm => List.lt_irrefl e.1 (he (e.1, body) hm)
        simp [Prod.ext_iff, heq, hout, eq_comm]
      · rename_i hne
        simp [Prod.ext_iff, hne, ih hes]

theorem length_place (name : Text) (body : List Text) {entries : List (Text × List Text)}
    (h : entries.Pairwise (fun a b => a.1 < b.1)) :
    (place name body entries).length =
      entries.length + if (entries.lookup name).isSome then 0 else 1 := by
  induction entries with
  | nil => rfl
  | cons e es ih =>
      obtain ⟨he, hes⟩ := List.pairwise_cons.1 h
      simp only [place]
      split
      · rename_i hlt
        have hnone : (e :: es).lookup name = none := lookup_eq_none (by
          intro entry hm
          rcases List.mem_cons.1 hm with rfl | hm
          · exact hlt
          · exact List.lt_trans hlt (he entry hm))
        simp [hnone]
      · split
        · rename_i hlt
          have hne : name ≠ e.1 := by
            rintro rfl
            exact List.lt_irrefl _ hlt
          rw [lookup_cons, if_neg hne, List.length_cons, List.length_cons, ih hes]
          omega
        · rename_i hle hge
          have heq : e.1 = name := List.le_antisymm (List.not_lt.1 hle) (List.not_lt.1 hge)
          simp [lookup_cons, heq]

theorem entries_eq {a b : List (Text × List Text)}
    (ha : a.Pairwise (fun a b => a.1 < b.1)) (hb : b.Pairwise (fun a b => a.1 < b.1))
    (h : ∀ name, a.lookup name = b.lookup name) : a = b := by
  induction a generalizing b with
  | nil =>
      cases b with
      | nil => rfl
      | cons y ys => simpa [lookup_cons] using h y.1
  | cons x xs ih =>
      cases b with
      | nil => simpa [lookup_cons] using h x.1
      | cons y ys =>
          obtain ⟨hx, hxs⟩ := List.pairwise_cons.1 ha
          obtain ⟨hy, hys⟩ := List.pairwise_cons.1 hb
          have hle : ¬x.1 < y.1 := by
            intro hlt
            have hnone : (y :: ys).lookup x.1 = none := lookup_eq_none (by
              intro e he
              rcases List.mem_cons.1 he with rfl | he
              · exact hlt
              · exact List.lt_trans hlt (hy e he))
            simpa [lookup_cons, hnone] using h x.1
          have hge : ¬y.1 < x.1 := by
            intro hlt
            have hnone : (x :: xs).lookup y.1 = none := lookup_eq_none (by
              intro e he
              rcases List.mem_cons.1 he with rfl | he
              · exact hlt
              · exact List.lt_trans hlt (hx e he))
            simpa [lookup_cons, hnone] using (h y.1).symm
          have heq : x.1 = y.1 := List.le_antisymm (List.not_lt.1 hge) (List.not_lt.1 hle)
          have hbody : x.2 = y.2 := by simpa [lookup_cons, heq] using h x.1
          have htail : xs = ys := ih hxs hys (fun name => by
            by_cases hn : name = x.1
            · rw [hn, lookup_eq_none hx, lookup_eq_none (heq ▸ hy)]
            · simpa [lookup_cons, hn, ← heq] using h name)
          rw [htail, Prod.ext heq hbody]

def empty : FunctionTable := ⟨[], .nil⟩

def insert (functions : FunctionTable) (name : Text) (body : List Text) : FunctionTable :=
  ⟨place name body functions.entries, place_sorted name body functions.sorted⟩

def get? (functions : FunctionTable) (name : Text) : Option (List Text) :=
  functions.entries.lookup name

@[ext] theorem ext {a b : FunctionTable} (h : ∀ name, a.get? name = b.get? name) : a = b := by
  have := entries_eq a.sorted b.sorted h
  cases a
  cases b
  congr

@[simp] theorem get?_empty (name : Text) : empty.get? name = none := rfl

theorem get?_insert (functions : FunctionTable) (name : Text) (body : List Text) (other : Text) :
    (functions.insert name body).get? other =
      if other = name then some body else functions.get? other :=
  lookup_place name body other functions.entries

theorem get?_eq_some_iff {functions : FunctionTable} {name : Text} {body : List Text} :
    functions.get? name = some body ↔ (name, body) ∈ functions.entries :=
  lookup_eq_some_iff functions.sorted

def contains (functions : FunctionTable) (name : Text) : Bool := (functions.get? name).isSome

def size (functions : FunctionTable) : Nat := functions.entries.length

theorem size_insert (functions : FunctionTable) (name : Text) (body : List Text) :
    (functions.insert name body).size =
      functions.size + if functions.contains name then 0 else 1 :=
  length_place name body functions.sorted

def names (functions : FunctionTable) : List Text := functions.entries.map Prod.fst

theorem mem_names {functions : FunctionTable} {name : Text} :
    name ∈ functions.names ↔ ∃ body, functions.get? name = some body := by
  simp [names, get?_eq_some_iff]

theorem contains_iff {functions : FunctionTable} {name : Text} :
    functions.contains name = true ↔ name ∈ functions.names := by
  rw [mem_names, contains, Option.isSome_iff_exists]

theorem get?_eq_none_iff {functions : FunctionTable} {name : Text} :
    functions.get? name = none ↔ name ∉ functions.names := by
  simp [mem_names, Option.eq_none_iff_forall_ne_some]

def ofList (entries : List (Text × List Text)) : FunctionTable :=
  entries.foldl (fun functions entry => functions.insert entry.1 entry.2) empty

end FunctionTable

end Datapack
