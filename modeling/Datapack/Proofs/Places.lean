import Datapack.Proofs.Lookups
import Datapack.Proofs.PackPaths

namespace Datapack.Proofs.Places

open Lookups PackPaths

variable {disk : Disk} {path p q : Path} {place next home : Location}
  {segments : List Text}

def advance (place : Location) : Component → Location
  | .root => []
  | .here => place
  | .up => place.dropLast
  | .name name => place ++ [name]

/-- Where a path leads by its components alone. There are no links, so a path
that can be followed leads there. -/
def placeOf (home : Location) (path : Path) : Location := path.components.foldl advance home

def spotPlace : Spot → Location
  | .directory place => place
  | .name parent name _ => parent ++ [name]

theorem segments_of_isAbsolute (h : path.isAbsolute = true) :
    ∃ rest, path.segments = [] :: rest := by
  rcases path with ⟨_ | ⟨c, t⟩⟩
  · simp [Path.isAbsolute] at h
  · obtain rfl : c = '/' := by simpa [Path.isAbsolute] using h
    exact ⟨t.splitOn '/', List.splitOn_append_cons_self [] t⟩

theorem innerComponents_cons (first : Text) (rest : List Text) :
    (first :: rest).filterMap Path.innerComponent? =
      (Path.innerComponent? first).toList ++ rest.filterMap Path.innerComponent? := by
  cases h : Path.innerComponent? first <;> simp [h]

theorem placeOf_eq_segments (home : Location) (path : Path) :
    placeOf home path = (path.segments.filterMap Path.innerComponent?).foldl advance
      (if path.isAbsolute then [] else home) := by
  cases habs : path.isAbsolute with
  | true =>
      obtain ⟨rest, hs⟩ := segments_of_isAbsolute habs
      simp [placeOf, Path.components, hs, Path.firstComponent?, habs, Path.innerComponent?, advance]
  | false =>
      cases hs : path.segments with
      | nil => simp [placeOf, Path.components, hs]
      | cons first rest =>
          have hfirst : (path.firstComponent? first).toList.foldl advance home =
              (Path.innerComponent? first).toList.foldl advance home := by
            by_cases hnil : first = []
            · simp [Path.firstComponent?, Path.innerComponent?, hnil, habs]
            · by_cases hdot : first = ['.']
              · simp [Path.firstComponent?, Path.innerComponent?, hdot, advance]
              · simp [Path.firstComponent?, hnil, hdot]
          rw [innerComponents_cons, List.foldl_append, if_neg (by simp), ← hfirst]
          simp [placeOf, Path.components, hs, List.foldl_append]

theorem placeOf_names {names : List Text} (h : path.components = names.map .name) :
    placeOf home path = home ++ names := by
  rw [placeOf, h]
  clear h
  induction names generalizing home with
  | nil => simp
  | cons name names ih => simp [advance, ih]

theorem innerComponents_namesOf (path : Path) :
    (namesOf path).filterMap Path.innerComponent? =
      path.segments.filterMap Path.innerComponent? := by
  rw [namesOf, List.filterMap_filter]
  congr 1
  funext segment
  cases segment <;> simp [Path.innerComponent?]

theorem namesOf_slash (t r : Text) : namesOf ⟨t ++ '/' :: r⟩ = namesOf ⟨t⟩ ++ namesOf ⟨r⟩ := by
  simp [namesOf, Path.segments, List.splitOn_append_cons_self]

theorem namesOf_nil : namesOf ⟨[]⟩ = [] := by decide

theorem namesOf_single {name : Text} (h : '/' ∉ name) (hne : name ≠ []) :
    namesOf ⟨name⟩ = [name] := by
  simp [namesOf, Path.segments, List.splitOn_eq_singleton h, hne]

theorem namesOf_join (hq : q.isAbsolute = false) :
    namesOf (p.join q) = namesOf p ++ namesOf q := by
  by_cases hp : p.text = []
  · have hjoin : p.join q = q := by simp [Path.join, hp]
    have hnil : namesOf p = [] := (congrArg (fun t => namesOf ⟨t⟩) hp).trans namesOf_nil
    rw [hjoin, hnil, List.nil_append]
  · rw [join_relative hq hp]
    cases hend : p.endsInSlash with
    | true =>
        have hlast : p.text.getLast? = some '/' := by simpa [Path.endsInSlash] using hend
        obtain ⟨front, hfront⟩ := List.getLast?_eq_some_iff.1 hlast
        have hp : namesOf p = namesOf ⟨front⟩ := by
          have hslash := namesOf_slash front []
          rwa [← hfront, namesOf_nil, List.append_nil] at hslash
        have htext : p.text ++ q.text = front ++ '/' :: q.text := by simp [hfront]
        rw [hp, if_pos rfl, htext, namesOf_slash]
    | false => exact namesOf_slash p.text q.text

theorem placeOf_join (home : Location) (p : Path) (hq : q.isAbsolute = false) :
    placeOf home (p.join q) = placeOf (placeOf home p) q := by
  by_cases hp : p.text = []
  · have hjoin : p.join q = q := by simp [Path.join, hp]
    have hhome : placeOf home p = home := by
      simp [placeOf, Path.components, Path.segments, hp, Path.firstComponent?, Path.isAbsolute]
    rw [hjoin, hhome]
  · rw [placeOf_eq_segments, isAbsolute_join hq hp, ← innerComponents_namesOf, namesOf_join hq,
      List.filterMap_append, List.foldl_append, innerComponents_namesOf, innerComponents_namesOf,
      ← placeOf_eq_segments, placeOf_eq_segments _ q, hq]
    simp

theorem enters_place {segment : Text} (h : Enters disk.tree place segment next)
    (hne : segment ≠ []) : next = (Path.innerComponent? segment).toList.foldl advance place := by
  cases h with
  | here => simp [Path.innerComponent?]
  | up => simp [Path.innerComponent?, advance]
  | name hdot hdots => simp [Path.innerComponent?, hne, hdot, hdots, advance]

theorem walk_place (h : disk.walk place segments = .ok next) (hne : ∀ s ∈ segments, s ≠ []) :
    next = (segments.filterMap Path.innerComponent?).foldl advance place := by
  induction segments generalizing place with
  | nil => cases h; rfl
  | cons segment segments ih =>
      obtain ⟨hs, hrest⟩ := List.forall_mem_cons.1 hne
      obtain ⟨middle, henter, hwalk⟩ := walk_cons_eq_ok_iff.1 h
      rw [innerComponents_cons, List.foldl_append, ← enters_place henter hs]
      exact ih hwalk hrest

theorem ends_place {slash : Bool} {last : Text} {spot : Spot} (h : Ends place slash last spot)
    (hne : last ≠ []) :
    spotPlace spot = (Path.innerComponent? last).toList.foldl advance place := by
  cases h with
  | here => simp [Path.innerComponent?, spotPlace]
  | up => simp [Path.innerComponent?, advance, spotPlace]
  | name hdot hdots => simp [Path.innerComponent?, hne, hdot, hdots, advance, spotPlace]

theorem locate_place {spot : Spot} (h : disk.locate path = .ok spot) :
    spotPlace spot = placeOf disk.home path := by
  rw [placeOf_eq_segments, ← innerComponents_namesOf, ← Disk.origin]
  have hne : ∀ s ∈ namesOf path, s ≠ [] := by simp [namesOf]
  cases (locate_eq_ok_iff.1 h).2 with
  | origin hnames =>
      rw [hnames]
      rfl
  | last hnames hwalk hend =>
      rw [hnames] at hne ⊢
      obtain ⟨hinner, hlast⟩ := List.forall_mem_append.1 hne
      rw [List.filterMap_append, List.foldl_append, ← walk_place hwalk hinner,
        ends_place hend (hlast _ (by simp)), innerComponents_cons]
      simp

end Datapack.Proofs.Places
