import Datapack.Proofs.DiskSteps
import Datapack.Proofs.Runs

namespace Datapack.Proofs.Parents

open Emission Lookups Places DiskSteps Runs

variable {disk : Disk} {path : Path} {place next : Location} {name front : Text}
  {segments inner : List Text}

/-- Nothing but slashes and lone dots is removed from the end. -/
theorem namesOf_dropIdle (t : Text) : ∃ dots, namesOf ⟨t.reverse⟩ =
    namesOf ⟨(Path.dropIdle t).reverse⟩ ++ List.replicate dots ['.'] := by
  fun_induction Path.dropIdle t with
  | case1 t ih =>
      obtain ⟨dots, hdots⟩ := ih
      exact ⟨dots, by rw [List.reverse_cons, namesOf_slash, namesOf_nil, List.append_nil, hdots]⟩
  | case2 => exact ⟨1, by decide⟩
  | case3 t ih =>
      obtain ⟨dots, hdots⟩ := ih
      have hdot : namesOf ⟨['.']⟩ = [['.']] := by decide
      refine ⟨dots + 1, ?_⟩
      have hreverse : ('.' :: '/' :: t).reverse = t.reverse ++ '/' :: ['.'] := by simp
      rw [hreverse, namesOf_slash, hdots, hdot, List.replicate_succ', List.append_assoc]
  | case4 t => exact ⟨0, by simp⟩

theorem dropIdle_suffix (t : Text) : Path.dropIdle t <:+ t := by
  fun_induction Path.dropIdle t with
  | case1 t ih => exact ih.trans (List.suffix_cons _ _)
  | case2 => exact List.nil_suffix
  | case3 t ih => exact ih.trans ((List.suffix_cons _ _).trans (List.suffix_cons _ _))
  | case4 t => exact List.suffix_refl t

theorem namesOf_front (hfront : ∀ c ∈ front.getLast?, c = '/') (hname : '/' ∉ name)
    (hne : name ≠ []) : namesOf ⟨front ++ name⟩ = namesOf ⟨front⟩ ++ [name] := by
  rcases List.eq_nil_or_concat front with rfl | ⟨above, c, rfl⟩
  · rw [List.nil_append, namesOf_single hname hne, namesOf_nil, List.nil_append]
  · obtain rfl : c = '/' := hfront c (by simp)
    have hsplit : above.concat '/' ++ name = above ++ '/' :: name := by simp
    rw [hsplit, namesOf_slash, namesOf_single hname hne, List.concat_eq_append, namesOf_slash,
      namesOf_nil, List.append_nil]

/-- A path that does not end in a slash, cut before its last name. -/
theorem exists_front (hne : path.text ≠ []) (hend : path.endsInSlash = false) :
    ∃ front name, path.text = front ++ name ∧ '/' ∉ name ∧ name ≠ [] ∧
      ∀ c ∈ front.getLast?, c = '/' := by
  obtain ⟨t⟩ := path
  let back := t.reverse.takeWhile (fun c => c ≠ '/')
  let rest := t.reverse.dropWhile (fun c => c ≠ '/')
  have hsplit : back ++ rest = t.reverse := List.takeWhile_append_dropWhile
  have hback : '/' ∉ back := fun hm => by
    simpa using List.all_eq_true.1 List.all_takeWhile _ hm
  have hrest : ∀ c ∈ rest.head?, c = '/' := by
    intro c hc
    have hhead := List.head?_dropWhile_not (fun c => decide (c ≠ '/')) t.reverse
    rw [Option.mem_def.1 hc] at hhead
    simpa using hhead
  refine ⟨rest.reverse, back.reverse, ?_, by simpa using hback, ?_, by simpa using hrest⟩
  · rw [← List.reverse_append, hsplit, List.reverse_reverse]
  · intro hnil
    rw [List.reverse_eq_nil_iff.1 hnil, List.nil_append] at hsplit
    rw [hsplit, List.head?_reverse] at hrest
    obtain ⟨c, hc⟩ := Option.isSome_iff_exists.1 (List.getLast?_isSome.2 hne)
    obtain rfl := hrest c hc
    simp [Path.endsInSlash, hc] at hend

theorem dropIdle_of_name {r : Text} (hname : '/' ∉ name) (hne : name ≠ []) (hdot : name ≠ ['.']) :
    Path.dropIdle (name ++ r) = name ++ r := by
  obtain ⟨c, rest, rfl⟩ := List.exists_cons_of_ne_nil hne
  apply Path.dropIdle.eq_4
  · rintro tail heq
    obtain ⟨rfl, -⟩ := List.cons.inj heq
    simp at hname
  · intro heq
    obtain ⟨rfl, hnil⟩ := List.cons.inj heq
    exact hdot (by rw [(List.append_eq_nil_iff.1 hnil).1])
  · rintro tail heq
    obtain ⟨rfl, hrest⟩ := List.cons.inj heq
    cases rest with
    | nil => exact hdot rfl
    | cons d rest =>
        obtain ⟨rfl, -⟩ := List.cons.inj hrest
        simp at hname

/-- How the part of a path begins that no removal of names touches. -/
inductive Anchored : Text → Nat → Prop
  | free (t) : Anchored t 0
  | slash (t) : Anchored ('/' :: t) 1
  | lone : Anchored ['.'] 1
  | dot (t) : Anchored ('.' :: '/' :: t) 1

theorem anchored (path : Path) : Anchored path.text path.anchorSize := by
  rw [Path.anchorSize]
  split
  · rename_i heq
    exact heq ▸ .slash _
  · rename_i heq
    exact heq ▸ .lone
  · rename_i heq
    exact heq ▸ .dot _
  · exact .free _

/-- What is in front of the last name begins with the anchor, and names that
follow the anchor do not run into it. -/
theorem exists_body {n : Nat} (h : Anchored (front ++ name) n) (hname : '/' ∉ name)
    (hne : name ≠ []) (hdot : name ≠ ['.']) :
    ∃ anchor body, (front ++ name).take n = anchor ∧ (front ++ name).drop n = body ++ name ∧
      front = anchor ++ body ∧
      ∀ t, t <+: body → namesOf ⟨anchor ++ t⟩ = namesOf ⟨anchor⟩ ++ namesOf ⟨t⟩ := by
  generalize htext : front ++ name = text at h
  cases h with
  | free => exact ⟨[], front, rfl, htext.symm, rfl, fun t _ => by simp [namesOf_nil]⟩
  | lone =>
      cases front with
      | nil => exact absurd htext hdot
      | cons c body =>
          obtain ⟨-, hnil⟩ := List.cons.inj htext
          exact absurd (List.append_eq_nil_iff.1 hnil).2 hne
  | slash t =>
      cases front with
      | nil =>
          rw [List.nil_append] at htext
          simp [htext] at hname
      | cons c body =>
          obtain ⟨rfl, rfl⟩ := List.cons.inj htext
          refine ⟨['/'], body, rfl, rfl, rfl, fun t _ => ?_⟩
          have hroot : namesOf ⟨['/']⟩ = [] := by decide
          rw [hroot]
          exact namesOf_slash [] t
  | dot t =>
      cases front with
      | nil =>
          rw [List.nil_append] at htext
          simp [htext] at hname
      | cons c body =>
          obtain ⟨rfl, hrest⟩ := List.cons.inj htext
          refine ⟨['.'], body, rfl, hrest.symm, rfl, fun t ht => ?_⟩
          cases t with
          | nil => simp [namesOf_nil]
          | cons d t =>
              obtain ⟨r, rfl⟩ := ht
              obtain ⟨rfl, -⟩ := List.cons.inj hrest
              exact (namesOf_slash ['.'] t).trans (congrArg _ (namesOf_slash [] t).symm)

/-- Above a path are the names before its last one, without the lone dots after them. -/
theorem parent?_of_names (hnames : namesOf path = inner ++ [name]) (hdot : name ≠ ['.'])
    (hend : path.endsInSlash = false) : ∃ above dots, path.parent? = some above ∧
      above.text <+: path.text ∧ inner = namesOf above ++ List.replicate dots ['.'] := by
  have hnil : path.text ≠ [] := by
    intro hnil
    have hpath : path = ⟨[]⟩ := congrArg Path.mk hnil
    rw [hpath, namesOf_nil] at hnames
    simp at hnames
  obtain ⟨front, last, htext, hlast, hne, hfront⟩ := exists_front hnil hend
  have hcut : namesOf path = namesOf ⟨front⟩ ++ [last] := by
    rw [← namesOf_front hfront hlast hne, ← htext]
  obtain ⟨rfl, hsame⟩ := List.append_inj' (hnames.symm.trans hcut) rfl
  obtain rfl : name = last := List.singleton_inj.1 hsame
  obtain ⟨anchor, body, hanchor, hbody, rfl, hjoin⟩ :=
    exists_body (htext ▸ anchored path) hlast hne hdot
  rw [← htext] at hanchor hbody
  have hidle : Path.dropIdle (path.text.drop path.anchorSize).reverse =
      name.reverse ++ body.reverse := by
    rw [hbody, List.reverse_append]
    refine dropIdle_of_name (by simpa using hlast) (by simpa using hne) fun h => hdot ?_
    simpa using congrArg List.reverse h
  have hrest : (name.reverse ++ body.reverse).dropWhile (fun c => c ≠ '/') = body.reverse := by
    refine dropWhile_eq_iff.2 ⟨name.reverse, rfl, fun c hc => ?_, fun c hc => ?_⟩
    · exact decide_eq_true fun he => hlast (he ▸ List.mem_reverse.1 hc)
    · rw [List.head?_reverse] at hc
      obtain rfl := hfront c (by simp [List.getLast?_append, Option.mem_def.1 hc])
      rfl
  obtain ⟨dots, hdots⟩ := namesOf_dropIdle body.reverse
  rw [List.reverse_reverse] at hdots
  have htrim : (Path.dropIdle body.reverse).reverse <+: body := by
    rw [← List.reverse_suffix, List.reverse_reverse]
    exact dropIdle_suffix body.reverse
  refine ⟨⟨anchor ++ (Path.dropIdle body.reverse).reverse⟩, dots, ?_, ?_, ?_⟩
  · simp only [Path.parent?, hidle, hanchor]
    split
    · rename_i hnone
      exact absurd (List.append_eq_nil_iff.1 hnone).1 (by simpa using hne)
    · rw [hrest]
  · rw [htext]
    exact ((List.prefix_append_right_inj anchor).2 htrim).trans (List.prefix_append _ _)
  · rw [hjoin body (List.prefix_refl body), hjoin _ htrim, hdots, List.append_assoc]

theorem fits_above {above : Path} (h : above.text <+: path.text) (hne : above.text ≠ [])
    (hfits : Fits path) : Fits above := by
  obtain ⟨hnul, -, hsize⟩ := hfits
  refine ⟨fun hm => hnul (h.subset hm), hne, fun hlong => hsize ?_⟩
  obtain ⟨rest, hrest⟩ := h
  rw [← hrest, Text.utf8Size_append]
  omega

theorem origin_above {above : Path} (h : above.text <+: path.text) (hne : above.text ≠ []) :
    disk.origin above = disk.origin path := by
  obtain ⟨rest, hrest⟩ := h
  obtain ⟨c, t, ht⟩ := List.exists_cons_of_ne_nil hne
  simp [Disk.origin, Path.isAbsolute, ← hrest, ht]

/-- Above a path that leads to a name in a directory there is this directory. -/
theorem parent?_of_locate (h : disk.locate path = .ok (.name place name false)) :
    ∃ above, path.parent? = some above ∧
      (above.text ≠ [] → disk.find above = .ok .directory) := by
  obtain ⟨hfits, hleads⟩ := locate_eq_ok_iff.1 h
  generalize hspot : Spot.name place name false = spot at hleads
  cases hleads with
  | origin => cases hspot
  | last hnames hwalk hend =>
      generalize hslash : path.endsInSlash = slash at hend
      cases hend with
      | here | up => cases hspot
      | name hdot hdots =>
          cases hspot
          obtain ⟨above, dots, hparent, habove, rfl⟩ := parent?_of_names hnames hdot hslash
          refine ⟨above, hparent, fun hne => ?_⟩
          -- the walk to the last name comes by the place above before the lone dots
          obtain ⟨middle, hmiddle, -⟩ := walk_append_eq_ok_iff.1 hwalk
          rw [← origin_above habove hne] at hmiddle
          exact find_directory_iff.2 ⟨fits_above habove hne hfits, middle, hmiddle⟩

end Datapack.Proofs.Parents
