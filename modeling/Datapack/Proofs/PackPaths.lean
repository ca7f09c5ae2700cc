import Datapack.Pack.Render
import Mathlib.Data.List.Infix

namespace Datapack.Proofs.PackPaths

open Layout

variable {name other tag : Text} {functions : FunctionTable}

def IsPlain (segment : Text) : Prop :=
  '/' ∉ segment ∧ segment ≠ [] ∧ segment ≠ ['.'] ∧ segment ≠ ['.', '.']

/-- Neither place is at, above or below the other. -/
def Apart (p q : Path) : Prop :=
  ¬p.components <+: q.components ∧ ¬q.components <+: p.components

theorem innerComponent?_plain {segment : Text} (h : IsPlain segment) :
    Path.innerComponent? segment = some (.name segment) := by
  simp [Path.innerComponent?, h.2.1, h.2.2.1, h.2.2.2]

theorem isAbsolute_plain {segment : Text} (h : IsPlain segment) :
    (⟨segment⟩ : Path).isAbsolute = false := by
  cases segment with
  | nil => rfl
  | cons c segment =>
      have hc : c ≠ '/' := fun he => h.1 (by simp [he])
      simpa [Path.isAbsolute] using hc

theorem join_relative {p q : Path} (hq : q.isAbsolute = false) (hp : p.text ≠ []) :
    p.join q = if p.endsInSlash then ⟨p.text ++ q.text⟩ else ⟨p.text ++ '/' :: q.text⟩ := by
  simp [Path.join, hq, hp]

theorem isAbsolute_join {p q : Path} (hq : q.isAbsolute = false) (hp : p.text ≠ []) :
    (p.join q).isAbsolute = p.isAbsolute := by
  obtain ⟨c, t, ht⟩ := List.exists_cons_of_ne_nil hp
  rw [join_relative hq hp]
  split <;> simp [Path.isAbsolute, ht]

theorem join_plain {p : Path} {segment : Text} (hp : p.text ≠ [])
    (hend : p.endsInSlash = false) (h : IsPlain segment) :
    p.join ⟨segment⟩ = ⟨p.text ++ '/' :: segment⟩ := by
  simp [join_relative (isAbsolute_plain h) hp, hend]

theorem components_join {p : Path} {segment : Text} (hp : p.text ≠ [])
    (hend : p.endsInSlash = false) (h : IsPlain segment) :
    (p.join ⟨segment⟩).components = p.components ++ [.name segment] := by
  have hsegments : (p.join ⟨segment⟩).segments = p.segments ++ [segment] := by
    rw [join_plain hp hend h, Path.segments, List.splitOn_append_cons_self,
      List.splitOn_eq_singleton h.1]
    rfl
  cases hs : p.segments with
  | nil => exact absurd hs (List.splitOn_ne_nil _ _)
  | cons first rest =>
      have hfirst : (p.join ⟨segment⟩).firstComponent? first = p.firstComponent? first := by
        simp only [Path.firstComponent?, isAbsolute_join (isAbsolute_plain h) hp]
      rw [Path.components, hsegments, Path.components, hs]
      simp [hfirst, innerComponent?_plain h]

theorem isPlain_suffix (h : '/' ∉ name) : IsPlain (name ++ ".mcfunction".toList) := by
  have hlen : 11 ≤ (name ++ ".mcfunction".toList).length := by
    simp [List.length_append]
  refine ⟨by simp [h], ?_, ?_, ?_⟩ <;> intro he <;> rw [he] at hlen <;> simp at hlen

theorem functionPath_components (h : '/' ∉ name) :
    (functionPath name).components =
      functionsDirectory.components ++ [.name (name ++ ".mcfunction".toList)] :=
  components_join (by decide) (by decide) (isPlain_suffix h)

theorem functionPath_relative (h : '/' ∉ name) : (functionPath name).isAbsolute = false :=
  (isAbsolute_join (isAbsolute_plain (isPlain_suffix h)) (by decide)).trans (by decide)

theorem functionsDirectory_components : functionsDirectory.components =
    [.name "data".toList, .name namespaceName, .name "functions".toList] := by decide

theorem tagsDirectory_components : tagsDirectory.components =
    [.name "data".toList, .name namespaceName, .name "tags".toList, .name "functions".toList] := by
  decide

theorem tagPath_components (h : tag ∈ tags) :
    (tagPath tag).components = tagsDirectory.components ++ [.name (tag ++ ".json".toList)] := by
  simp only [tags, List.mem_cons, List.not_mem_nil, or_false] at h
  rcases h with rfl | rfl <;> decide

theorem manifestPath_components :
    manifestPath.components = [.name "pack.mcmeta".toList] := by decide

theorem functionPath_samePlace_iff (h : '/' ∉ name) (h' : '/' ∉ other) :
    (functionPath name).samePlace (functionPath other) = true ↔ name = other := by
  simp [Path.samePlace, functionPath_components h, functionPath_components h']

theorem functions_apart (h : '/' ∉ name) (h' : '/' ∉ other) (hne : name ≠ other) :
    Apart (functionPath name) (functionPath other) := by
  simp [Apart, functionPath_components h, functionPath_components h',
    List.prefix_append_right_inj, List.cons_prefix_cons, hne, Ne.symm hne]

theorem function_apart_tag (h : '/' ∉ name) (htag : tag ∈ tags) :
    Apart (functionPath name) (tagPath tag) := by
  have hdir : Component.name "functions".toList ≠ .name "tags".toList := by decide
  simp only [Apart, functionPath_components h, tagPath_components htag,
    functionsDirectory_components, tagsDirectory_components, List.cons_append, List.cons_prefix_cons,
    hdir, hdir.symm, false_and, and_false, not_false_eq_true, and_self]

theorem tag_apart_manifest (htag : tag ∈ tags) : Apart (tagPath tag) manifestPath := by
  have hfile : Component.name "data".toList ≠ .name "pack.mcmeta".toList := by decide
  simp only [Apart, tagPath_components htag, tagsDirectory_components, manifestPath_components,
    List.cons_append, List.cons_prefix_cons, hfile, hfile.symm, false_and, not_false_eq_true,
    and_self]

theorem function_apart_manifest (h : '/' ∉ name) : Apart (functionPath name) manifestPath := by
  have hfile : Component.name "data".toList ≠ .name "pack.mcmeta".toList := by decide
  simp only [Apart, functionPath_components h, functionsDirectory_components,
    manifestPath_components, List.cons_append, List.cons_prefix_cons, hfile, hfile.symm, false_and,
    not_false_eq_true, and_self]

instance (p q : Path) : Decidable (Apart p q) := inferInstanceAs (Decidable (_ ∧ _))

theorem files_apart (h : ∀ name ∈ functions.names, '/' ∉ name) :
    (Artifact.ofFunctions functions).files.Pairwise (fun a b => Apart a.path b.path) := by
  have hentry : ∀ entry ∈ functions.entries, '/' ∉ entry.1 :=
    fun entry he => h entry.1 (List.mem_map_of_mem he)
  simp only [Artifact.ofFunctions, List.pairwise_append, List.pairwise_map]
  refine ⟨⟨?_, by decide, ?_⟩, List.pairwise_singleton _ _, ?_⟩
  · refine functions.sorted.imp_of_mem fun {a b} ha hb hlt => ?_
    have hne : a.1 ≠ b.1 := fun he => List.lt_irrefl b.1 (he ▸ hlt)
    exact functions_apart (hentry a ha) (hentry b hb) hne
  · intro a ha b hb
    obtain ⟨entry, he, rfl⟩ := List.mem_map.1 ha
    obtain ⟨tag, ht, rfl⟩ := List.mem_map.1 hb
    exact function_apart_tag (hentry entry he) ht
  · intro a ha b hb
    obtain rfl := List.mem_singleton.1 hb
    rcases List.mem_append.1 ha with ha | ha
    · obtain ⟨entry, he, rfl⟩ := List.mem_map.1 ha
      exact function_apart_manifest (hentry entry he)
    · obtain ⟨tag, ht, rfl⟩ := List.mem_map.1 ha
      exact tag_apart_manifest ht

@[elab_as_elim]
theorem files_cases {P : PackFile → Prop} {file : PackFile}
    (h : ∀ name ∈ functions.names, '/' ∉ name)
    (hfile : file ∈ (Artifact.ofFunctions functions).files)
    (hfunction : ∀ name commands, '/' ∉ name → P (Artifact.functionFile name commands))
    (htag : ∀ tag ∈ tags, P (Artifact.tagFile tag)) (hmanifest : P Artifact.manifestFile) :
    P file := by
  simp only [Artifact.ofFunctions, List.mem_append, List.mem_singleton] at hfile
  rcases hfile with (hfile | hfile) | rfl
  · obtain ⟨entry, he, rfl⟩ := List.mem_map.1 hfile
    exact hfunction entry.1 entry.2 (h entry.1 (List.mem_map_of_mem he))
  · obtain ⟨tag, ht, rfl⟩ := List.mem_map.1 hfile
    exact htag tag ht
  · exact hmanifest

theorem file_not_above_directory (h : ∀ name ∈ functions.names, '/' ∉ name) :
    ∀ file ∈ (Artifact.ofFunctions functions).files,
      ∀ directory ∈ (Artifact.ofFunctions functions).directories,
        ¬file.path.components <+: directory.components := by
  intro file hfile directory hdirectory
  simp only [Artifact.ofFunctions, List.mem_cons, List.not_mem_nil, or_false] at hdirectory
  refine files_cases h hfile (fun name commands hname => ?_) (fun tag ht => ?_) ?_
  · simp only [Artifact.functionFile, functionPath_components hname, functionsDirectory_components]
    rcases hdirectory with rfl | rfl
    · simp [functionsDirectory_components, List.cons_prefix_cons]
    · simp [tagsDirectory_components, List.cons_prefix_cons]
  · simp only [Artifact.tagFile, tagPath_components ht, tagsDirectory_components]
    rcases hdirectory with rfl | rfl
    · simp [functionsDirectory_components, List.cons_prefix_cons]
    · simp [tagsDirectory_components, List.cons_prefix_cons]
  · simp only [Artifact.manifestFile, manifestPath_components]
    rcases hdirectory with rfl | rfl
    · simp [functionsDirectory_components, List.cons_prefix_cons]
    · simp [tagsDirectory_components, List.cons_prefix_cons]

theorem find?_functionFile (name : Text) (hname : '/' ∉ name)
    {entries : List (Text × List Text)} (h : ∀ entry ∈ entries, '/' ∉ entry.1) :
    (entries.map (fun entry => Artifact.functionFile entry.1 entry.2)).find?
        (fun file => file.path.samePlace (functionPath name)) =
      (entries.lookup name).map (Artifact.functionFile name) := by
  induction entries with
  | nil => rfl
  | cons entry entries ih =>
      obtain ⟨hentry, hentries⟩ := List.forall_mem_cons.1 h
      have hsame := functionPath_samePlace_iff hentry hname
      rw [List.map_cons, List.find?_cons, Lookup.lookup_cons]
      by_cases heq : name = entry.1
      · subst heq
        simp [Artifact.functionFile, hsame.2 rfl]
      · have hother : (functionPath entry.1).samePlace (functionPath name) = false :=
          Bool.eq_false_iff.2 fun hs => heq (hsame.1 hs).symm
        simpa [Artifact.functionFile, hother, heq] using ih hentries

theorem file?_functionPath (hname : '/' ∉ name) (h : ∀ name ∈ functions.names, '/' ∉ name) :
    (Artifact.ofFunctions functions).file? (functionPath name) =
      (functions.get? name).map (Artifact.functionFile name) := by
  have hentry : ∀ entry ∈ functions.entries, '/' ∉ entry.1 :=
    fun entry he => h entry.1 (List.mem_map_of_mem he)
  have hfixed : (tags.map Artifact.tagFile ++ [Artifact.manifestFile]).find?
      (fun file => file.path.samePlace (functionPath name)) = none := by
    refine List.find?_eq_none.2 fun file hfile => ?_
    rcases List.mem_append.1 hfile with hfile | hfile
    · obtain ⟨tag, ht, rfl⟩ := List.mem_map.1 hfile
      simp [Path.samePlace, Artifact.tagFile, tagPath_components ht, functionPath_components hname,
        functionsDirectory_components, tagsDirectory_components]
    · obtain rfl := List.mem_singleton.1 hfile
      simp [Path.samePlace, Artifact.manifestFile, manifestPath_components,
        functionPath_components hname, functionsDirectory_components]
  rw [Artifact.file?, Artifact.ofFunctions, List.append_assoc, List.find?_append, hfixed,
    Option.or_none, find?_functionFile name hname hentry]
  rfl

end Datapack.Proofs.PackPaths
