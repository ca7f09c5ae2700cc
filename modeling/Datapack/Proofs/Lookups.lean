import Datapack.Disk.Basic

namespace Datapack.Proofs.Lookups

variable {disk : Disk} {path : Path} {place next : Location} {segment : Text}
  {segments : List Text} {spot : Spot} {entry : Entry}

section Bind

variable {ε α β : Type} {x : Except ε α} {f : α → Except ε β} {b : β} {e : ε}

theorem bind_eq_ok_iff : x >>= f = .ok b ↔ ∃ a, x = .ok a ∧ f a = .ok b := by
  cases x <;> simp [bind, Except.bind]

theorem map_eq_ok_iff {f : α → β} : x.map f = .ok b ↔ ∃ a, x = .ok a ∧ f a = b := by
  cases x <;> simp [Except.map]

theorem bind_ne_error (hx : x ≠ .error e) (hf : ∀ a, f a ≠ .error e) : x >>= f ≠ .error e := by
  cases x with
  | error e' => simpa [bind, Except.bind] using hx
  | ok a => exact hf a

end Bind

inductive Enters (tree : Tree) (place : Location) : Text → Location → Prop
  | here : Enters tree place ['.'] place
  | up : Enters tree place ['.', '.'] place.dropLast
  | name {segment : Text} (hdot : segment ≠ ['.']) (hdots : segment ≠ ['.', '.'])
      (hsize : ¬Disk.maxNameSize < segment.utf8Size)
      (hget : tree.get? (place ++ [segment]) = some .directory) :
      Enters tree place segment (place ++ [segment])

theorem enter_eq_ok_iff :
    disk.enter place segment = .ok next ↔ Enters disk.tree place segment next := by
  constructor
  · intro h
    simp only [Disk.enter] at h
    split at h
    · rename_i hdot
      cases h
      exact hdot ▸ .here
    · split at h
      · rename_i hdots
        cases h
        exact hdots ▸ .up
      · rename_i hdot hdots
        split at h
        · cases h
        · rename_i hsize
          split at h <;> cases h
          rename_i hget
          exact .name hdot hdots hsize hget
  · intro h
    cases h with
    | here | up => rfl
    | name hdot hdots hsize hget => simp [Disk.enter, hdot, hdots, hsize, hget]

theorem walk_cons_eq_ok_iff : disk.walk place (segment :: segments) = .ok next ↔
    ∃ middle, Enters disk.tree place segment middle ∧ disk.walk middle segments = .ok next := by
  simp only [Disk.walk, List.foldlM_cons, bind_eq_ok_iff, enter_eq_ok_iff]

theorem walk_append_eq_ok_iff {segments' : List Text} :
    disk.walk place (segments ++ segments') = .ok next ↔
      ∃ middle, disk.walk place segments = .ok middle ∧ disk.walk middle segments' = .ok next := by
  rw [Disk.walk, List.foldlM_append, bind_eq_ok_iff]
  rfl

def namesOf (path : Path) : List Text := path.segments.filter (fun segment => !segment.isEmpty)

inductive Ends (place : Location) (slash : Bool) : Text → Spot → Prop
  | here : Ends place slash ['.'] (.directory place)
  | up : Ends place slash ['.', '.'] (.directory place.dropLast)
  | name {last : Text} (hdot : last ≠ ['.']) (hdots : last ≠ ['.', '.']) :
      Ends place slash last (.name place last slash)

def Fits (path : Path) : Prop :=
  '\x00' ∉ path.text ∧ path.text ≠ [] ∧ ¬Disk.maxPathSize < path.text.utf8Size

inductive Leads (disk : Disk) (path : Path) : Spot → Prop
  | origin (hnames : namesOf path = []) : Leads disk path (.directory (disk.origin path))
  | last {inner last place spot} (hnames : namesOf path = inner ++ [last])
      (hwalk : disk.walk (disk.origin path) inner = .ok place)
      (hend : Ends place path.endsInSlash last spot) : Leads disk path spot

theorem ends_iff {slash : Bool} : Ends place slash segment spot ↔
    (if segment = ['.'] then .ok (.directory place)
      else if segment = ['.', '.'] then .ok (.directory place.dropLast)
      else .ok (.name place segment slash) : Except Cause Spot) = .ok spot := by
  constructor
  · intro h
    cases h with
    | here | up => rfl
    | name hdot hdots => simp [hdot, hdots]
  · intro h
    split at h
    · rename_i hdot
      cases h
      exact hdot ▸ .here
    · split at h
      · rename_i hdots
        cases h
        exact hdots ▸ .up
      · rename_i hdot hdots
        cases h
        exact .name hdot hdots

theorem locate_eq_ok_iff : disk.locate path = .ok spot ↔ Fits path ∧ Leads disk path spot := by
  constructor
  · intro h
    simp only [Disk.locate] at h
    split at h
    · cases h
    · rename_i hnul
      split at h
      · cases h
      · rename_i hne
        split at h
        · cases h
        · rename_i hsize
          refine ⟨⟨by simpa using hnul, by simpa using hne, hsize⟩, ?_⟩
          split at h
          · rename_i hnone
            cases h
            exact .origin (List.getLast?_eq_none_iff.1 hnone)
          · rename_i last hlast
            obtain ⟨inner, hnames⟩ := List.getLast?_eq_some_iff.1 hlast
            obtain ⟨place, hwalk, hend⟩ := bind_eq_ok_iff.1 h
            rw [hnames, List.dropLast_concat] at hwalk
            exact .last hnames hwalk (ends_iff.2 hend)
  · rintro ⟨⟨hnul, hne, hsize⟩, h⟩
    simp only [Disk.locate, List.contains_iff_mem, hnul, List.isEmpty_iff, hne, hsize, if_false]
    cases h with
    | origin hnames =>
        rw [namesOf] at hnames
        rw [hnames]
        rfl
    | last hnames hwalk hend =>
        rw [namesOf] at hnames
        rw [hnames, List.getLast?_concat, List.dropLast_concat]
        exact bind_eq_ok_iff.2 ⟨_, hwalk, ends_iff.1 hend⟩

/-- The entry that is found at a spot. A slash after the name of a file finds nothing. -/
inductive Shows (tree : Tree) : Spot → Entry → Prop
  | directory {parent} : Shows tree (.directory parent) .directory
  | name {parent name slash entry} (hsize : ¬Disk.maxNameSize < name.utf8Size)
      (hget : tree.get? (parent ++ [name]) = some entry)
      (hslash : slash = true → entry = .directory) : Shows tree (.name parent name slash) entry

theorem find_eq_ok_iff : disk.find path = .ok entry ↔
    ∃ spot, disk.locate path = .ok spot ∧ Shows disk.tree spot entry := by
  rw [Disk.find, bind_eq_ok_iff]
  refine exists_congr fun spot => and_congr_right fun _ => ?_
  cases spot with
  | directory place =>
      refine ⟨fun h => ?_, fun h => ?_⟩
      · cases h
        exact .directory
      · cases h
        rfl
  | name parent name slash =>
      refine ⟨fun h => ?_, fun h => ?_⟩
      · simp only at h
        split at h
        · cases h
        · rename_i hsize
          split at h
          · cases h
          · rename_i hget
            cases h
            exact .name hsize hget fun _ => rfl
          · rename_i hget
            split at h
            · cases h
            · rename_i hslash
              cases h
              exact .name hsize hget fun hs => absurd hs hslash
      · cases h with
        | name hsize hget hslash =>
            simp only [if_neg hsize, hget]
            cases entry with
            | directory => rfl
            | file contents => exact if_neg fun hs => nomatch hslash hs

theorem find_directory_iff : disk.find path = .ok .directory ↔
    Fits path ∧ ∃ place, disk.walk (disk.origin path) (namesOf path) = .ok place := by
  constructor
  · intro h
    obtain ⟨spot, hl, hshows⟩ := find_eq_ok_iff.1 h
    obtain ⟨hfits, hleads⟩ := locate_eq_ok_iff.1 hl
    refine ⟨hfits, ?_⟩
    cases hleads with
    | origin hnames => exact ⟨_, by rw [hnames]; rfl⟩
    | @last inner last place spot hnames hwalk hend =>
        have henter : ∃ next, Enters disk.tree place last next := by
          cases hend with
          | here => exact ⟨_, .here⟩
          | up => exact ⟨_, .up⟩
          | name hdot hdots =>
              cases hshows with
              | name hsize hget hslash => exact ⟨_, .name hdot hdots hsize hget⟩
        obtain ⟨next, henter⟩ := henter
        refine ⟨next, ?_⟩
        rw [hnames]
        exact walk_append_eq_ok_iff.2 ⟨place, hwalk, walk_cons_eq_ok_iff.2 ⟨next, henter, rfl⟩⟩
  · rintro ⟨hfits, next, hwalk⟩
    rcases List.eq_nil_or_concat (namesOf path) with hnames | ⟨inner, last, hnames⟩
    · exact find_eq_ok_iff.2 ⟨_, locate_eq_ok_iff.2 ⟨hfits, .origin hnames⟩, .directory⟩
    · rw [List.concat_eq_append] at hnames
      rw [hnames] at hwalk
      obtain ⟨place, hinner, hlast⟩ := walk_append_eq_ok_iff.1 hwalk
      obtain ⟨middle, henter, -⟩ := walk_cons_eq_ok_iff.1 hlast
      have hspot {spot : Spot} (hend : Ends place path.endsInSlash last spot) :
          disk.locate path = .ok spot := locate_eq_ok_iff.2 ⟨hfits, .last hnames hinner hend⟩
      refine find_eq_ok_iff.2 ?_
      cases henter with
      | here => exact ⟨_, hspot .here, .directory⟩
      | up => exact ⟨_, hspot .up, .directory⟩
      | name hdot hdots hsize hget =>
          exact ⟨_, hspot (.name hdot hdots), .name hsize hget fun _ => rfl⟩

theorem enter_ne_isDirectory : disk.enter place segment ≠ .error .isDirectory := by
  rw [Disk.enter]
  repeat' split
  all_goals nofun

theorem walk_ne_isDirectory : disk.walk place segments ≠ .error .isDirectory := by
  induction segments generalizing place with
  | nil => nofun
  | cons segment segments ih =>
      rw [Disk.walk, List.foldlM_cons]
      exact bind_ne_error enter_ne_isDirectory fun _ => ih

theorem locate_ne_isDirectory : disk.locate path ≠ .error .isDirectory := by
  rw [Disk.locate]
  split
  · nofun
  · split
    · nofun
    · split
      · nofun
      · simp only
        split
        · nofun
        · refine bind_ne_error walk_ne_isDirectory fun place => ?_
          repeat' split
          all_goals nofun

theorem find_ne_isDirectory : disk.find path ≠ .error .isDirectory := by
  rw [Disk.find]
  refine bind_ne_error locate_ne_isDirectory fun spot => ?_
  repeat' split
  all_goals nofun

theorem read_eq_ok_iff {contents : Bytes} :
    disk.read path = .ok contents ↔ disk.find path = .ok (.file contents) := by
  rw [Disk.read, bind_eq_ok_iff]
  constructor
  · rintro ⟨entry, hf, h⟩
    cases entry with
    | directory => cases h
    | file old =>
        cases h
        exact hf
  · exact fun hf => ⟨_, hf, rfl⟩

theorem find_of_read (h : disk.read path = .error .isDirectory) :
    disk.find path = .ok .directory := by
  cases hf : disk.find path with
  | ok entry =>
      cases entry with
      | directory => rfl
      | file contents => simp [Disk.read, hf, bind, Except.bind] at h
  | error cause =>
      obtain rfl : cause = .isDirectory := by simpa [Disk.read, hf, bind, Except.bind] using h
      exact absurd hf find_ne_isDirectory

end Datapack.Proofs.Lookups
