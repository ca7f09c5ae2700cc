import Datapack.Text.Basic

namespace Datapack

/-- A path as it was written. Nothing is normalised: two texts may name the
same place, and messages show the text. -/
structure Path where
  text : Text
  deriving DecidableEq, Repr

inductive Component
  | root | here | up
  | name (text : Text)
  deriving DecidableEq, Repr

namespace Path

def ofString (s : String) : Path := ⟨s.toList⟩

def isAbsolute (p : Path) : Bool := p.text.head? = some '/'

def endsInSlash (p : Path) : Bool := p.text.getLast? = some '/'

def join (p q : Path) : Path :=
  if q.isAbsolute || p.text.isEmpty then q
  else if p.endsInSlash then ⟨p.text ++ q.text⟩
  else ⟨p.text ++ '/' :: q.text⟩

def segments (p : Path) : List Text := p.text.splitOn '/'

def innerComponent? (segment : Text) : Option Component :=
  if segment = [] || segment = ['.'] then none
  else if segment = ['.', '.'] then some .up
  else some (.name segment)

def firstComponent? (p : Path) (segment : Text) : Option Component :=
  if segment = [] then (if p.isAbsolute then some .root else none)
  else if segment = ['.'] then some .here
  else innerComponent? segment

/-- Repeated and trailing slashes and inner dots do not count. A leading slash
and a leading dot do, and two dots are kept. -/
def components (p : Path) : List Component :=
  match p.segments with
  | [] => []
  | first :: rest => (p.firstComponent? first).toList ++ rest.filterMap innerComponent?

def samePlace (p q : Path) : Bool := p.components = q.components

def anchorSize (p : Path) : Nat :=
  match p.text with
  | '/' :: _ | ['.'] | '.' :: '/' :: _ => 1
  | _ => 0

def dropIdle : Text → Text
  | '/' :: t => dropIdle t
  | ['.'] => []
  | '.' :: '/' :: t => dropIdle t
  | t => t

/-- The path without its last component, cut from the text. None for the root
and for the empty path. -/
def parent? (p : Path) : Option Path :=
  let anchor := p.text.take p.anchorSize
  match dropIdle (p.text.drop p.anchorSize).reverse with
  | [] => if anchor = ['.'] then some ⟨[]⟩ else none
  | t => some ⟨anchor ++ (dropIdle (t.dropWhile (· ≠ '/'))).reverse⟩

theorem dropIdle_length_le (t : Text) : (dropIdle t).length ≤ t.length := by
  fun_induction dropIdle t <;> simp_all <;> omega

theorem dropIdle_head (t r : Text) : dropIdle t ≠ '/' :: r := by
  fun_induction dropIdle t <;> simp_all

theorem parent?_shorter {p q : Path} (h : p.parent? = some q) :
    q.text.length < p.text.length := by
  have hlen := congrArg List.length (List.take_append_drop p.anchorSize p.text)
  rw [List.length_append] at hlen
  have hidle := dropIdle_length_le (p.text.drop p.anchorSize).reverse
  simp only [parent?] at h
  split at h
  · split at h
    · rename_i ha
      cases h
      simp only [ha, List.length_cons, List.length_nil] at hlen
      simp only [List.length_nil]
      omega
    · cases h
  · rename_i hne
    cases h
    generalize hbody : dropIdle (p.text.drop p.anchorSize).reverse = t at *
    have hcut : (t.dropWhile (· ≠ '/')).length < t.length := by
      cases t with
      | nil => exact absurd rfl hne
      | cons c cs =>
          have hc : c ≠ '/' := by
            rintro rfl
            exact dropIdle_head _ _ hbody
          have := (List.dropWhile_sublist (fun c => decide (c ≠ '/')) (l := cs)).length_le
          simpa [hc, Nat.lt_succ_iff] using this
    have := dropIdle_length_le (t.dropWhile (· ≠ '/'))
    simp only [List.length_append, List.length_reverse] at *
    omega

def ancestorsUpTo : Nat → Path → List Path
  | 0, _ => []
  | n + 1, p =>
      if p.text.isEmpty then [] else
        match p.parent? with
        | none => [p]
        | some q => p :: ancestorsUpTo n q

/-- The path itself and all that lies above it, up to the root or the place
where a relative path starts, which is left out. -/
def ancestors (p : Path) : List Path := ancestorsUpTo p.text.length p

theorem ancestorsUpTo_eq {n m : Nat} {p : Path} (hn : p.text.length ≤ n)
    (hm : p.text.length ≤ m) : ancestorsUpTo n p = ancestorsUpTo m p := by
  induction n generalizing m p with
  | zero =>
      have hp : p.text = [] := List.length_eq_zero_iff.1 (Nat.le_zero.1 hn)
      cases m <;> simp [ancestorsUpTo, hp]
  | succ n ih =>
      cases m with
      | zero =>
          have hp : p.text = [] := List.length_eq_zero_iff.1 (Nat.le_zero.1 hm)
          simp [ancestorsUpTo, hp]
      | succ m =>
          simp only [ancestorsUpTo]
          split
          · rfl
          · split
            · rfl
            · rename_i q hq
              have hlt := parent?_shorter hq
              rw [ih (m := m) (by omega) (by omega)]

/-- Removing components never runs into the bound. -/
theorem ancestors_eq (p : Path) : p.ancestors =
    if p.text.isEmpty then [] else p :: p.parent?.elim [] ancestors := by
  rw [ancestors, ancestorsUpTo_eq (Nat.le_refl _) (Nat.le_succ _), ancestorsUpTo]
  split
  · rfl
  · cases h : p.parent? with
    | none => rfl
    | some q =>
        have hle : q.text.length ≤ p.text.length := Nat.le_of_lt (parent?_shorter h)
        exact congrArg (p :: ·) (ancestorsUpTo_eq hle (Nat.le_refl _))

theorem ancestors_eq_nil {p : Path} (h : p.text = []) : p.ancestors = [] := by
  rw [ancestors_eq, h]
  rfl

theorem head?_ancestors {p : Path} (h : p.text ≠ []) : p.ancestors.head? = some p := by
  rw [ancestors_eq, if_neg (by simpa using h)]
  rfl

end Path

end Datapack
