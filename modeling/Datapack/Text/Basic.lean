namespace Datapack

abbrev Text := List Char

namespace Text

def strip (p : Char → Bool) (t : Text) : Text := ((t.dropWhile p).reverse.dropWhile p).reverse

def after? : Text → Text → Option Text
  | t, [] => some t
  | [], _ :: _ => none
  | c :: t, k :: ks => if c = k then after? t ks else none

theorem after?_eq_some_iff {t k r : Text} : t.after? k = some r ↔ t = k ++ r := by
  induction k generalizing t with
  | nil => simp [after?]
  | cons k ks ih =>
      cases t with
      | nil => simp [after?]
      | cons c cs => by_cases h : c = k <;> simp [after?, h, ih]

def before? (t k : Text) : Option Text := (after? t.reverse k.reverse).map List.reverse

theorem before?_eq_some_iff {t k r : Text} : t.before? k = some r ↔ t = r ++ k := by
  simp only [before?, Option.map_eq_some_iff, after?_eq_some_iff]
  constructor
  · rintro ⟨s, hs, rfl⟩
    simpa using congrArg List.reverse hs
  · rintro rfl
    exact ⟨r.reverse, by simp, by simp⟩

/-- The leading run of characters in `p` and the rest, if that run is not
empty. A run is maximal, so the rest does not begin with such a character. -/
def run? (p : Char → Bool) (t : Text) : Option (Text × Text) :=
  if (t.takeWhile p).isEmpty then none else some (t.takeWhile p, t.dropWhile p)

def unlines (lines : List Text) : Text := lines.flatMap (· ++ ['\n'])

def ofNat (n : Nat) : Text := (toString n).toList

end Text

end Datapack
