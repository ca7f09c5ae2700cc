import Datapack.Text.Basic

namespace Datapack

abbrev Bytes := List UInt8

namespace Text

def toUtf8 (t : Text) : Bytes := (String.ofList t).toUTF8.data.toList

/-- Only well-formed sequences are read: no surrogates, no overlong forms and
nothing beyond the last code point. A byte order mark is an ordinary character. -/
def ofUtf8? (bytes : Bytes) : Option Text :=
  (String.fromUTF8? ⟨bytes.toArray⟩).map String.toList

theorem ofUtf8?_eq_some_iff {bytes : Bytes} {t : Text} :
    ofUtf8? bytes = some t ↔ bytes = t.toUtf8 := by
  rw [ofUtf8?, Option.map_eq_some_iff]
  constructor
  · rintro ⟨s, hs, rfl⟩
    rw [String.fromUTF8?] at hs
    split at hs
    · obtain rfl := Option.some.inj hs
      rw [toUtf8, String.ofList_toList]
      rfl
    · cases hs
  · rintro rfl
    refine ⟨String.ofList t, ?_, String.toList_ofList⟩
    exact dif_pos (String.ofList t).isValidUTF8

def utf8Size (t : Text) : Nat := (String.ofList t).utf8ByteSize

theorem utf8Size_append (s t : Text) : utf8Size (s ++ t) = utf8Size s + utf8Size t := by
  rw [utf8Size, String.ofList_append, String.utf8ByteSize_append]
  rfl

end Text

end Datapack
