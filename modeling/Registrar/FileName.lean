/-!
# Names of files

A file system keeps the bytes of a name. These mostly encode a text, but any bytes other than a zero
or a slash can stand in a name, and what asks for the text of a name has to do without where there
is none.
-/

namespace Registrar

/-- The bytes that encode a text. -/
def Text.bytes (text : String) : List UInt8 :=
  text.toUTF8.data.toList

namespace Text

theorem bytes_inj {left right : String} : bytes left = bytes right ↔ left = right := by
  rw [bytes, bytes, Array.toList_inj, ← ByteArray.ext_iff]
  exact String.toByteArray_inj

theorem fromUTF8?_eq_some_iff {content : ByteArray} {text : String} :
    String.fromUTF8? content = some text ↔ content = text.toUTF8 := by
  rw [String.fromUTF8?]
  split
  · rw [Option.some.injEq]
    constructor
    · rintro rfl
      rfl
    · rintro rfl
      rfl
  · rename_i invalid
    simp only [reduceCtorEq, false_iff]
    rintro rfl
    exact invalid text.isValidUTF8

end Text

/-- What files and directories are called: bytes that tell names apart, and the text that they
encode, if they encode one. -/
class FileName (Name : Type) where
  bytes : Name → List UInt8
  text? : Name → Option String
  bytes_inj : ∀ {left right : Name}, bytes left = bytes right ↔ left = right
  text?_eq_some_iff : ∀ {name : Name} {text : String},
    text? name = some text ↔ bytes name = Text.bytes text

/-- A text is the name that it encodes. -/
instance : FileName String where
  bytes := Text.bytes
  text? := some
  bytes_inj := Text.bytes_inj
  text?_eq_some_iff := Option.some_inj.trans Text.bytes_inj.symm

/-- A name of which only the bytes are known. -/
structure RawName where
  bytes : List UInt8
  deriving DecidableEq, Repr

/-- The bytes of a name are decoded where its text is asked for. -/
instance : FileName RawName where
  bytes := RawName.bytes
  text? name := String.fromUTF8? ⟨name.bytes.toArray⟩
  bytes_inj := RawName.mk.injEq _ _ ▸ Iff.rfl
  text?_eq_some_iff := by
    rintro ⟨bytes⟩ text
    rw [Text.fromUTF8?_eq_some_iff, ByteArray.ext_iff, Text.bytes, ← Array.toList_inj]

end Registrar
