import Mathlib.Data.List.Basic
import Registrar.FilePath

/-!
# The bytes of texts

Texts are ordered by the numbers of their characters, and names are ordered by their bytes. A
character with a higher number is encoded by bytes that come later in the lexicographic order, so
the two orders agree. A byte that encodes an ASCII character occurs in no other character, so what
a text begins with and ends in shows in its bytes.
-/

namespace Registrar

namespace Text

variable {left right text : String}

theorem bytes_eq_flatMap (text : String) :
    bytes text = text.toList.flatMap String.utf8EncodeChar := by
  rw [bytes, String.toUTF8_eq_toByteArray, ← String.utf8Encode_toList, List.utf8Encode,
    List.toList_data_toByteArray]

@[simp]
theorem bytes_empty : bytes "" = [] := rfl

@[simp]
theorem bytes_append (left right : String) : bytes (left ++ right) = bytes left ++ bytes right := by
  simp [bytes_eq_flatMap]

theorem length_bytes (text : String) : (bytes text).length = text.utf8ByteSize := by
  rw [bytes, Array.length_toList]
  rfl

theorem toNat_val_lt (character : Char) : character.val.toNat < 0x110000 := by
  rcases character.valid with beforeSurrogates | afterSurrogates
  · have below : character.val.toNat < 0xd800 := beforeSurrogates
    omega
  · exact afterSurrogates.2

/-- What begins with a character comes before what begins with a later one. -/
theorem utf8EncodeChar_append_lt {earlier later : Char} (before : earlier < later)
    (earlierRest laterRest : List UInt8) :
    String.utf8EncodeChar earlier ++ earlierRest < String.utf8EncodeChar later ++ laterRest := by
  have less : earlier.val.toNat < later.val.toNat := before
  have bound := toNat_val_lt later
  rw [String.utf8EncodeChar.eq_def, String.utf8EncodeChar.eq_def]
  generalize earlier.val.toNat = low at less
  generalize later.val.toNat = high at less bound
  -- The numbers are cut six bits at a time, as quotients that linear arithmetic relates.
  have twice : ∀ value : Nat, value / 4096 = value / 64 / 64 := by omega
  have thrice : ∀ value : Nat, value / 262144 = value / 64 / 64 / 64 := by omega
  simp only [twice, thrice]
  -- Each of the two characters takes between one and four bytes.
  repeat' split
  all_goals
    simp only [List.cons_append, List.cons_lt_cons_iff, UInt8.lt_iff_toNat_lt,
      ← UInt8.toNat_inj, UInt8.toNat_ofNat']
    omega

theorem flatMap_utf8EncodeChar_lt {earlier later : List Char} (before : earlier < later) :
    earlier.flatMap String.utf8EncodeChar < later.flatMap String.utf8EncodeChar := by
  induction before with
  | nil =>
      rename_i first others
      rw [List.flatMap_nil, List.flatMap_cons]
      rcases encoded : String.utf8EncodeChar first with _ | ⟨byte, bytes⟩
      · exact absurd encoded String.utf8EncodeChar_ne_nil
      · exact List.nil_lt_cons _ _
  | rel less =>
      rw [List.flatMap_cons, List.flatMap_cons]
      exact utf8EncodeChar_append_lt less _ _
  | cons _ ih =>
      rw [List.flatMap_cons, List.flatMap_cons]
      exact List.append_left_lt ih

/-- A text that comes before another one has bytes that come before those of the other one. -/
theorem bytes_lt_bytes (before : left < right) : bytes left < bytes right := by
  rw [bytes_eq_flatMap, bytes_eq_flatMap]
  exact flatMap_utf8EncodeChar_lt (String.lt_iff.1 before)

/-- A byte of an ASCII character occurs in no other character. -/
theorem eq_of_mem_utf8EncodeChar {mark character : Char} (ascii : mark.val.toNat < 128)
    (member : UInt8.ofNat mark.val.toNat ∈ String.utf8EncodeChar character) : character = mark := by
  have same : character.val.toNat = mark.val.toNat := by
    rw [String.utf8EncodeChar.eq_def] at member
    generalize mark.val.toNat = low at ascii member ⊢
    generalize character.val.toNat = high at member ⊢
    simp only at member
    -- A character that takes more bytes than one has no byte below 128.
    repeat' split at member
    all_goals
      simp only [List.mem_cons, List.not_mem_nil, or_false, ← UInt8.toNat_inj,
        UInt8.toNat_ofNat'] at member
      omega
  exact Char.ext (UInt32.toNat_inj.1 same)

theorem utf8EncodeChar_of_ascii {mark : Char} (ascii : mark.val.toNat < 128) :
    String.utf8EncodeChar mark = [UInt8.ofNat mark.val.toNat] := by
  rw [String.utf8EncodeChar.eq_def]
  exact if_pos (by omega)

/-- A text begins with an ASCII character if its bytes begin with the byte of that. -/
theorem head?_bytes {mark : Char} (ascii : mark.val.toNat < 128) :
    (bytes text).head? = some (UInt8.ofNat mark.val.toNat) ↔ text.toList.head? = some mark := by
  rw [bytes_eq_flatMap]
  rcases text.toList with _ | ⟨first, others⟩
  · simp
  · rw [List.flatMap_cons, List.head?_append_of_ne_nil _ String.utf8EncodeChar_ne_nil,
      List.head?_cons, Option.some.injEq]
    constructor
    · intro begins
      exact eq_of_mem_utf8EncodeChar ascii (List.mem_of_head? begins)
    · rintro rfl
      rw [utf8EncodeChar_of_ascii ascii, List.head?_cons]

/-- A text ends in an ASCII character if its bytes end in the byte of that. -/
theorem getLast?_bytes {mark : Char} (ascii : mark.val.toNat < 128) :
    (bytes text).getLast? = some (UInt8.ofNat mark.val.toNat) ↔
      text.toList.getLast? = some mark := by
  rw [bytes_eq_flatMap]
  rcases List.eq_nil_or_concat text.toList with empty | ⟨front, last, split⟩
  · simp [empty]
  · rw [split, List.concat_eq_append, List.flatMap_append, List.flatMap_singleton,
      List.getLast?_append_of_ne_nil _ String.utf8EncodeChar_ne_nil, List.getLast?_concat,
      Option.some.injEq]
    constructor
    · intro ends
      exact eq_of_mem_utf8EncodeChar ascii (List.mem_of_getLast? ends)
    · rintro rfl
      rw [utf8EncodeChar_of_ascii ascii, List.getLast?_singleton]

theorem bytes_intercalate (mark : String) (texts : List String) :
    bytes (mark.intercalate texts) = (bytes mark).intercalate (texts.map bytes) := by
  induction texts with
  | nil => rfl
  | cons first others ih =>
      cases others with
      | nil => simp
      | cons second rest => simp [String.intercalate_cons_cons, ih]

end Text

end Registrar
