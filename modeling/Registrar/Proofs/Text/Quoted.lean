import Registrar.Source.Literal
import Registrar.Text.Quoted

/-!
# Quoted text as a string literal

Between its quotes, quoted text is the body of a string literal, which ends at the closing quote and
denotes what was quoted. The escapes of the quoted text are among those of a literal, whether
apostrophes are escaped or not. All its characters are visible, so that it is on one line.
-/

namespace Registrar.Source.Literal

open Registrar.Text

theorem hexValue?_digitChar {digit : Nat} (bound : digit < 16) :
    hexValue? digit.digitChar = some digit := by
  revert digit
  decide

/-- Up to six hexadecimal digits are read as the number that they write. -/
theorem codePointDigits_toDigits {value : Nat} (rest : List Char)
    (short : (Nat.toDigits 16 value).length ≤ 6) :
    codePointDigits 0 0 (Nat.toDigits 16 value ++ rest) =
      codePointDigits value (Nat.toDigits 16 value).length rest := by
  induction value using Nat.strongRecOn generalizing rest with
  | ind value ih =>
    by_cases single : value < 16
    · rw [Nat.toDigits_of_lt_base single, List.singleton_append, codePointDigits,
        hexValue?_digitChar single]
      simp
    · -- The digits before the last one write the number without its last digit.
      have split := @Nat.toDigits_of_base_le 16 value (by decide) (Nat.not_lt.1 single)
      rw [split, List.length_append, List.length_singleton] at short ⊢
      rw [List.append_assoc, ih (value / 16) (by omega) _ (by omega), List.singleton_append,
        codePointDigits, hexValue?_digitChar (Nat.mod_lt _ (by decide))]
      simp only
      rw [if_neg (by omega), Nat.div_add_mod]

/-- What stands for the code point of a character is read as the character. -/
theorem escape_codePoint (character : Char) (rest : List Char) :
    escape .text ('u' :: '\x7b' :: (Nat.toDigits 16 character.toNat ++ '\x7d' :: rest)) =
      some ([character], rest) := by
  have isValid : character.toNat.isValidChar := character.valid
  have short : (Nat.toDigits 16 character.toNat).length ≤ 6 := by
    rw [Nat.length_toDigits_le_iff (by decide) (by decide)]
    rcases isValid with small | ⟨_, large⟩ <;> omega
  have notEmpty : (Nat.toDigits 16 character.toNat).length ≠ 0 := by
    rw [Ne, List.length_eq_zero_iff]
    exact Nat.toDigits_ne_nil
  have closes : hexValue? '\x7d' = none := by decide
  simp only [escape]
  rw [codePointDigits_toDigits _ short, codePointDigits, closes]
  simp [notEmpty, isValid, Char.ofNat_toNat]

/-- Whether a text is, whatever follows it, read as one character of a string. -/
def IsUnit (written : List Char) (character : Char) : Prop :=
  ∃ first others, written = first :: others ∧ first ≠ '"' ∧
    ∀ rest, stringUnit .text first (others ++ rest) = some ([character], rest)

/-- An escape is what a backslash starts. -/
theorem isUnit_escape {written : List Char} {character : Char}
    (reads : ∀ rest, escape .text (written ++ rest) = some ([character], rest)) :
    IsUnit ('\\' :: written) character := by
  refine ⟨'\\', written, rfl, by decide, ?_⟩
  intro rest
  unfold stringUnit
  rw [if_pos rfl, reads]

/-- A character that no escape is needed for is read as itself. -/
theorem isUnit_singleton {character : Char} (notQuote : character ≠ '"')
    (notBackslash : character ≠ '\\') (notReturn : character ≠ '\r') :
    IsUnit [character] character := by
  refine ⟨character, [], rfl, notQuote, ?_⟩
  intro rest
  simp [stringUnit, notBackslash, notReturn]

theorem isUnit_codePointEscape (character : Char) :
    IsUnit (codePointEscape character) character := by
  apply isUnit_escape
  intro rest
  simp only [List.append_eq, List.nil_append, List.cons_append, List.append_assoc]
  exact escape_codePoint character rest

/-- The written form of a character is read as the character. -/
theorem isUnit_escapeCharacter (escapeApostrophe : Bool) (character : Char) :
    IsUnit (escapeCharacter escapeApostrophe character) character := by
  fun_cases escapeCharacter escapeApostrophe character
  case case8 _ _ apostrophe _ =>
    subst apostrophe
    exact isUnit_singleton (by decide) (by decide) (by decide)
  case case9 => exact isUnit_codePointEscape character
  case case10 notReturn _ notBackslash notQuote _ _ _ =>
    exact isUnit_singleton notQuote notBackslash notReturn
  case case11 => exact isUnit_codePointEscape character
  -- The other characters have an escape by a letter.
  all_goals
    subst character
    exact isUnit_escape fun rest => by simp [escape]

/-- A string body starts with what its first unit denotes. -/
theorem stringBody_append {written rest : List Char} {character : Char}
    (isUnit : IsUnit written character) :
    stringBody .text (written ++ rest) =
      (stringBody .text rest).map fun read => (character :: read.1, read.2) := by
  rcases isUnit with ⟨first, others, rfl, notQuote, reads⟩
  rw [List.cons_append, stringBody, if_neg notQuote]
  split
  · rename_i unread
    rw [reads] at unread
    cases unread
  · rename_i denoted after read
    rw [reads] at read
    cases read
    cases stringBody .text rest <;> rfl

/-- Quoted text is read up to its closing quote, as the text that was quoted. -/
theorem stringBody_quoted (escapeApostrophe : Bool) (text rest : List Char) :
    stringBody .text (text.flatMap (escapeCharacter escapeApostrophe) ++ '"' :: rest) =
      some (text, rest) := by
  induction text with
  | nil => rw [List.flatMap_nil, List.nil_append, stringBody, if_pos rfl]
  | cons character others ih =>
    rw [List.flatMap_cons, List.append_assoc,
      stringBody_append (isUnit_escapeCharacter escapeApostrophe character), ih, Option.map_some]

/-- Quoted text is a literal, which ends at the closing quote unless a suffix follows. -/
theorem after?_quotedCharacters (escapeApostrophe : Bool) (text : List Char) {rest : List Char}
    (noSuffix : afterIdentifier? rest = none) :
    after? (quotedCharacters escapeApostrophe text ++ rest) = some rest := by
  have body := stringBody_quoted escapeApostrophe text rest
  have string : afterString? (quotedCharacters escapeApostrophe text ++ rest) = some rest := by
    simp only [quotedCharacters, List.cons_append, List.append_assoc, List.nil_append]
    rw [afterString?, body, Option.map_some, afterSuffix, noSuffix, Option.getD_none]
  rw [after?, string]
  rfl

/-- The literal that is quoted text denotes what was quoted. -/
theorem stringValue?_quotedCharacters (escapeApostrophe : Bool) (text : List Char) :
    stringValue? (quotedCharacters escapeApostrophe text) = some text := by
  rw [quotedCharacters, List.cons_append, stringValue?, stringBody_quoted, Option.map_some]

end Registrar.Source.Literal

namespace Registrar.Text

variable {character : Char}

theorem isPrintable_of_mem_toDigits {value : Nat} (member : character ∈ Nat.toDigits 16 value) :
    isPrintable character = true := by
  have digits : ∀ digit < 16, isPrintable (Nat.digitChar digit) = true := by decide
  induction value using Nat.strongRecOn with
  | ind value ih =>
    by_cases single : value < 16
    · rw [Nat.toDigits_of_lt_base single, List.mem_singleton] at member
      rw [member]
      exact digits value single
    · rw [Nat.toDigits_of_base_le (by decide) (Nat.not_lt.1 single), List.mem_append,
        List.mem_singleton] at member
      rcases member with leading | rfl
      · exact ih (value / 16) (by omega) leading
      · exact digits _ (Nat.mod_lt _ (by decide))

theorem isPrintable_of_mem_codePointEscape {escaped : Char}
    (member : character ∈ codePointEscape escaped) : isPrintable character = true := by
  have opens : ['\\', 'u', '\x7b'].all isPrintable = true := by decide
  have closes : ['\x7d'].all isPrintable = true := by decide
  rw [codePointEscape, List.mem_append, List.mem_append] at member
  rcases member with (opening | digit) | closing
  · exact List.all_eq_true.1 opens character opening
  · exact isPrintable_of_mem_toDigits digit
  · exact List.all_eq_true.1 closes character closing

/-- What a character is written as is visible. -/
theorem isPrintable_of_mem_escapeCharacter {escapeApostrophe : Bool} {escaped : Char}
    (member : character ∈ escapeCharacter escapeApostrophe escaped) :
    isPrintable character = true := by
  have letters : ['\\', '0', 't', 'r', 'n', '"', '\''].all isPrintable = true := by decide
  revert character
  fun_cases escapeCharacter escapeApostrophe escaped
  case case9 => exact fun member => isPrintable_of_mem_codePointEscape member
  case case10 printable =>
    intro character member
    rw [List.mem_singleton.1 member]
    exact printable
  case case11 => exact fun member => isPrintable_of_mem_codePointEscape member
  all_goals
    intro character member
    exact List.all_eq_true.1 letters character (by grind)

/-- Quoted text is visible as a whole. -/
theorem isPrintable_of_mem_quotedCharacters {escapeApostrophe : Bool} {text : List Char}
    (member : character ∈ quotedCharacters escapeApostrophe text) :
    isPrintable character = true := by
  have quote : ['"'].all isPrintable = true := by decide
  rw [quotedCharacters, List.mem_append, List.mem_cons, List.mem_flatMap] at member
  rcases member with (rfl | ⟨escaped, _, written⟩) | closing
  · decide
  · exact isPrintable_of_mem_escapeCharacter written
  · exact List.all_eq_true.1 quote character closing

end Registrar.Text
