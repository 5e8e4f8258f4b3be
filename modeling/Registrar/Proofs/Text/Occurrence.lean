import Mathlib.Data.List.Basic
import Mathlib.Data.List.Infix
import Registrar.Proofs.Text.Quoted
import Registrar.Text.UpperSnake

/-!
# Where a text occurs

In a text that is put together, another text occurs only where it starts in one of the parts. It
cannot start in a part that lacks its first character, nor in one from which it differs at every
place, and it cannot leave a quoted text. In a part of which nothing is known it may stand as a
whole; otherwise it would have to go on in what is behind, from which its ends may differ.
-/

namespace Registrar.Text

theorem dropPrefix?_append (start rest : List Char) :
    (start ++ rest).dropPrefix? start = some rest :=
  List.dropPrefix?_eq_some_iff.2 ⟨start, rfl, beq_self_eq_true start⟩

theorem dropSuffix?_append (rest finish : List Char) :
    (rest ++ finish).dropSuffix? finish = some rest :=
  List.dropSuffix?_eq_some_iff.2 ⟨finish, rfl, beq_self_eq_true finish⟩

/-- Whether two texts have different characters at a place that is in both. -/
def differ : List Char → List Char → Bool
  | left :: lefts, right :: rights => left != right || differ lefts rights
  | _, _ => false

/-- Whether a part may stand in front of anything without a start of the sought text in it, unless
this is given somewhere as a whole. -/
def Passes (sought : List Char) (given : Prop) (part : List Char) : Prop :=
  ∀ rest, sought <:+: part ++ rest → given ∨ sought <:+: rest

variable {sought part behind : List Char} {given : Prop}

theorem not_prefix_of_differ {text : List Char} (differs : differ sought text = true)
    (rest : List Char) : ¬sought <+: text ++ rest := by
  induction sought generalizing text with
  | nil => cases text <;> cases differs
  | cons left lefts ih =>
    cases text with
    | nil => cases differs
    | cons right rights =>
      intro starts
      rcases List.cons_prefix_cons.1 starts with ⟨rfl, startsToo⟩
      rw [differ, bne_self_eq_false, Bool.false_or] at differs
      exact ih differs startsToo

theorem differ_append {first text : List Char} (differs : differ first text = true)
    (more : List Char) : differ (first ++ more) text = true := by
  fun_induction differ first text with
  | case1 left lefts right rights ih =>
    rw [List.cons_append, differ, Bool.or_eq_true]
    rcases Bool.or_eq_true_iff.1 differs with here | later
    · exact Or.inl here
    · exact Or.inr (ih later)
  | case2 => cases differs

/-- What occurs in two parts starts in the first one, or it occurs in the second one. -/
theorem infix_or_of_tails {rest : List Char}
    (starts : ∀ tail, tail <:+ part → tail ≠ [] → sought <+: tail ++ rest → given)
    (occurs : sought <:+: part ++ rest) : given ∨ sought <:+: rest := by
  induction part with
  | nil => exact Or.inr occurs
  | cons character others ih =>
    rw [List.cons_append, List.infix_cons_iff] at occurs
    rcases occurs with first | later
    · exact Or.inl (starts _ (List.suffix_refl _) (List.cons_ne_nil _ _) first)
    · exact ih (fun tail isTail => starts tail (isTail.trans (List.suffix_cons _ _))) later

namespace Passes

theorem nil : Passes sought given [] := fun _ => Or.inr

theorem append {first second : List Char} (one : Passes sought given first)
    (other : Passes sought given second) : Passes sought given (first ++ second) := by
  intro rest occurs
  rw [List.append_assoc] at occurs
  rcases one _ occurs with isGiven | later
  · exact Or.inl isGiven
  · exact other rest later

theorem flatMap {Source : Type} {sources : List Source} {write : Source → List Char}
    (each : ∀ source ∈ sources, Passes sought given (write source)) :
    Passes sought given (sources.flatMap write) := by
  induction sources with
  | nil => exact nil
  | cons first others ih =>
    rw [List.flatMap_cons]
    exact (each first List.mem_cons_self).append
      (ih fun source member => each source (List.mem_cons_of_mem _ member))

/-- A text does not start where its first character is missing. -/
theorem of_head_not_mem {first : Char} (starts : sought.head? = some first)
    (missing : first ∉ part) : Passes sought given part := by
  intro rest occurs
  refine infix_or_of_tails ?_ occurs
  intro tail isTail nonempty isStart
  rcases tail with _ | ⟨character, others⟩
  · exact absurd rfl nonempty
  · rcases sought with _ | ⟨same, soughtRest⟩
    · cases starts
    · cases starts
      rcases List.cons_prefix_cons.1 isStart with ⟨rfl, _⟩
      exact absurd (isTail.subset List.mem_cons_self) missing

/-- A text does not start in a part all ends of which differ from it. -/
theorem of_differ (differs : ∀ tail ∈ part.tails, tail ≠ [] → differ sought tail = true) :
    Passes sought given part := by
  intro rest occurs
  refine infix_or_of_tails ?_ occurs
  intro tail isTail nonempty isStart
  have different := differs tail ((List.mem_tails _ _).2 isTail) nonempty
  exact absurd isStart (not_prefix_of_differ different rest)

/-- A text of whose ends none agrees with what is behind a part stands in the part as a whole. -/
theorem append_of_differ (stands : sought <:+: part → given)
    (differs : ∀ tail ∈ sought.tails, tail ≠ [] → differ tail behind = true)
    (passes : Passes sought given behind) : Passes sought given (part ++ behind) := by
  intro rest occurs
  rw [List.append_assoc] at occurs
  have later : given ∨ sought <:+: behind ++ rest := by
    refine infix_or_of_tails ?_ occurs
    rintro tail isTail nonempty ⟨after, whole⟩
    -- What starts in the part ends in it, or goes on with an end of its own in what is behind.
    rcases List.append_eq_append_iff.1 whole with ⟨more, rfl, _⟩ | ⟨more, rfl, same⟩
    · exact stands ((List.prefix_append _ _).isInfix.trans isTail.isInfix)
    · by_cases ends : more = []
      · subst ends
        rw [List.append_nil] at stands
        exact stands isTail.isInfix
      · have different := differs more ((List.mem_tails _ _).2 (List.suffix_append _ _)) ends
        exact absurd ⟨after, same.symm⟩ (not_prefix_of_differ different rest)
  rcases later with isGiven | later
  · exact Or.inl isGiven
  · exact passes rest later

/-- A text with a line break does not leave a line by a mark that its first line lacks. -/
theorem of_line {line more : List Char} {mark : Char} (whole : sought = line ++ '\n' :: more)
    (missing : mark ∉ line) (closes : part.getLast? = some mark) (oneLine : '\n' ∉ part) :
    Passes sought given part := by
  intro rest occurs
  refine infix_or_of_tails ?_ occurs
  rintro tail isTail nonempty ⟨after, same⟩
  have ends : mark ∈ tail := by
    rcases isTail with ⟨before, rfl⟩
    rw [List.getLast?_append_of_ne_nil _ nonempty] at closes
    exact List.mem_of_getLast? closes
  rw [whole, List.append_assoc] at same
  rcases List.append_eq_append_iff.1 same with ⟨cut, rfl, behind⟩ | ⟨cut, rfl, _⟩
  · rcases cut with _ | ⟨character, others⟩
    · rw [List.append_nil] at ends
      exact absurd ends missing
    · rcases List.cons_eq_cons.1 behind with ⟨rfl, _⟩
      exact absurd (isTail.subset (List.mem_append_right _ List.mem_cons_self)) oneLine
  · exact absurd (List.mem_append_left _ ends) missing

/-- Quoted text is on one line and ends with a quote. -/
theorem quotedCharacters {line more : List Char} (whole : sought = line ++ '\n' :: more)
    (missing : '"' ∉ line) (escapeApostrophe : Bool) (text : List Char) :
    Passes sought given (Text.quotedCharacters escapeApostrophe text) := by
  refine of_line whole missing (List.getLast?_concat) ?_
  intro lineBreak
  exact absurd (isPrintable_of_mem_quotedCharacters lineBreak) (by decide)

end Passes

section UpperSnake

variable {character : Char}

/-- What is in joined texts is between them or in one of them. -/
theorem mem_intercalate {separator : List Char} {texts : List (List Char)}
    (member : character ∈ separator.intercalate texts) :
    character ∈ separator ∨ ∃ text ∈ texts, character ∈ text := by
  induction texts with
  | nil => cases member
  | cons first others ih =>
    cases others with
    | nil =>
      rw [List.intercalate_singleton] at member
      exact Or.inr ⟨first, List.mem_cons_self, member⟩
    | cons next others =>
      rw [List.intercalate_cons_cons, List.append_assoc, List.mem_append, List.mem_append] at member
      rcases member with inFirst | inSeparator | inOthers
      · exact Or.inr ⟨first, List.mem_cons_self, inFirst⟩
      · exact Or.inl inSeparator
      · rcases ih inOthers with inSeparator | ⟨text, isOther, inText⟩
        · exact Or.inl inSeparator
        · exact Or.inr ⟨text, List.mem_cons_of_mem _ isOther, inText⟩

theorem mem_of_mem_splitWords {text word found : List Char} {case : WordCase}
    (isWord : found ∈ splitWords case word text) (member : character ∈ found) :
    character ∈ word ∨ character ∈ text := by
  fun_induction splitWords case word text <;> grind

theorem isAlphanumeric_of_mem_alphanumericRuns {text run : List Char}
    (isRun : run ∈ alphanumericRuns text) : ∀ character ∈ run, isAlphanumeric character = true := by
  fun_induction alphanumericRuns text generalizing run <;> grind

/-- A code point that is not that of a character stands for that of no character. -/
theorem toNat_ofNat (codePoint : Nat) :
    (Char.ofNat codePoint).toNat = codePoint ∨ (Char.ofNat codePoint).toNat = 0 := by
  by_cases valid : codePoint.isValidChar
  · left
    rw [Char.ofNat, dif_pos valid]
    rfl
  · right
    rw [Char.ofNat, dif_neg valid]
    rfl

theorem slash_not_mem_toUppercase (different : character ≠ '/') :
    '/' ∉ toUppercase character := by
  have small : ∀ codePoint < 0x80, codePoint ≠ 47 → '/' ≠ (Char.ofNat codePoint).toUpper := by
    decide
  have expansions : ∀ entry ∈ uppercaseExpansions, '/' ∉ entry.2.map Char.ofNat := by
    decide
  have runs : ∀ run ∈ uppercaseRuns, 47 < run.1 + run.2.2.2 := by
    decide +kernel
  rw [toUppercase]
  split
  · rename_i isSmall
    have notSlash : character.toNat ≠ 47 := fun same => different (Char.toNat_inj.1 same)
    have changed := small character.toNat isSmall notSlash
    rw [Char.ofNat_toNat] at changed
    exact fun member => changed (List.mem_singleton.1 member)
  · split
    · rename_i found
      exact expansions _ (List.mem_of_find?_eq_some found)
    · split
      · rename_i first last stride offset found
        have above := runs _ (List.mem_of_find?_eq_some found)
        have within := List.find?_some found
        simp only [Bool.and_eq_true, decide_eq_true_eq] at above within
        intro member
        have codePoint : 47 = (Char.ofNat (Int.toNat (character.toNat + offset))).toNat :=
          congrArg Char.toNat (List.mem_singleton.1 member)
        rcases toNat_ofNat (Int.toNat (character.toNat + offset)) with same | same
        all_goals
          rw [same] at codePoint
          omega
      · exact fun member => different (List.mem_singleton.1 member).symm

/-- A name in upper snake case is made of letters, numbers and underscores. -/
theorem slash_not_mem_upperSnake (name : List Char) : '/' ∉ upperSnake name := by
  intro member
  rcases mem_intercalate member with inSeparator | ⟨written, isWritten, inWritten⟩
  · exact absurd inSeparator (by decide)
  · rcases List.mem_map.1 isWritten with ⟨word, isWord, rfl⟩
    rcases List.mem_flatMap.1 isWord with ⟨run, isRun, inRun⟩
    rcases List.mem_flatMap.1 inWritten with ⟨character, inWord, changed⟩
    rcases mem_of_mem_splitWords inRun inWord with nothing | inText
    · cases nothing
    · have alphanumeric := isAlphanumeric_of_mem_alphanumericRuns isRun character inText
      refine slash_not_mem_toUppercase ?_ changed
      rintro rfl
      exact absurd alphanumeric (by decide)

end UpperSnake

end Registrar.Text
