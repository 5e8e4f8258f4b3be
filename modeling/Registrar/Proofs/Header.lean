import Registrar.Artifact.Source
import Registrar.Header
import Registrar.Proofs.Time.Stamp

/-!
# The header of an artifact reads back

The first two lines of an artifact are comments of its own: whatever settings, names and keys the
text below is made of, the first line says that it is generated and the second one tells the instant
that it was rendered with.
-/

namespace Registrar

namespace Text

theorem lines_append_lineFeed {line : List Char} (rest : List Char)
    (plain : ∀ character ∈ line, character ≠ '\n' ∧ character ≠ '\r') :
    lines (line ++ '\n' :: rest) = line :: lines rest := by
  induction line with
  | nil => rfl
  | cons character others ih =>
      have othersPlain := ih fun other member => plain other (List.mem_cons_of_mem _ member)
      rcases plain character List.mem_cons_self with ⟨notFeed, notReturn⟩
      rw [List.cons_append, lines, othersPlain]
      · exact fun equal => notFeed equal
      · exact fun _ equal => absurd equal notReturn

theorem trimBlanks_eq_self {text : List Char}
    (solid : ∀ character ∈ text, isBlank character = false) : trimBlanks text = text := by
  have dropWhile_eq : ∀ part : List Char, (∀ character ∈ part, isBlank character = false) →
      part.dropWhile isBlank = part := by
    intro part partSolid
    cases part with
    | nil => rfl
    | cons character others => simp [partSolid character List.mem_cons_self]
  rw [trimBlanks, dropWhile_eq text solid, dropWhile_eq _ (by simpa using solid),
    List.reverse_reverse]

theorem not_isBlank_of_isDigit {character : Char} (digit : character.isDigit = true) :
    isBlank character = false := by
  rw [Char.isDigit_iff_toNat] at digit
  have bounds : 48 ≤ character.toNat ∧ character.toNat ≤ 57 := digit
  simp only [isBlank, Bool.or_eq_false_iff, Bool.and_eq_false_iff, decide_eq_false_iff_not,
    beq_eq_false_iff_ne]
  omega

end Text

namespace Instant

theorem not_isBlank_of_mem_stamp {instant : Instant} {character : Char}
    (member : character ∈ instant.stamp) : Text.isBlank character = false := by
  rcases mem_stamp member with digit | mark
  · exact Text.not_isBlank_of_isDigit digit
  · simp only [List.mem_cons, List.not_mem_nil, or_false] at mark
    rcases mark with rfl | rfl | rfl | rfl | rfl <;> rfl

theorem ne_lineBreak_of_mem_stamp {instant : Instant} {character : Char}
    (member : character ∈ instant.stamp) : character ≠ '\n' ∧ character ≠ '\r' := by
  have solid := not_isBlank_of_mem_stamp member
  constructor
  · rintro rfl
    exact absurd solid (by decide)
  · rintro rfl
    exact absurd solid (by decide)

end Instant

namespace ArtifactSource

/-- The first line of an artifact without its line break. -/
def markerText : List Char := "// @generated by codec-registry-gen. Do not edit by hand.".toList

theorem markerLine_eq : markerLine = markerText ++ ['\n'] := by decide

/-- A property of all characters of a text is checked character by character. -/
theorem forall_mem_of_all {property : Char → Prop} [DecidablePred property] {text : List Char}
    (holds : text.all (fun character => decide (property character)) = true) :
    ∀ character ∈ text, property character := by
  intro character member
  exact of_decide_eq_true (List.all_eq_true.1 holds character member)

theorem markerText_plain : ∀ character ∈ markerText, character ≠ '\n' ∧ character ≠ '\r' :=
  forall_mem_of_all (by decide)

theorem stampLine_eq (instant : Instant) :
    stampLine instant = Header.stampStart ++ instant.stamp ++ ['\n'] := rfl

theorem stampStart_plain :
    ∀ character ∈ Header.stampStart, character ≠ '\n' ∧ character ≠ '\r' :=
  forall_mem_of_all (by decide)

theorem lines_markerLine_append (rest : List Char) :
    Text.lines (markerLine ++ rest) = markerText :: Text.lines rest := by
  rw [markerLine_eq, List.append_assoc]
  exact Text.lines_append_lineFeed rest markerText_plain

theorem lines_stampLine_append (instant : Instant) (rest : List Char) :
    Text.lines (stampLine instant ++ rest) =
      (Header.stampStart ++ instant.stamp) :: Text.lines rest := by
  rw [stampLine_eq, List.append_assoc]
  apply Text.lines_append_lineFeed
  intro character member
  rcases List.mem_append.1 member with start | stamp
  · exact stampStart_plain character start
  · exact Instant.ne_lineBreak_of_mem_stamp stamp

/-- Every artifact says on its first line that it is generated. -/
theorem isGenerated_text (settings : ArtifactSettings) (aggregation : Aggregation)
    (instant : Instant) : Header.isGenerated (text settings aggregation instant) = true := by
  have marked : Text.contains Header.marker markerText = true := by decide
  simp only [Header.isGenerated, text, List.append_assoc, lines_markerLine_append,
    List.head?_cons, marked]

/-- The header of an artifact tells the instant that it was rendered with. -/
theorem generatedAt?_text (settings : ArtifactSettings) (aggregation : Aggregation)
    {instant : Instant} (year : instant.HasFourDigitYear) (whole : instant.nanoseconds = 0) :
    Header.generatedAt? (text settings aggregation instant) = some instant := by
  have first : Header.afterStart? Header.stampStart markerText = none := by decide
  have second : Header.afterStart? Header.stampStart (Header.stampStart ++ instant.stamp) =
      some instant.stamp := by
    simp [Header.afterStart?]
  have trimmed : Text.trimBlanks instant.stamp = instant.stamp :=
    Text.trimBlanks_eq_self fun _ member => Instant.not_isBlank_of_mem_stamp member
  simp only [Header.generatedAt?, text, List.append_assoc, lines_markerLine_append,
    lines_stampLine_append, Header.depth, List.take_succ_cons, List.findSome?_cons,
    first, second, Option.bind_eq_bind, Option.bind_some, trimmed,
    Instant.ofStamp?_stamp year whole]

end ArtifactSource

end Registrar
