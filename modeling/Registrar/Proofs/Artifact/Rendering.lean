import Registrar.Artifact
import Registrar.Proofs.Header

/-!
# Artifacts at different instants

The stamp is all in which the texts of two artifacts for the same findings differ. It stands in an
ordinary comment, so that a text is a source file with every stamp if it is one with a stamp of the
usual length.
-/

namespace Registrar

namespace Source

/-- More steps than are enough find the same lexemes. -/
theorem ofTextWithin_mono {text : List Char} {lexemes : List Lexeme} {steps more : Nat}
    (read : Lexeme.ofTextWithin steps text = some lexemes) (enough : steps ≤ more) :
    Lexeme.ofTextWithin more text = some lexemes := by
  induction steps generalizing text lexemes more with
  | zero =>
      cases text with
      | nil => rwa [Lexeme.ofTextWithin] at read ⊢
      | cons character rest => cases read
  | succ steps ih =>
      cases text with
      | nil => rwa [Lexeme.ofTextWithin] at read ⊢
      | cons character rest =>
          obtain ⟨more, rfl⟩ : ∃ fewer, more = fewer + 1 := ⟨more - 1, by omega⟩
          have later : ∀ {text lexemes}, Lexeme.ofTextWithin steps text = some lexemes →
              Lexeme.ofTextWithin more text = some lexemes := fun found => ih found (by omega)
          have mapped : ∀ {text lexemes} (change : List Lexeme → List Lexeme),
              (Lexeme.ofTextWithin steps text).map change = some lexemes →
              (Lexeme.ofTextWithin more text).map change = some lexemes := by
            intro text lexemes change found
            rcases Option.map_eq_some_iff.1 found with ⟨others, foundOthers, rfl⟩
            rw [later foundOthers, Option.map_some]
          rw [Lexeme.ofTextWithin] at read ⊢
          split at read
          · exact later read
          · split at read
            · split at read
              · rename_i paired
                rw [if_pos paired]
                exact mapped _ read
              · cases read
            · split at read
              · rename_i isPlaceholder
                rw [if_pos isPlaceholder]
                exact mapped _ read
              · rename_i notPlaceholder
                rw [if_neg notPlaceholder]
                split at read
                · exact mapped _ read
                · split at read
                  · exact mapped _ read
                  · cases read

/-- A line that is an ordinary comment is skipped in two steps, with its line break. -/
theorem ofTextWithin_comment {line : List Char} (rest : List Char) (steps : Nat)
    (plain : ∀ character ∈ line, character ≠ '\n') :
    Lexeme.ofTextWithin (steps + 2) ('/' :: '/' :: ' ' :: (line ++ '\n' :: rest)) =
      Lexeme.ofTextWithin steps rest := by
  have comment : Lexeme.afterSeparator? ('/' :: '/' :: ' ' :: (line ++ '\n' :: rest)) =
      some ('\n' :: rest) := by
    have skipped : (line ++ '\n' :: rest).dropWhile (· ≠ '\n') = '\n' :: rest := by
      rw [List.dropWhile_append_of_pos fun character member => by
        simpa using plain character member]
      exact List.dropWhile_cons_of_neg (by simp)
    have start : Lexeme.afterSeparator? ('/' :: '/' :: ' ' :: (line ++ '\n' :: rest)) =
        some (Lexeme.afterLine (' ' :: (line ++ '\n' :: rest))) := rfl
    rw [start, Lexeme.afterLine, List.dropWhile_cons_of_pos (by simp), skipped]
  have lineBreak : Lexeme.afterSeparator? ('\n' :: rest) = some rest := rfl
  rw [Lexeme.ofTextWithin, comment]
  simp only [Lexeme.ofTextWithin, lineBreak]

/-- The tokens from which the items of a source file are read. -/
def fileTokens? (text : List Char) : Option Tokens :=
  readTokens? (withoutInterpreter (withoutByteOrderMark text))

theorem items?_congr {left right : List Char} (same : fileTokens? left = fileTokens? right) :
    items? left = items? right := by
  rw [fileTokens?, fileTokens?] at same
  rw [items?, items?, same]

end Source

namespace Instant

theorem length_stamp {instant : Instant} (year : instant.HasFourDigitYear)
    (whole : instant.nanoseconds = 0) : instant.stamp.length = 20 := by
  have month := Date.month_ofDays (instant.seconds / secondsOfDay)
  have day := Date.day_ofDays (instant.seconds / secondsOfDay)
  have bound : (instant.seconds % secondsOfDay).toNat < 86400 := by
    simp only [secondsOfDay]
    omega
  have years : (paddedDigits 4 instant.date.year.toNat).length = 4 := by
    rcases year with ⟨lower, upper⟩
    exact length_paddedDigits (by omega) (by omega)
  have pair : ∀ value < 100, (paddedDigits 2 value).length = 2 := fun value small =>
    length_paddedDigits (by omega) (by omega)
  rw [stamp_eq year whole]
  simp only [List.length_append, List.length_cons, List.length_nil, years]
  rw [pair _ (by rw [date]; omega), pair _ (by rw [date]; omega), pair _ (by omega),
    pair _ (by omega), pair _ (by omega)]

end Instant

namespace ArtifactSource

open Source

theorem length_text (settings : ArtifactSettings) (aggregation : Aggregation)
    (instant : Instant) :
    (text settings aggregation instant).length =
      markerLine.length + (Header.stampStart.length + instant.stamp.length + 1) +
        (body settings aggregation).length := by
  simp only [text, stampLine_eq, List.length_append, List.length_cons, List.length_nil]

/-- The tokens of an artifact are those of its body. -/
theorem fileTokens?_text (settings : ArtifactSettings) (aggregation : Aggregation)
    (instant : Instant) :
    fileTokens? (text settings aggregation instant) =
      (Lexeme.ofTextWithin ((text settings aggregation instant).length - 4)
        (body settings aggregation)).bind (Lexeme.treesOf [] []) := by
  obtain ⟨marker, markerPlain, markerEq⟩ : ∃ marker : List Char,
      (∀ character ∈ marker, character ≠ '\n') ∧
        markerLine = '/' :: '/' :: ' ' :: (marker ++ ['\n']) :=
    ⟨markerText.drop 3, forall_mem_of_all (by decide), by decide⟩
  obtain ⟨start, startPlain, startEq⟩ : ∃ start : List Char,
      (∀ character ∈ start, character ≠ '\n') ∧
        Header.stampStart = '/' :: '/' :: ' ' :: start :=
    ⟨Header.stampStart.drop 3, forall_mem_of_all (by decide), by decide⟩
  have stampPlain : ∀ character ∈ start ++ instant.stamp, character ≠ '\n' := by
    intro character member
    rcases List.mem_append.1 member with inStart | inStamp
    · exact startPlain character inStart
    · exact (Instant.ne_lineBreak_of_mem_stamp inStamp).1
  have textEq : text settings aggregation instant =
      '/' :: '/' :: ' ' :: (marker ++ '\n' :: ('/' :: '/' :: ' ' ::
        ((start ++ instant.stamp) ++ '\n' :: body settings aggregation))) := by
    rw [text, stampLine_eq, markerEq, startEq]
    simp
  obtain ⟨steps, enough⟩ : ∃ steps, (text settings aggregation instant).length = steps + 2 + 2 := by
    refine ⟨(text settings aggregation instant).length - 4, ?_⟩
    rw [textEq]
    simp only [List.length_append, List.length_cons]
    omega
  have unmarked : withoutByteOrderMark (text settings aggregation instant) =
      text settings aggregation instant := by
    rw [textEq]
    rfl
  have uninterpreted : withoutInterpreter (text settings aggregation instant) =
      text settings aggregation instant := by
    rw [textEq]
    rfl
  rw [fileTokens?, unmarked, uninterpreted, readTokens?, unmarked, tokenTrees?, Lexeme.ofText?,
    enough, textEq, ofTextWithin_comment _ _ markerPlain, ofTextWithin_comment _ _ stampPlain]
  rfl

/-- With a longer stamp, there are more steps to read the same tokens. -/
theorem fileTokens?_text_congr {settings : ArtifactSettings} {aggregation : Aggregation}
    {instant : Instant} (year : instant.HasFourDigitYear) (whole : instant.nanoseconds = 0)
    (isSource : (items? (text settings aggregation instant)).isSome = true) (other : Instant) :
    fileTokens? (text settings aggregation instant) =
      fileTokens? (text settings aggregation other) := by
  have shorter : (text settings aggregation instant).length - 4 ≤
      (text settings aggregation other).length - 4 := by
    have least := other.le_length_stamp
    rw [length_text, length_text, Instant.length_stamp year whole]
    omega
  have read : (fileTokens? (text settings aggregation instant)).isSome = true := by
    rw [Option.isSome_iff_exists] at isSource ⊢
    rcases isSource with ⟨items, found⟩
    rcases Option.bind_eq_some_iff.1 found with ⟨tokens, read, _⟩
    exact ⟨tokens, read⟩
  rw [fileTokens?_text] at read ⊢
  rw [fileTokens?_text]
  rcases lexed : Lexeme.ofTextWithin ((text settings aggregation instant).length - 4)
    (body settings aggregation) with _ | lexemes
  · simp [lexed] at read
  · rw [ofTextWithin_mono lexed shorter]

end ArtifactSource

namespace Artifact

variable {settings : ArtifactSettings} {aggregation : Aggregation} {instant other : Instant}
  {artifact : Artifact}

/-- An artifact is the text for the findings, where there are some and the text is a source file. -/
theorem render_eq_ok :
    render settings aggregation instant = .ok artifact ↔
      aggregation.isEmpty = false ∧
        (Source.items? (ArtifactSource.text settings aggregation instant)).isSome = true ∧
        artifact = ⟨String.ofList (ArtifactSource.text settings aggregation instant),
          Candidate.collisions (Candidate.sorted aggregation.candidates)⟩ := by
  rw [render]
  cases aggregation.isEmpty with
  | true => simp
  | false =>
      cases isSource :
          (Source.items? (ArtifactSource.text settings aggregation instant)).isSome with
      | true => simp [isSource, eq_comm]
      | false => simp [isSource]

/-- Where an artifact can be rendered at a whole second in a year of four digits, it can be rendered
at any other instant. -/
theorem exists_render_eq_ok (year : instant.HasFourDigitYear) (whole : instant.nanoseconds = 0)
    (rendered : render settings aggregation instant = .ok artifact) (other : Instant) :
    ∃ otherArtifact, render settings aggregation other = .ok otherArtifact := by
  rcases render_eq_ok.1 rendered with ⟨notEmpty, isSource, _⟩
  have sameTokens := ArtifactSource.fileTokens?_text_congr year whole isSource other
  rw [Source.items?_congr sameTokens] at isSource
  exact ⟨_, render_eq_ok.2 ⟨notEmpty, isSource, rfl⟩⟩

/-- The text of an artifact tells the instant that it was rendered with. -/
theorem generatedAt?_of_render (year : instant.HasFourDigitYear) (whole : instant.nanoseconds = 0)
    (rendered : render settings aggregation instant = .ok artifact) :
    Header.generatedAt? artifact.source.toList = some instant := by
  rcases render_eq_ok.1 rendered with ⟨_, _, rfl⟩
  rw [String.toList_ofList]
  exact ArtifactSource.generatedAt?_text settings aggregation year whole

/-- Headers read back. What can be rendered at a whole second in a year of four digits can be
rendered at every other one, and the text says on its first line that it is generated, tells the
second on its second line and is read as generated at that second, whatever the settings, names and
keys below these lines are made of. -/
theorem header_reads_back (year : instant.HasFourDigitYear) (whole : instant.nanoseconds = 0)
    (rendered : render settings aggregation instant = .ok artifact) :
    ∀ second : Instant, second.HasFourDigitYear → second.nanoseconds = 0 →
      ∃ stamped, render settings aggregation second = .ok stamped ∧
        Header.isGenerated stamped.source.toList = true ∧
        (Text.lines stamped.source.toList)[1]? = some (Header.stampStart ++ second.stamp) ∧
        Header.generatedAt? stamped.source.toList = some second := by
  intro second secondYear secondWhole
  rcases exists_render_eq_ok year whole rendered second with ⟨stamped, restamped⟩
  have stampReads := generatedAt?_of_render secondYear secondWhole restamped
  refine ⟨stamped, restamped, ?_, ?_, stampReads⟩
  · rcases render_eq_ok.1 restamped with ⟨_, _, rfl⟩
    rw [String.toList_ofList]
    exact ArtifactSource.isGenerated_text settings aggregation second
  · rcases render_eq_ok.1 restamped with ⟨_, _, rfl⟩
    rw [String.toList_ofList, ArtifactSource.text, List.append_assoc,
      ArtifactSource.lines_markerLine_append, ArtifactSource.lines_stampLine_append]
    rfl

end Artifact

namespace Sample

/-- A type of maps that holds a line which looks like that of a stamp. -/
def misleadingSettings : ArtifactSettings :=
  { ArtifactSettings.standard with mapType := "M<\n// Generated at: 2001-01-01T00:00:00Z\n>" }

/-- Three declarations of two modules, of which the first has a key that looks like the line of a
stamp and the last one overrides a conversion. -/
def misleadingAggregation : Aggregation :=
  { Aggregation.empty with
    candidates := [⟨"Alpha", "crate::a", "\n// Generated at: 2001-01-01T00:00:00Z\n"⟩,
      ⟨"Beta", "crate::a", ""⟩, ⟨"Packer", "crate::codec", ""⟩]
    serializer := some ⟨.serializer, "Packer", "crate::codec"⟩ }

theorem sorted_misleading :
    Candidate.sorted misleadingAggregation.candidates = misleadingAggregation.candidates :=
  List.mergeSort_of_pairwise (by decide)

theorem render_misleading :
    ∃ artifact, Artifact.render misleadingSettings misleadingAggregation ⟨0, 0⟩ = .ok artifact := by
  refine ⟨_, Artifact.render_eq_ok.2 ⟨rfl, ?_, rfl⟩⟩
  unfold ArtifactSource.text ArtifactSource.body
  rw [sorted_misleading]
  decide +kernel

/-- The last second of a leap day before 1970 is read from the header, and nothing below it. -/
theorem header_reads_back_leapDay :
    ∃ first artifact,
      Artifact.render misleadingSettings misleadingAggregation ⟨0, 0⟩ = .ok first ∧
      Artifact.render misleadingSettings misleadingAggregation ⟨-2077660801, 0⟩ = .ok artifact ∧
      (Text.lines artifact.source.toList)[1]? =
        some "// Generated at: 1904-02-29T23:59:59Z".toList ∧
      Header.generatedAt? artifact.source.toList = some ⟨-2077660801, 0⟩ := by
  rcases render_misleading with ⟨first, renderedFirst⟩
  rcases Artifact.header_reads_back (by decide) rfl renderedFirst ⟨-2077660801, 0⟩ (by decide) rfl
    with ⟨artifact, rendered, _, line, reads⟩
  refine ⟨first, artifact, renderedFirst, rendered, line.trans ?_, reads⟩
  decide

end Sample

end Registrar
