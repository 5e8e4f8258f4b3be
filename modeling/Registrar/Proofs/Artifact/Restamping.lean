import Registrar.Proofs.Artifact.Rendering
import Registrar.Run

/-!
# The stamp moves only with the body

An artifact that is the existing text is found at every reading of the clock: either the source
date fixes its stamp, or it is rendered with the stamp of the existing text. An artifact with a
stamp of the clock that happened to be the existing text would have the stamp that this text tells.
-/

namespace Registrar

/-- The same circumstances at another reading of the clock. -/
def Circumstances.withClock (circumstances : Circumstances) (clock : Instant) : Circumstances :=
  { circumstances with clock }

namespace Artifact

variable {settings : ArtifactSettings} {aggregation : Aggregation}
  {circumstances : Circumstances} {existing : Option String} {artifact : Artifact}

theorem isText_iff : artifact.isText existing = true ↔ existing = some artifact.source := by
  rw [isText, beq_iff_eq, eq_comm]

/-- The instant that a text tells in its header, if there is a text and it tells one. -/
def previousStamp? (existing : Option String) : Option Instant :=
  existing.bind fun text => Header.generatedAt? text.toList

/-- Without a source date and without a stamp in the existing text, the clock decides. -/
theorem renderStable_of_no_stamp (noDate : circumstances.sourceDate.instant? = none)
    (noStamp : previousStamp? existing = none) :
    renderStable settings aggregation circumstances existing =
      render settings aggregation circumstances.clock.truncated := by
  rw [previousStamp?] at noStamp
  simp only [renderStable, noDate, noStamp]

/-- Without a source date, the stamp in the existing text decides where it gives that text. -/
theorem renderStable_of_stamp {previous : Instant}
    (noDate : circumstances.sourceDate.instant? = none)
    (stamp : previousStamp? existing = some previous) :
    renderStable settings aggregation circumstances existing =
      (render settings aggregation previous).bind fun again =>
        if again.isText existing then .ok again
        else render settings aggregation circumstances.clock.truncated := by
  rw [previousStamp?] at stamp
  simp only [renderStable, noDate, stamp]
  rfl

theorem renderStable_of_date {instant : Instant}
    (date : circumstances.sourceDate.instant? = some instant) :
    renderStable settings aggregation circumstances existing =
      render settings aggregation instant := by
  simp only [renderStable, date]

/-- The ways in which an artifact comes to its stamp. -/
theorem renderStable_cases
    (rendered : renderStable settings aggregation circumstances existing = .ok artifact) :
    (∃ instant, circumstances.sourceDate.instant? = some instant ∧
        render settings aggregation instant = .ok artifact) ∨
      circumstances.sourceDate.instant? = none ∧
        ((∃ previous, previousStamp? existing = some previous ∧
            render settings aggregation previous = .ok artifact ∧
            existing = some artifact.source) ∨
          render settings aggregation circumstances.clock.truncated = .ok artifact ∧
            ∀ previous, previousStamp? existing = some previous →
              ∃ again, render settings aggregation previous = .ok again ∧
                existing ≠ some again.source) := by
  rcases date : circumstances.sourceDate.instant? with _ | instant
  · right
    refine ⟨rfl, ?_⟩
    rcases stamp : previousStamp? existing with _ | previous
    · rw [renderStable_of_no_stamp date stamp] at rendered
      exact Or.inr ⟨rendered, nofun⟩
    · rw [renderStable_of_stamp date stamp] at rendered
      rcases first : render settings aggregation previous with failure | again
      · rw [first] at rendered
        cases rendered
      · simp only [first, Except.bind] at rendered
        split at rendered
        · rename_i same
          rcases Except.ok.inj rendered with rfl
          exact Or.inl ⟨previous, rfl, first, isText_iff.1 same⟩
        · rename_i differs
          refine Or.inr ⟨rendered, ?_⟩
          rintro other ⟨⟩
          exact ⟨again, first, fun same => differs (isText_iff.2 same)⟩
  · rw [renderStable_of_date date] at rendered
    exact Or.inl ⟨instant, rfl, rendered⟩

/-- Whatever decides on the stamp, an artifact is rendered with one. -/
theorem exists_render_of_renderStable
    (rendered : renderStable settings aggregation circumstances existing = .ok artifact) :
    ∃ instant, render settings aggregation instant = .ok artifact := by
  rcases renderStable_cases rendered with
    ⟨instant, _, atDate⟩ | ⟨_, ⟨previous, _, atStamp, _⟩ | ⟨atClock, _⟩⟩
  · exact ⟨instant, atDate⟩
  · exact ⟨previous, atStamp⟩
  · exact ⟨_, atClock⟩

/-- An artifact that is the existing text is found at every reading of the clock. -/
theorem renderStable_eq_of_isText (year : circumstances.clock.HasFourDigitYear)
    (rendered : renderStable settings aggregation circumstances existing = .ok artifact)
    (same : existing = some artifact.source) (clock : Instant) :
    renderStable settings aggregation (circumstances.withClock clock) existing = .ok artifact := by
  rcases renderStable_cases rendered with
    ⟨instant, date, atDate⟩ | ⟨noDate, ⟨previous, stamp, atStamp, _⟩ | ⟨atClock, noReuse⟩⟩
  · have otherDate : (circumstances.withClock clock).sourceDate.instant? = some instant := date
    rwa [renderStable_of_date otherDate]
  · have otherNoDate : (circumstances.withClock clock).sourceDate.instant? = none := noDate
    rw [renderStable_of_stamp otherNoDate stamp, atStamp]
    simp only [Except.bind, isText_iff.2 same, if_true]
  · have stamp : previousStamp? existing = some circumstances.clock.truncated := by
      rw [same]
      exact generatedAt?_of_render (by simpa using year) rfl atClock
    rcases noReuse _ stamp with ⟨again, atStamp, differs⟩
    rw [atClock, Except.ok.injEq] at atStamp
    rw [atStamp] at same
    exact absurd same differs

/-- Where there is an artifact at one reading of the clock, there is one at every other one. -/
theorem exists_renderStable_eq_ok (year : circumstances.clock.HasFourDigitYear)
    (rendered : renderStable settings aggregation circumstances existing = .ok artifact)
    (clock : Instant) :
    ∃ other, renderStable settings aggregation (circumstances.withClock clock) existing =
      .ok other := by
  rcases renderStable_cases rendered with
    ⟨instant, date, atDate⟩ | ⟨noDate, ⟨previous, stamp, atStamp, same⟩ | ⟨atClock, noReuse⟩⟩
  · have otherDate : (circumstances.withClock clock).sourceDate.instant? = some instant := date
    exact ⟨artifact, by rwa [renderStable_of_date otherDate]⟩
  · exact ⟨artifact, renderStable_eq_of_isText year rendered same clock⟩
  · rcases exists_render_eq_ok ((Instant.hasFourDigitYear_truncated _).2 year) rfl atClock
      clock.truncated with ⟨other, atOther⟩
    have otherNoDate : (circumstances.withClock clock).sourceDate.instant? = none := noDate
    refine ⟨other, ?_⟩
    rcases stamp : previousStamp? existing with _ | previous
    · rw [renderStable_of_no_stamp otherNoDate stamp]
      exact atOther
    · rcases noReuse _ stamp with ⟨again, atStamp, differs⟩
      rw [renderStable_of_stamp otherNoDate stamp, atStamp]
      have notSame : again.isText existing = false := by
        rw [Bool.eq_false_iff, Ne, isText_iff]
        exact differs
      simp only [Except.bind, notSame, Bool.false_eq_true, if_false]
      exact atOther

/-- What cannot be rendered at some instant cannot be rendered at any whole second in a year of four
digits, and for the same reason. -/
theorem render_eq_error {failure : Failure} {clock : Instant}
    (failed : render settings aggregation instant = .error failure)
    (year : clock.HasFourDigitYear) (whole : clock.nanoseconds = 0) :
    render settings aggregation clock = .error failure := by
  rcases rendered : render settings aggregation clock with reason | artifact
  · rw [render] at rendered failed
    cases empty : aggregation.isEmpty with
    | true =>
        rw [if_pos empty] at rendered failed
        exact rendered.symm.trans failed
    | false =>
        simp only [empty, Bool.false_eq_true, if_false] at rendered failed
        split at rendered
        · cases rendered
        · split at failed
          · cases failed
          · exact rendered.symm.trans failed
  · rcases exists_render_eq_ok year whole rendered instant with ⟨again, renderedAgain⟩
    rw [failed] at renderedAgain
    cases renderedAgain

/-- A text that is not what its own stamp asks for is given up: the clock decides, whether that
gives an artifact or a failure. -/
theorem renderStable_of_not_rendered (noDate : circumstances.sourceDate.instant? = none)
    (year : circumstances.clock.HasFourDigitYear)
    (stale : ∀ previous again, previousStamp? existing = some previous →
      render settings aggregation previous = .ok again → existing ≠ some again.source) :
    renderStable settings aggregation circumstances existing =
      render settings aggregation circumstances.clock.truncated := by
  rcases stamp : previousStamp? existing with _ | previous
  · exact renderStable_of_no_stamp noDate stamp
  · rw [renderStable_of_stamp noDate stamp]
    rcases rendered : render settings aggregation previous with failure | again
    · exact (render_eq_error rendered ((Instant.hasFourDigitYear_truncated _).2 year) rfl).symm
    · have differs : again.isText existing = false := by
        rw [Bool.eq_false_iff, Ne, isText_iff]
        exact stale previous again stamp rendered
      simp only [Except.bind, differs, Bool.false_eq_true, if_false]

/-- The artifact at one reading of the clock is the existing text if and only if the artifact at
another one is. -/
theorem isText_clock_iff {clock : Instant} {other : Artifact}
    (year : circumstances.clock.HasFourDigitYear) (otherYear : clock.HasFourDigitYear)
    (rendered : renderStable settings aggregation circumstances existing = .ok artifact)
    (renderedOther :
      renderStable settings aggregation (circumstances.withClock clock) existing = .ok other) :
    existing = some artifact.source ↔ existing = some other.source := by
  constructor
  · intro same
    have again := renderStable_eq_of_isText year rendered same clock
    rw [renderedOther, Except.ok.injEq] at again
    rw [again, same]
  · intro same
    have again := @renderStable_eq_of_isText _ _ (circumstances.withClock clock) _ _ otherYear
      renderedOther same circumstances.clock
    have back : renderStable settings aggregation circumstances existing = .ok other := again
    rw [rendered, Except.ok.injEq] at back
    rw [back, same]

/-- The faults of a run have no part in its artifact. -/
theorem renderStable_congr {others : Circumstances}
    (sameDate : others.sourceDate = circumstances.sourceDate)
    (sameClock : others.clock = circumstances.clock) :
    renderStable settings aggregation others existing =
      renderStable settings aggregation circumstances existing := by
  simp only [renderStable, sameDate, sameClock]

/-- The clock decides only on the second that it tells. -/
theorem renderStable_congr_clock {clock : Instant}
    (sameSecond : clock.truncated = circumstances.clock.truncated ∨
      circumstances.sourceDate.instant?.isSome = true) :
    renderStable settings aggregation (circumstances.withClock clock) existing =
      renderStable settings aggregation circumstances existing := by
  rcases sameSecond with equal | date
  · simp only [renderStable, Circumstances.withClock, equal]
  · rcases Option.isSome_iff_exists.1 date with ⟨instant, date⟩
    have otherDate : (circumstances.withClock clock).sourceDate.instant? = some instant := date
    rw [renderStable_of_date date, renderStable_of_date otherDate]

end Artifact

end Registrar
