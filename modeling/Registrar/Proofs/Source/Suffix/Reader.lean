import Registrar.Source.File

/-!
# Readers take from the front

Whatever a reader leaves is the end of what it was given. This is a class, so that it is found for
a reader from the readers that it is made of. Nothing is asked of a reader of the inside of a
group, which never sees the trees after the group.
-/

namespace Registrar.Source

namespace Reader

variable {α β : Type}

/-- Whether a reader leaves the end of the given trees, if it reads them. -/
def LeavesEndOf (tokens : Tokens) (reader : Reader α) : Prop :=
  ∀ {rest : Tokens} {value : α}, reader tokens = some (value, rest) → rest <:+ tokens

/-- A reader leaves the end of whatever trees it is given. -/
class LeavesEnd (reader : Reader α) : Prop where
  leavesEndOf : ∀ tokens, LeavesEndOf tokens reader

theorem bind_eq_some {reader : Reader α} {next : α → Reader β} {tokens rest : Tokens} {value : β}
    (read : (reader >>= next) tokens = some (value, rest)) :
    ∃ first middle, reader tokens = some (first, middle) ∧
      next first middle = some (value, rest) := by
  have unfolded : (reader tokens).bind (fun result => next result.1 result.2) =
      some (value, rest) := read
  rcases Option.bind_eq_some_iff.1 unfolded with ⟨⟨first, middle⟩, run, continued⟩
  exact ⟨first, middle, run, continued⟩

namespace LeavesEnd

theorem suffix {reader : Reader α} [LeavesEnd reader] {tokens rest : Tokens} {value : α}
    (read : reader tokens = some (value, rest)) : rest <:+ tokens :=
  leavesEndOf tokens read

theorem of_get {next : Tokens → Reader α} (ends : ∀ tokens, LeavesEndOf tokens (next tokens)) :
    LeavesEnd (get >>= next) where
  leavesEndOf := by
    intro tokens rest value read
    exact ends tokens read

theorem leavesEndOf_set {tokens kept : Tokens} (shorter : kept <:+ tokens)
    (next : PUnit → Reader α) [further : LeavesEnd (next ⟨⟩)] :
    LeavesEndOf tokens (set kept >>= next) := by
  intro rest value read
  exact (further.leavesEndOf kept read).trans shorter

theorem leavesEndOf_require {tokens : Tokens} (condition : Bool) {next : PUnit → Reader α}
    (ends : LeavesEndOf tokens (next ⟨⟩)) : LeavesEndOf tokens (require condition >>= next) := by
  intro rest value read
  unfold require at read
  rcases condition with _ | _
  · cases read
  · exact ends read

end LeavesEnd

open LeavesEnd

instance (value : α) : LeavesEnd (pure value : Reader α) where
  leavesEndOf := by
    rintro tokens rest found ⟨⟩
    exact List.suffix_refl _

instance : LeavesEnd (get : Reader Tokens) where
  leavesEndOf := by
    rintro tokens rest found ⟨⟩
    exact List.suffix_refl _

instance : LeavesEnd (failure : Reader α) where
  leavesEndOf := nofun

theorem LeavesEnd.of_bind {reader : Reader α} {next : α → Reader β} [LeavesEnd reader]
    (further : ∀ value, LeavesEnd (next value)) : LeavesEnd (reader >>= next) where
  leavesEndOf := by
    intro tokens rest found read
    rcases bind_eq_some read with ⟨value, middle, run, continued⟩
    exact (suffix continued).trans (suffix run)

instance (reader : Reader α) (next : α → Reader β) [LeavesEnd reader]
    [further : ∀ value, LeavesEnd (next value)] : LeavesEnd (reader >>= next) :=
  of_bind further

instance (condition : Prop) [Decidable condition] (first second : Reader α) [LeavesEnd first]
    [LeavesEnd second] : LeavesEnd (if condition then first else second) := by
  split <;> infer_instance

instance (expected : Mark) : LeavesEnd (mark expected) := by
  unfold mark
  apply of_get
  intro tokens
  split
  · apply leavesEndOf_set
    exact List.drop_suffix _ _
  · exact leavesEndOf _

instance (expected : Mark) : LeavesEnd (optionalMark expected) := by
  unfold optionalMark
  infer_instance

instance (expected : String) : LeavesEnd (word expected) := by
  unfold word
  apply of_get
  intro tokens
  split
  · split
    · apply leavesEndOf_set
      exact List.suffix_cons _ _
    · exact leavesEndOf _
  · exact leavesEndOf _

instance (expected : String) : LeavesEnd (optionalWord expected) := by
  unfold optionalWord
  infer_instance

instance : LeavesEnd anyWord := by
  unfold anyWord
  apply of_get
  intro tokens
  split
  · apply leavesEndOf_set
    exact List.suffix_cons _ _
  · exact leavesEndOf _

instance : LeavesEnd name := by
  unfold name
  infer_instance

instance : LeavesEnd nameOrUnderscore := by
  unfold nameOrUnderscore
  infer_instance

instance : LeavesEnd lifetime := by
  unfold lifetime
  apply of_get
  intro tokens
  split
  · apply leavesEndOf_set
    exact (List.suffix_cons _ _).trans (List.suffix_cons _ _)
  · exact leavesEndOf _

instance : LeavesEnd optionalLifetime := by
  unfold optionalLifetime
  infer_instance

instance : LeavesEnd literal := by
  unfold literal
  apply of_get
  intro tokens
  split
  · apply leavesEndOf_set
    exact List.suffix_cons _ _
  · split
    · apply leavesEndOf_set
      exact List.suffix_cons _ _
    · exact leavesEndOf _
  · split
    · apply leavesEndOf_set
      exact (List.suffix_cons _ _).trans (List.suffix_cons _ _)
    · exact leavesEndOf _
  · exact leavesEndOf _

instance (condition : Bool) : LeavesEnd (require condition) := by
  unfold require
  infer_instance

instance : LeavesEnd atEnd := by
  unfold atEnd
  infer_instance

instance (delimiter : Delimiter) (reader : Reader α) : LeavesEnd (inside delimiter reader) := by
  unfold inside
  apply of_get
  intro tokens
  split
  · split
    · split
      · apply leavesEndOf_set
        exact List.suffix_cons _ _
      · exact leavesEndOf _
    · exact leavesEndOf _
  · exact leavesEndOf _

instance (delimiter : Delimiter) (reader : Reader Tokens) :
    LeavesEnd (enclosed delimiter reader) := by
  unfold enclosed
  infer_instance

instance : LeavesEnd anyGroup := by
  unfold anyGroup
  apply of_get
  intro tokens
  split
  · apply leavesEndOf_set
    exact List.suffix_cons _ _
  · exact leavesEndOf _

theorem leavesEnd_extendWithin (step : α → Reader (Option α)) [∀ value, LeavesEnd (step value)]
    (rounds : Nat) (value : α) : LeavesEnd (extendWithin step rounds value) := by
  induction rounds generalizing value with
  | zero =>
    unfold extendWithin
    infer_instance
  | succ rounds further =>
    unfold extendWithin
    apply of_bind
    intro found
    rcases found with _ | next
    · infer_instance
    · exact further next

instance (step : α → Reader (Option α)) [∀ value, LeavesEnd (step value)] (value : α) :
    LeavesEnd (extend step value) := by
  unfold extend
  have within := leavesEnd_extendWithin step
  infer_instance

instance (continues : Tokens → Bool) (piece : Reader α) [LeavesEnd piece] :
    LeavesEnd («repeat» continues piece) := by
  unfold «repeat»
  infer_instance

instance (endsBefore endsAfter : Tokens → Bool) (separator : Mark) (piece : Reader α)
    [LeavesEnd piece] : LeavesEnd (separated endsBefore endsAfter separator piece) := by
  unfold separated
  infer_instance

instance (piece : Reader Tokens) [LeavesEnd piece] : LeavesEnd (commaSeparated piece) := by
  unfold commaSeparated
  infer_instance

end Reader

end Registrar.Source
