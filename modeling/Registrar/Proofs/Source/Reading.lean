import Registrar.Proofs.Source.Suffix.Reader

/-!
# What a reader has read

A reader that succeeds tells which trees it was given: the words and marks it took, and for a
repetition where each of its pieces was read.
-/

namespace Registrar.Source.Reader

variable {α : Type} {tokens rest : Tokens}

theorem whole_eq_some {reader : Reader α} {value : α} :
    whole reader tokens = some value ↔ reader tokens = some (value, []) := by
  unfold whole
  constructor
  · intro read
    split at read
    · rename_i found run
      rcases read with ⟨⟩
      exact run
    · cases read
  · intro run
    have ran : reader.run tokens = some (value, []) := run
    rw [ran]

theorem anyWord_eq_some {found : String} (read : anyWord tokens = some (found, rest)) :
    tokens = .word found :: rest := by
  rcases bind_eq_some read with ⟨first, middle, ⟨⟩, taken⟩
  split at taken
  · rcases taken with ⟨⟩
    rfl
  · cases taken

theorem word_eq_some {expected : String} {read : Tokens}
    (taken : word expected tokens = some (read, rest)) : tokens = .word expected :: rest := by
  rcases bind_eq_some taken with ⟨_, _, ⟨⟩, run⟩
  split at run
  · rename_i found others
    split at run
    · rename_i same
      rcases run with ⟨⟩
      rw [eq_of_beq same]
    · cases run
  · cases run

theorem optionalWord_eq_some {expected : String} {read : Tokens}
    (taken : optionalWord expected tokens = some (read, rest)) :
    tokens = .word expected :: rest ∨ tokens = rest := by
  rcases bind_eq_some taken with ⟨_, _, ⟨⟩, run⟩
  split at run
  · exact Or.inl (word_eq_some run)
  · rcases run with ⟨⟩
    exact Or.inr rfl

theorem name_eq_some {found : String} (read : name tokens = some (found, rest)) :
    tokens = .word found :: rest := by
  rcases bind_eq_some read with ⟨current, same, ⟨⟩, run⟩
  split at run
  · exact anyWord_eq_some run
  · cases run

theorem require_eq_some {condition : Bool} {value : Unit}
    (read : require condition tokens = some (value, rest)) : condition = true ∧ rest = tokens := by
  unfold require at read
  rcases condition with _ | _
  · cases read
  · rcases read with ⟨⟩
    exact ⟨rfl, rfl⟩

theorem markTokens_ne_nil {first : Char} {others : List Char} :
    markTokens (first :: others) ≠ [] := by
  rcases others with _ | ⟨second, others⟩ <;> exact List.cons_ne_nil _ _

theorem mark_eq_some {expected : Mark} {read : Tokens}
    (marked : mark expected tokens = some (read, rest)) :
    tokens.atMark expected = true ∧ read = markTokens expected.characters ∧
      rest = tokens.drop expected.characters.length := by
  rcases bind_eq_some marked with ⟨_, _, ⟨⟩, run⟩
  split at run
  · rename_i starts
    rcases run with ⟨⟩
    exact ⟨starts, rfl, rfl⟩
  · cases run

/-- An operator of one character is one mark, which may be joint. -/
theorem exists_joint_of_mark {character : Char} {read : Tokens}
    (marked : mark ⟨[character]⟩ tokens = some (read, rest)) :
    ∃ joint, tokens = .mark character joint :: rest := by
  rcases mark_eq_some marked with ⟨starts, _, rfl⟩
  rcases tokens with _ | ⟨word | ⟨found, joint⟩ | spelling | ⟨delimiter, content⟩, others⟩
  · cases starts
  · cases starts
  · have same : (found == character) = true := starts
    rw [eq_of_beq same]
    exact ⟨joint, rfl⟩
  · cases starts
  · cases starts

theorem literal_eq_some {spelling : String}
    (read : literal tokens = some ([.literal spelling], rest)) :
    tokens = .literal spelling :: rest := by
  rcases bind_eq_some read with ⟨_, _, ⟨⟩, run⟩
  split at run
  · rcases run with ⟨⟩
    rfl
  · split at run <;> cases run
  · split at run <;> cases run
  · cases run

theorem optionalMark_eq_some {expected : Mark} {read : Tokens}
    (marked : optionalMark expected tokens = some (read, rest)) :
    read = markTokens expected.characters ∨ read = [] ∧ rest = tokens := by
  rcases bind_eq_some marked with ⟨_, _, ⟨⟩, run⟩
  split at run
  · exact Or.inl (mark_eq_some run).2.1
  · rcases run with ⟨⟩
    exact Or.inr ⟨rfl, rfl⟩

/-- What holds of the value at the start, and after each further step, holds of the value at the
end. -/
theorem extendWithin_induction {step : α → Reader (Option α)} {holds : Tokens → α → Prop}
    (stepHolds : ∀ {tokens rest value next}, holds tokens value →
      step value tokens = some (next, rest) → holds rest (next.getD value))
    {rounds : Nat} {tokens rest : Tokens} {value result : α} (start : holds tokens value)
    (read : extendWithin step rounds value tokens = some (result, rest)) : holds rest result := by
  induction rounds generalizing tokens value with
  | zero => cases read
  | succ rounds ih =>
    rw [extendWithin] at read
    rcases bind_eq_some read with ⟨found, middle, stepped, continued⟩
    have held := stepHolds start stepped
    rcases found with _ | next
    · rcases continued with ⟨⟩
      exact held
    · exact ih held continued

/-- Whether a reader reads pieces one after the other. -/
inductive Reads (piece : Reader α) : Tokens → List α → Tokens → Prop
  | nil (tokens : Tokens) : Reads piece tokens [] tokens
  | cons {tokens middle rest : Tokens} {value : α} {values : List α}
    (first : piece tokens = some (value, middle)) (further : Reads piece middle values rest) :
    Reads piece tokens (value :: values) rest

theorem Reads.append_singleton {piece : Reader α} {left : Tokens} {values : List α} {value : α}
    (reads : Reads piece tokens values rest) (last : piece rest = some (value, left)) :
    Reads piece tokens (values ++ [value]) left := by
  induction reads with
  | nil => exact .cons last (.nil left)
  | cons first _ ih => exact .cons first (ih last)

/-- The pieces of a repetition are read one after the other. -/
theorem reads_of_repeat {continues : Tokens → Bool} {piece : Reader α} {pieces : List α}
    (read : «repeat» continues piece tokens = some (pieces, rest)) :
    Reads piece tokens pieces rest := by
  rcases bind_eq_some read with ⟨reversed, middle, extended, ⟨⟩⟩
  rcases bind_eq_some extended with ⟨_, _, ⟨⟩, within⟩
  -- The pieces that were read so far are held in reverse.
  have start : Reads piece tokens (List.reverse []) tokens := .nil tokens
  apply extendWithin_induction _ start within
  intro current left earlier next held stepped
  rcases bind_eq_some stepped with ⟨_, _, ⟨⟩, run⟩
  split at run
  · rcases bind_eq_some run with ⟨value, after, taken, ⟨⟩⟩
    rw [Option.getD_some, List.reverse_cons]
    exact held.append_singleton taken
  · rcases run with ⟨⟩
    exact held

/-- A repetition without pieces takes nothing. -/
theorem rest_of_repeat_eq_nil {continues : Tokens → Bool} {piece : Reader α}
    (read : «repeat» continues piece tokens = some ([], rest)) : rest = tokens := by
  cases reads_of_repeat read
  rfl

end Registrar.Source.Reader
