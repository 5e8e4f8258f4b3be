import Registrar.Source.File

/-!
# The words of a text

A word of a token tree is made of characters of identifiers, but for the mark of a raw word. A text
that may be used as a name is a single word, apart from blanks and comments, so a name without a
slash has no other marks.
-/

namespace Registrar.Source

open Text (isIdentifierContinue isIdentifierContinue_of_isIdentifierStart)

/-- Whether a text is made like a word. -/
def IsWordText (name : String) : Prop :=
  ∀ character ∈ name.toList, isIdentifierContinue character = true ∨ character = '#'

theorem IsWordText.colon_not_mem {name : String} (isWord : IsWordText name) :
    ':' ∉ name.toList := by
  intro member
  rcases isWord _ member with continues | mark
  · exact absurd continues (by decide)
  · exact absurd mark (by decide)

theorem exists_identifier {text after : List Char}
    (read : Literal.afterIdentifier? text = some after) :
    ∃ identifier, text = identifier ++ after ∧
      ∀ character ∈ identifier, isIdentifierContinue character = true := by
  rcases text with _ | ⟨first, rest⟩
  · cases read
  · rw [Literal.afterIdentifier?] at read
    split at read
    · rename_i starts
      rcases read with ⟨⟩
      refine ⟨first :: rest.takeWhile isIdentifierContinue, ?_, ?_⟩
      · rw [List.cons_append, List.takeWhile_append_dropWhile]
      · intro character member
        rcases List.mem_cons.1 member with rfl | inRest
        · exact isIdentifierContinue_of_isIdentifierStart starts
        · exact List.all_eq_true.1 List.all_takeWhile character inRest
    · cases read

theorem isIdentifierContinue_of_mem_take {text after : List Char} {character : Char}
    (read : Literal.afterIdentifier? text = some after)
    (member : character ∈ text.take (text.length - after.length)) :
    isIdentifierContinue character = true := by
  rcases exists_identifier read with ⟨identifier, rfl, continues⟩
  rw [List.length_append, Nat.add_sub_cancel, List.take_left] at member
  exact continues character member

namespace Lexeme

theorem isWordText_of_word? {text after : List Char} {name : String}
    (read : word? text = some (name, after)) : IsWordText name := by
  rw [word?.eq_def] at read
  intro character member
  split at read
  · rcases Option.bind_eq_some_iff.1 read with ⟨found, identifier, named⟩
    dsimp only at named
    split at named
    · cases named
    · rcases named with ⟨⟩
      rw [String.toList_append, List.mem_append] at member
      rcases member with inMark | inRest
      · rcases List.mem_cons.1 inMark with rfl | isHash
        · exact Or.inl (by decide)
        · exact Or.inr (List.mem_singleton.1 isHash)
      · rw [String.toList_ofList] at inRest
        exact Or.inl (isIdentifierContinue_of_mem_take identifier inRest)
  · rcases Option.map_eq_some_iff.1 read with ⟨found, identifier, ⟨⟩⟩
    rw [String.toList_ofList] at member
    exact Or.inl (isIdentifierContinue_of_mem_take identifier member)

/-- Whether a tree is made like a word, if it is a word. -/
def IsWordLike (tree : TokenTree) : Prop :=
  ∀ name, tree = .word name → IsWordText name

theorem exists_mark_of_mark? {text after : List Char} {tree : TokenTree}
    (read : mark? text = some (tree, after)) : ∃ character joint, tree = .mark character joint := by
  unfold mark? at read
  repeat' split at read
  all_goals rcases read with ⟨⟩
  all_goals exact ⟨_, _, rfl⟩

theorem word?_of_leaf? {text after : List Char} {name : String}
    (read : leaf? text = some (.word name, after)) : word? text = some (name, after) := by
  unfold leaf? at read
  split at read
  · cases read
  · rcases marked : mark? text with _ | ⟨mark, rest⟩
    · rw [marked, Option.orElse_eq_orElse, Option.orElse_none] at read
      split at read
      · cases read
      · rcases Option.map_eq_some_iff.1 read with ⟨⟨found, rest⟩, word, ⟨⟩⟩
        exact word
    · rw [marked, Option.orElse_eq_orElse, Option.orElse_some] at read
      rcases exists_mark_of_mark? marked with ⟨character, joint, rfl⟩
      cases read

theorem isWordLike_of_leaf? {text after : List Char} {tree : TokenTree}
    (read : leaf? text = some (tree, after)) : IsWordLike tree := by
  rintro name rfl
  exact isWordText_of_word? (word?_of_leaf? read)

theorem isWordLike_of_ofDocumentation {inner : Bool} {text : List Char} {tree : TokenTree}
    (member : .leaf tree ∈ ofDocumentation inner text) : IsWordLike tree := by
  rintro name rfl
  have isDoc : name = "doc" := by
    cases inner <;> simpa [ofDocumentation] using member
  subst isDoc
  intro character isLetter
  left
  have letters : ∀ letter ∈ "doc".toList, isIdentifierContinue letter = true :=
    List.all_eq_true.1 (by decide)
  exact letters character isLetter

theorem ne_leaf_of_bracket? {character : Char} {lexeme : Lexeme}
    (read : bracket? character = some lexeme) (tree : TokenTree) : lexeme ≠ .leaf tree := by
  rintro rfl
  unfold bracket? at read
  split at read <;> cases read

theorem isWordLike_of_ofTextWithin {steps : Nat} {text : List Char} {lexemes : List Lexeme}
    {tree : TokenTree} (cut : ofTextWithin steps text = some lexemes)
    (member : .leaf tree ∈ lexemes) : IsWordLike tree := by
  fun_induction ofTextWithin steps text generalizing lexemes
  case case1 =>
    rcases cut with ⟨⟩
    cases member
  case case2 | case5 | case9 => cases cut
  case case3 ih => exact ih cut member
  case case4 ih =>
    rcases Option.map_eq_some_iff.1 cut with ⟨others, rest, rfl⟩
    rcases List.mem_append.1 member with inComment | inRest
    · exact isWordLike_of_ofDocumentation inComment
    · exact ih rest inRest
  case case6 ih =>
    rcases Option.map_eq_some_iff.1 cut with ⟨others, rest, rfl⟩
    rcases List.mem_cons.1 member with isFirst | inRest
    · rcases isFirst with ⟨⟩
      exact nofun
    · exact ih rest inRest
  case case7 bracket isBracket ih =>
    rcases Option.map_eq_some_iff.1 cut with ⟨others, rest, rfl⟩
    rcases List.mem_cons.1 member with rfl | inRest
    · exact absurd rfl (ne_leaf_of_bracket? isBracket tree)
    · exact ih rest inRest
  case case8 leaf ih =>
    rcases Option.map_eq_some_iff.1 cut with ⟨others, rest, rfl⟩
    rcases List.mem_cons.1 member with isFirst | inRest
    · rcases isFirst with ⟨⟩
      exact isWordLike_of_leaf? leaf
    · exact ih rest inRest

theorem isWordLike_of_treesOf {enclosing : List (Delimiter × Tokens)} {current : Tokens}
    {lexemes : List Lexeme} {trees : Tokens}
    (matched : treesOf enclosing current lexemes = some trees)
    (leaves : ∀ tree, .leaf tree ∈ lexemes → IsWordLike tree)
    (inCurrent : ∀ tree ∈ current, IsWordLike tree)
    (inEnclosing : ∀ group ∈ enclosing, ∀ tree ∈ group.2, IsWordLike tree) :
    ∀ tree ∈ trees, IsWordLike tree := by
  fun_induction treesOf enclosing current lexemes
  case case1 =>
    rcases matched with ⟨⟩
    intro tree member
    exact inCurrent tree (List.mem_reverse.1 member)
  case case2 | case5 | case7 => cases matched
  case case3 ih =>
    apply ih matched (fun tree member => leaves tree (List.mem_cons_of_mem _ member)) _ inEnclosing
    intro tree member
    rcases List.mem_cons.1 member with rfl | earlier
    · exact leaves _ List.mem_cons_self
    · exact inCurrent tree earlier
  case case4 ih =>
    apply ih matched (fun tree member => leaves tree (List.mem_cons_of_mem _ member)) nofun
    intro group member
    rcases List.mem_cons.1 member with rfl | outer
    · exact inCurrent
    · exact inEnclosing group outer
  case case6 ih =>
    apply ih matched (fun tree member => leaves tree (List.mem_cons_of_mem _ member))
    · intro tree member
      rcases List.mem_cons.1 member with rfl | earlier
      · exact nofun
      · exact inEnclosing _ List.mem_cons_self tree earlier
    · intro group member
      exact inEnclosing group (List.mem_cons_of_mem _ member)

end Lexeme

/-- The words among the trees of a text are made like words. -/
theorem isWordText_of_mem_tokenTrees? {text : List Char} {trees : Tokens} {name : String}
    (read : tokenTrees? text = some trees) (member : .word name ∈ trees) : IsWordText name := by
  rcases Option.bind_eq_some_iff.1 read with ⟨lexemes, cut, matched⟩
  exact Lexeme.isWordLike_of_treesOf matched
    (fun _ => Lexeme.isWordLike_of_ofTextWithin cut) nofun nofun
    _ member name rfl

namespace Lexeme

/-- A text goes on after the word at its start. -/
theorem toList_append_of_word? {text after : List Char} {name : String}
    (read : word? text = some (name, after)) : text = name.toList ++ after := by
  have taken : ∀ rest : List Char, Literal.afterIdentifier? rest = some after →
      rest = rest.take (rest.length - after.length) ++ after := by
    intro rest identifier
    rcases exists_identifier identifier with ⟨characters, rfl, _⟩
    rw [List.length_append, Nat.add_sub_cancel, List.take_left]
  rw [word?.eq_def] at read
  split at read
  · rcases Option.bind_eq_some_iff.1 read with ⟨found, identifier, named⟩
    dsimp only at named
    split at named
    · cases named
    · rcases named with ⟨⟩
      simp only [String.toList_append, String.toList_ofList, List.append_assoc]
      rw [← taken _ identifier]
      rfl
  · rcases Option.map_eq_some_iff.1 read with ⟨found, identifier, ⟨⟩⟩
    rw [String.toList_ofList, ← taken _ identifier]

/-- A group that was opened or read is among the trees in the end. -/
theorem exists_group_of_treesOf {enclosing : List (Delimiter × Tokens)} {current : Tokens}
    {lexemes : List Lexeme} {trees : Tokens}
    (matched : treesOf enclosing current lexemes = some trees)
    (opened : enclosing ≠ [] ∨ ∃ delimiter inside, .group delimiter inside ∈ current) :
    ∃ delimiter inside, .group delimiter inside ∈ trees := by
  fun_induction treesOf enclosing current lexemes
  case case1 isClosed =>
    rcases matched with ⟨⟩
    rcases opened with isOpen | ⟨delimiter, inside, member⟩
    · exact absurd (List.isEmpty_iff.1 isClosed) isOpen
    · exact ⟨delimiter, inside, List.mem_reverse.2 member⟩
  case case2 | case5 | case7 => cases matched
  case case3 ih =>
    apply ih matched
    rcases opened with isOpen | ⟨delimiter, inside, member⟩
    · exact Or.inl isOpen
    · exact Or.inr ⟨delimiter, inside, List.mem_cons_of_mem _ member⟩
  case case4 ih => exact ih matched (Or.inl (List.cons_ne_nil _ _))
  case case6 ih => exact ih matched (Or.inr ⟨_, _, List.mem_cons_self⟩)

/-- Trees without groups are the leaves that were read. -/
theorem lexemes_eq_of_treesOf {current : Tokens} {lexemes : List Lexeme} {trees : Tokens}
    (matched : treesOf [] current lexemes = some trees)
    (groupless : ∀ delimiter inside, .group delimiter inside ∉ trees) :
    ∃ leaves : Tokens, lexemes = leaves.map .leaf ∧ trees = current.reverse ++ leaves := by
  induction lexemes generalizing current with
  | nil =>
      rcases matched with ⟨⟩
      exact ⟨[], rfl, by simp⟩
  | cons lexeme rest ih =>
      rcases lexeme with delimiter | delimiter | tree
      · rw [treesOf] at matched
        rcases exists_group_of_treesOf matched (Or.inl (List.cons_ne_nil _ _)) with
          ⟨opened, inside, member⟩
        exact absurd member (groupless opened inside)
      · cases matched
      · rcases ih matched with ⟨leaves, rfl, rfl⟩
        exact ⟨tree :: leaves, rfl, by simp⟩

/-- Only a blank is passed over where no comment can start. -/
theorem isSeparator_of_afterSeparator? {character : Char} {rest after : List Char}
    (noSlash : character ≠ '/') (passed : afterSeparator? (character :: rest) = some after) :
    isSeparator character = true ∧ after = rest := by
  rw [afterSeparator?.eq_def] at passed
  split at passed
  case h_10 blank =>
    rcases blank with ⟨⟩
    split at passed
    · rename_i separates
      exact ⟨separates, (Option.some.inj passed).symm⟩
    · cases passed
  case h_11 empty => cases empty
  all_goals
    rename_i comment
    exact absurd (List.cons.inj comment).1 noSlash

theorem documentation?_eq_none {character : Char} {rest : List Char}
    (noSlash : character ≠ '/') : documentation? (character :: rest) = none := by
  rw [documentation?.eq_def]
  split
  case h_5 => rfl
  all_goals
    rename_i comment
    exact absurd (List.cons.inj comment).1 noSlash

theorem colon_not_mem_of_word? {text after : List Char} {name : String}
    (read : word? text = some (name, after)) (plain : '/' ∉ text)
    (rest : '/' ∉ after → ':' ∉ after) : ':' ∉ text := by
  rw [toList_append_of_word? read, List.mem_append, not_or] at plain ⊢
  exact ⟨(isWordText_of_word? read).colon_not_mem, rest plain.2⟩

/-- A text without a slash that is cut into words has nothing else but blanks. -/
theorem colon_not_mem_of_ofTextWithin {steps : Nat} {text : List Char} {lexemes : List Lexeme}
    (cut : ofTextWithin steps text = some lexemes)
    (words : ∀ lexeme ∈ lexemes, ∃ name, lexeme = .leaf (.word name)) (plain : '/' ∉ text) :
    ':' ∉ text := by
  fun_induction ofTextWithin steps text generalizing lexemes
  case case1 => exact List.not_mem_nil
  case case2 | case5 | case9 => cases cut
  case case3 passed ih =>
    rw [List.mem_cons, not_or] at plain ⊢
    rcases isSeparator_of_afterSeparator? (Ne.symm plain.1) passed with ⟨separates, rfl⟩
    refine ⟨?_, ih cut words plain.2⟩
    rintro rfl
    exact absurd separates (by decide)
  case case4 documents _ _ =>
    rw [List.mem_cons, not_or] at plain
    rw [documentation?_eq_none (Ne.symm plain.1)] at documents
    cases documents
  case case6 =>
    rcases Option.map_eq_some_iff.1 cut with ⟨others, _, rfl⟩
    rcases words _ List.mem_cons_self with ⟨name, isWord⟩
    cases isWord
  case case7 isBracket _ =>
    rcases Option.map_eq_some_iff.1 cut with ⟨others, _, rfl⟩
    rcases words _ List.mem_cons_self with ⟨name, isWord⟩
    exact absurd isWord (ne_leaf_of_bracket? isBracket _)
  case case8 leaf ih =>
    rcases Option.map_eq_some_iff.1 cut with ⟨others, rest, rfl⟩
    rcases words _ List.mem_cons_self with ⟨name, isWord⟩
    rcases isWord with ⟨⟩
    apply colon_not_mem_of_word? (word?_of_leaf? leaf) plain
    exact ih rest fun lexeme member => words lexeme (List.mem_cons_of_mem _ member)

end Lexeme

theorem Reader.eq_of_name {tokens rest : Tokens} {word : String}
    (read : Reader.name tokens = some (word, rest)) : tokens = .word word :: rest := by
  have step : Reader.name tokens =
      (if tokens.atName then Reader.anyWord else failure : Reader String) tokens := rfl
  rw [step] at read
  split at read
  · rcases tokens with _ | ⟨first, others⟩
    · cases read
    · rcases first with found | _ | _ | _
      · rcases read with ⟨⟩
        rfl
      · cases read
      · cases read
      · cases read
  · cases read

/-- A text that may be used as a name has a single word. -/
theorem exists_word_of_isName {text : List Char} (named : isName text = true) :
    ∃ name, readTokens? text = some [.word name] := by
  rw [isName] at named
  split at named
  · rename_i tokens read
    rcases found : Reader.name tokens with _ | ⟨name, rest⟩
    · rw [Reader.whole, StateT.run, found] at named
      cases named
    · rcases Reader.eq_of_name found with rfl
      rcases rest with _ | ⟨second, others⟩
      · exact ⟨name, read⟩
      · rw [Reader.whole, StateT.run, found] at named
        cases named
  · cases named


/-- A name without a slash has no colon, since it has no comment either. -/
theorem colon_not_mem_of_isName {text : List Char} (named : isName text = true)
    (plain : '/' ∉ text) : ':' ∉ text := by
  rcases exists_word_of_isName named with ⟨name, read⟩
  have plainRest : '/' ∉ withoutByteOrderMark text := by
    rw [withoutByteOrderMark.eq_def]
    split
    · exact fun member => plain (List.mem_cons_of_mem _ member)
    · exact plain
  rcases Option.bind_eq_some_iff.1 read with ⟨lexemes, cut, matched⟩
  rcases Lexeme.lexemes_eq_of_treesOf matched (by simp) with ⟨leaves, rfl, single⟩
  rw [List.reverse_nil, List.nil_append] at single
  have colonless : ':' ∉ withoutByteOrderMark text := by
    apply Lexeme.colon_not_mem_of_ofTextWithin cut _ plainRest
    intro lexeme member
    rw [← single, List.map_singleton, List.mem_singleton] at member
    exact ⟨name, member⟩
  rw [withoutByteOrderMark.eq_def] at colonless
  split at colonless
  · rw [List.mem_cons, not_or]
    exact ⟨by decide, colonless⟩
  · exact colonless

end Registrar.Source
