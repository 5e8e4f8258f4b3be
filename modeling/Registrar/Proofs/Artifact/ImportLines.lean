import Mathlib.Data.List.DropRight
import Registrar.Proofs.Artifact.Lines
import Registrar.Proofs.Header
import Registrar.Proofs.Source.Words
import Registrar.Proofs.Text.Bytes
import Registrar.Proofs.Text.Occurrence

/-!
# The imports of an artifact read back

The lines by which an artifact imports declarations are read here without regard to how they were
written. They stand behind the imports from the standard library, up to the next blank line, and
are read as modules with the names that are taken from each. Names are read as long as they are made
like identifiers, which hold none of the marks between them.
-/

namespace Registrar

/-- Whether a text is made like an identifier. -/
def IsIdentifier (name : String) : Prop := name ≠ "" ∧ Source.IsWordText name

/-- Whether a module is given by identifiers that are joined. -/
def IsModuleName (module : String) : Prop :=
  ∃ segments, (∀ segment ∈ segments, IsIdentifier segment) ∧ module = "::".intercalate segments

namespace ImportLine

/-- What a text holds between the given start and the given end. -/
def between? (start finish text : List Char) : Option (List Char) :=
  (text.dropPrefix? start).bind fun rest => rest.dropSuffix? finish

/-- The parts of a text between commas, each of which is followed by a blank. -/
def splitNames : List Char → List (List Char)
  | [] => [[]]
  | ',' :: ' ' :: rest => [] :: splitNames rest
  | character :: rest =>
    match splitNames rest with
    | [] => [[character]]
    | name :: others => (character :: name) :: others

/-- The module that a line imports from, with the names that it takes from it. What stands behind
the last colons is one name, or several between braces. -/
def read? (line : List Char) : Option (String × List String) := do
  let path ← between? "use ".toList ";".toList line
  let module ← (path.rdropWhile (· ≠ ':')).dropSuffix? "::".toList
  let item := path.rtakeWhile (· ≠ ':')
  let names := match between? ['\x7b'] ['\x7d'] item with
    | some names => splitNames names
    | none => [item]
  return (String.ofList module, names.map String.ofList)

/-- The lines behind the last import from the standard library and a blank line, up to the next
blank line. -/
def linesOf (source : List Char) : List (List Char) :=
  (((Text.lines source).dropWhile (· ≠ "use std::sync::LazyLock;".toList)).drop 2).takeWhile
    (· ≠ [])

theorem between?_append (start text finish : List Char) :
    between? start finish (start ++ (text ++ finish)) = some text := by
  rw [between?, Text.dropPrefix?_append, Option.bind_some, Text.dropSuffix?_append]

theorem splitNames_append {name : List Char} (plain : ',' ∉ name) (rest : List Char) :
    splitNames (name ++ ',' :: ' ' :: rest) = name :: splitNames rest := by
  induction name with
  | nil => rfl
  | cons character others ih =>
    rw [List.mem_cons, not_or] at plain
    rw [List.cons_append, splitNames, ih plain.2]
    intro _ same
    exact absurd same.symm plain.1

theorem splitNames_of_not_mem {name : List Char} (plain : ',' ∉ name) :
    splitNames name = [name] := by
  induction name with
  | nil => rfl
  | cons character others ih =>
    rw [List.mem_cons, not_or] at plain
    rw [splitNames, ih plain.2]
    intro _ same
    exact absurd same.symm plain.1

/-- Names without commas are the parts of the list that they are joined to. -/
theorem splitNames_intercalate {names : List String} (nonempty : names ≠ [])
    (plain : ∀ name ∈ names, ',' ∉ name.toList) :
    splitNames (", ".intercalate names).toList = names.map String.toList := by
  rw [String.toList_intercalate]
  induction names with
  | nil => exact absurd rfl nonempty
  | cons name others ih =>
    have plainName := plain name List.mem_cons_self
    cases others with
    | nil =>
      rw [List.map_singleton, List.intercalate_singleton]
      exact splitNames_of_not_mem plainName
    | cons next others =>
      have later := ih (List.cons_ne_nil _ _) fun name member =>
        plain name (List.mem_cons_of_mem _ member)
      rw [List.map_cons, List.map_cons, List.intercalate_cons_cons, ← List.map_cons,
        List.append_assoc]
      exact (splitNames_append plainName _).trans (congrArg _ later)

/-- What stands behind the last colons of a line is told apart from the module before them. -/
theorem read?_item (module : String) {item : List Char} (plain : ':' ∉ item) :
    read? ("use ".toList ++ ((module.toList ++ "::".toList ++ item) ++ ";".toList)) =
      some (module, (match between? ['\x7b'] ['\x7d'] item with
        | some names => splitNames names
        | none => [item]).map String.ofList) := by
  have passes : ∀ character ∈ item.reverse, decide (character ≠ ':') = true := by
    intro character member
    exact decide_eq_true fun same => plain (same ▸ List.mem_reverse.1 member)
  have reversed : (module.toList ++ "::".toList ++ item).reverse =
      item.reverse ++ (':' :: ':' :: module.toList.reverse) := by
    simp
  have before : (module.toList ++ "::".toList ++ item).rdropWhile (· ≠ ':') =
      module.toList ++ "::".toList := by
    rw [List.rdropWhile, reversed, List.dropWhile_append_of_pos passes]
    simp
  have behind : (module.toList ++ "::".toList ++ item).rtakeWhile (· ≠ ':') = item := by
    rw [List.rtakeWhile, reversed, List.takeWhile_append_of_pos passes]
    simp
  rw [read?, between?_append]
  simp only [Option.bind_eq_bind, Option.bind_some, before, behind, Text.dropSuffix?_append,
    String.ofList_toList]
  rfl

end ImportLine

/-- What is in joined texts is between them or in one of them. -/
theorem mem_toList_intercalate {separator : String} {texts : List String} {character : Char}
    (member : character ∈ (separator.intercalate texts).toList) :
    character ∈ separator.toList ∨ ∃ text ∈ texts, character ∈ text.toList := by
  rw [String.toList_intercalate] at member
  rcases Text.mem_intercalate member with inSeparator | ⟨_, isText, inText⟩
  · exact Or.inl inSeparator
  · rcases List.mem_map.1 isText with ⟨text, isOne, rfl⟩
    exact Or.inr ⟨text, isOne, inText⟩

section Identifier

variable {name : String} (identifier : IsIdentifier name)

include identifier

/-- None of the marks between names is in a name. -/
theorem IsIdentifier.mark_not_mem {mark : Char}
    (isMark : mark ∈ [':', ',', '\x7b', '/', '\n', '\r']) : mark ∉ name.toList := by
  have marks : ∀ mark ∈ [':', ',', '\x7b', '/', '\n', '\r'],
      Text.isIdentifierContinue mark = false ∧ mark ≠ '#' :=
    ArtifactSource.forall_mem_of_all (by decide)
  intro member
  rcases identifier.2 mark member with continues | isHash
  · rw [(marks mark isMark).1] at continues
    cases continues
  · exact (marks mark isMark).2 isHash

end Identifier

theorem IsModuleName.mark_not_mem {module : String} (isModule : IsModuleName module) {mark : Char}
    (isMark : mark ∈ ['/', '\n', '\r']) : mark ∉ module.toList := by
  have marks : ∀ mark ∈ ['/', '\n', '\r'],
      mark ∉ "::".toList ∧ mark ∈ [':', ',', '\x7b', '/', '\n', '\r'] :=
    ArtifactSource.forall_mem_of_all (by decide)
  rcases isModule with ⟨segments, identifiers, rfl⟩
  intro member
  rcases mem_toList_intercalate member with inSeparator | ⟨segment, isSegment, inSegment⟩
  · exact (marks mark isMark).1 inSeparator
  · exact (identifiers segment isSegment).mark_not_mem (marks mark isMark).2 inSegment

namespace ImportLine

/-- A line that is written for identifiers is read as these. -/
theorem read?_importLine {module : String} {names : List String} (nonempty : names ≠ [])
    (identifiers : ∀ name ∈ names, IsIdentifier name) :
    read? (importLine module names).toList = some (module, names) := by
  rw [importLine.eq_def]
  split
  · rename_i name
    have identifier := identifiers name (List.mem_singleton.2 rfl)
    have written : ("use " ++ module ++ "::" ++ name ++ ";").toList =
        "use ".toList ++ ((module.toList ++ "::".toList ++ name.toList) ++ ";".toList) := by
      simp only [String.toList_append, List.append_assoc]
    have single : between? ['\x7b'] ['\x7d'] name.toList = none := by
      rw [between?, Option.bind_eq_none_iff]
      intro rest opened
      rcases List.dropPrefix?_eq_some_iff.1 opened with ⟨brace, whole, isBrace⟩
      rw [eq_of_beq isBrace] at whole
      have noBrace : '\x7b' ∉ name.toList := identifier.mark_not_mem (by decide)
      exact absurd (whole ▸ List.mem_cons_self) noBrace
    rw [written, read?_item module (identifier.mark_not_mem (by decide)), single]
    simp
  · rename_i several
    have written : ("use " ++ module ++ "::\x7b" ++ ", ".intercalate names ++ "\x7d;").toList =
        "use ".toList ++ ((module.toList ++ "::".toList ++
          (['\x7b'] ++ ((", ".intercalate names).toList ++ ['\x7d']))) ++ ";".toList) := by
      simp only [String.toList_append, List.append_assoc]
      rfl
    have plain : ':' ∉ ['\x7b'] ++ ((", ".intercalate names).toList ++ ['\x7d']) := by
      rw [List.mem_append, List.mem_append]
      rintro (isBrace | inNames | isBrace)
      · exact absurd isBrace (by decide)
      · rcases mem_toList_intercalate inNames with inSeparator | ⟨name, member, inName⟩
        · exact absurd inSeparator (by decide)
        · exact (identifiers name member).mark_not_mem (by decide) inName
      · exact absurd isBrace (by decide)
    have commas : ∀ name ∈ names, ',' ∉ name.toList := fun name member =>
      (identifiers name member).mark_not_mem (by decide)
    rw [written, read?_item module plain, between?_append]
    dsimp only
    rw [splitNames_intercalate nonempty commas]
    simp

theorem mark_not_mem_importLine {module : String} {names : List String}
    (isModule : IsModuleName module) (identifiers : ∀ name ∈ names, IsIdentifier name)
    {mark : Char} (isMark : mark ∈ ['/', '\n', '\r']) :
    mark ∉ (importLine module names).toList := by
  have literals : ∀ literal ∈ ["use ", "::", ";", "::\x7b", "\x7d;", ", "],
      ∀ mark ∈ ['/', '\n', '\r'], mark ∉ literal.toList := by
    have checked : ∀ literal ∈ ["use ", "::", ";", "::\x7b", "\x7d;", ", "],
        ['/', '\n', '\r'].all (fun mark => decide (mark ∉ literal.toList)) = true := by
      decide
    exact fun literal isLiteral => ArtifactSource.forall_mem_of_all (checked literal isLiteral)
  have marks : ∀ mark ∈ ['/', '\n', '\r'], mark ∈ [':', ',', '\x7b', '/', '\n', '\r'] :=
    ArtifactSource.forall_mem_of_all (by decide)
  have inName : ∀ name ∈ names, mark ∉ name.toList := fun name member =>
    (identifiers name member).mark_not_mem (marks mark isMark)
  rw [importLine.eq_def]
  split
  · simp only [String.toList_append, List.mem_append, not_or]
    exact ⟨⟨⟨⟨literals _ (by decide) _ isMark, isModule.mark_not_mem isMark⟩,
      literals _ (by decide) _ isMark⟩, inName _ (List.mem_singleton.2 rfl)⟩,
      literals _ (by decide) _ isMark⟩
  · simp only [String.toList_append, List.mem_append, not_or]
    refine ⟨⟨⟨⟨literals _ (by decide) _ isMark, isModule.mark_not_mem isMark⟩,
      literals _ (by decide) _ isMark⟩, ?_⟩, literals _ (by decide) _ isMark⟩
    intro member
    rcases mem_toList_intercalate member with inSeparator | ⟨name, isName, inside⟩
    · exact literals _ (by decide) _ isMark inSeparator
    · exact inName name isName inside

end ImportLine

namespace ArtifactSource

theorem lines_block_append {lines : List String}
    (plain : ∀ line ∈ lines, ∀ character ∈ line.toList, character ≠ '\n' ∧ character ≠ '\r')
    (rest : List Char) :
    Text.lines (block lines ++ rest) = lines.map String.toList ++ Text.lines rest := by
  induction lines with
  | nil => rfl
  | cons line others ih =>
    have later := ih fun line member => plain line (List.mem_cons_of_mem _ member)
    rw [block_cons, List.append_assoc, List.cons_append,
      Text.lines_append_lineFeed _ (plain line List.mem_cons_self), later]
    rfl

theorem forall_mem_toList_of_all {property : Char → Prop} [DecidablePred property]
    {texts : List String} (holds : ∀ text ∈ texts,
      text.toList.all (fun character => decide (property character)) = true) :
    ∀ text ∈ texts, ∀ character ∈ text.toList, property character :=
  fun text isText => forall_mem_of_all (holds text isText)

theorem block_append (lines others : List String) :
    block (lines ++ others) = block lines ++ block others :=
  List.flatMap_append

/-- The imports from the standard library, behind a blank line. -/
def standardLines : List String :=
  ["", "use std::any::Any;", "use std::collections::HashMap;", "use std::sync::LazyLock;"]

/-- The imports stand between blank lines, behind those from the standard library. -/
theorem importSection_eq_block (aggregation : Aggregation) : importSection aggregation =
    block (standardLines ++ "" :: (importLines aggregation ++ [""])) := by
  have ends : ['\n', '\n'] = ['\n'] ++ block [""] := rfl
  rw [importSection, ends, ← List.append_assoc, List.append_assoc (block _),
    flatMap_lines_append, block_append, block_cons "" (_ ++ _), block_append, List.append_assoc]
  rfl

/-- The line that counts is one line, and a comment. -/
theorem exists_countLine (candidates : List Candidate) :
    ∃ line, countLine candidates = line ++ ['\n'] ∧ line.head? = some '/' ∧
      ∀ character ∈ line, character ≠ '\n' ∧ character ≠ '\r' := by
  have digits : ∀ value : Nat, ∀ character ∈ Nat.toDigits 10 value,
      character ≠ '\n' ∧ character ≠ '\r' := by
    intro value character member
    have digit := Nat.isDigit_of_mem_toDigits (by decide) (by decide) member
    constructor
    · rintro rfl
      cases digit
    · rintro rfl
      cases digit
  have literals : ∀ literal ∈ ["// Source: ", " encodable declaration(s) from ", " module(s)"],
      ∀ character ∈ literal.toList, character ≠ '\n' ∧ character ≠ '\r' :=
    forall_mem_toList_of_all (by decide)
  have finish : " module(s)\n".toList = " module(s)".toList ++ ['\n'] := by decide
  refine ⟨"// Source: ".toList ++ Nat.toDigits 10 candidates.length ++
    " encodable declaration(s) from ".toList ++
    Nat.toDigits 10 (sortedDistinct (candidates.map Candidate.module)).length ++
    " module(s)".toList, ?_, rfl, ?_⟩
  · have written : countLine candidates = "// Source: ".toList ++
        Nat.toDigits 10 candidates.length ++ " encodable declaration(s) from ".toList ++
        Nat.toDigits 10 (sortedDistinct (candidates.map Candidate.module)).length ++
        " module(s)\n".toList := rfl
    rw [written, finish]
    simp only [List.append_assoc]
  · intro character member
    simp only [List.mem_append] at member
    rcases member with (((start | digit) | middle) | digit) | finish
    · exact literals _ (by decide) _ start
    · exact digits _ _ digit
    · exact literals _ (by decide) _ middle
    · exact digits _ _ digit
    · exact literals _ (by decide) _ finish

theorem takeWhile_append_nil {lines : List (List Char)} (nonempty : [] ∉ lines)
    (rest : List (List Char)) : (lines ++ [] :: rest).takeWhile (· ≠ []) = lines := by
  have passes : ∀ line ∈ lines, decide (line ≠ []) = true := by
    intro line member
    exact decide_eq_true fun same => nonempty (same ▸ member)
  rw [List.takeWhile_append_of_pos passes]
  simp

theorem dropWhile_append_lazyLock {lines : List (List Char)}
    (others : "use std::sync::LazyLock;".toList ∉ lines) (rest : List (List Char)) :
    (lines ++ "use std::sync::LazyLock;".toList :: rest).dropWhile
      (· ≠ "use std::sync::LazyLock;".toList) = "use std::sync::LazyLock;".toList :: rest := by
  have passes : ∀ line ∈ lines, decide (line ≠ "use std::sync::LazyLock;".toList) = true := by
    intro line member
    exact decide_eq_true fun same => others (same ▸ member)
  rw [List.dropWhile_append_of_pos passes]
  exact List.dropWhile_cons_of_neg (by simp)

/-- The lines that are read as imports are those that are written for what is needed. -/
theorem linesOf_text (settings : ArtifactSettings) {aggregation : Aggregation} (instant : Instant)
    (plain : ∀ line ∈ importLines aggregation, ∀ character ∈ line.toList,
      character ≠ '\n' ∧ character ≠ '\r') (nonempty : "" ∉ importLines aggregation) :
    ImportLine.linesOf (text settings aggregation instant) =
      (importLines aggregation).map String.toList := by
  rcases exists_countLine (Candidate.sorted aggregation.candidates) with
    ⟨count, counted, isComment, countPlain⟩
  have linesPlain : ∀ line ∈ standardLines ++ "" :: (importLines aggregation ++ [""]),
      ∀ character ∈ line.toList, character ≠ '\n' ∧ character ≠ '\r' := by
    have standardPlain : ∀ line ∈ standardLines, ∀ character ∈ line.toList,
        character ≠ '\n' ∧ character ≠ '\r' :=
      forall_mem_toList_of_all (by decide)
    intro line member
    rw [List.mem_append, List.mem_cons, List.mem_append, List.mem_singleton] at member
    rcases member with standard | rfl | written | rfl
    · exact standardPlain line standard
    · simp
    · exact plain line written
    · simp
  obtain ⟨behind, split⟩ : ∃ behind, text settings aggregation instant =
      markerLine ++ (stampLine instant ++ (count ++ '\n' ::
        (block (standardLines ++ "" :: (importLines aggregation ++ [""])) ++ behind))) := by
    refine ⟨mapSection settings ++ (codecSection settings aggregation ++
      (factorySection settings (Candidate.sorted aggregation.candidates) ++
        (instanceSection settings ++ (fallbackSection aggregation.serializer passThroughEncoder ++
          fallbackSection aggregation.deserializer passThroughDecoder)))), ?_⟩
    rw [← importSection_eq_block, text, body, counted]
    simp only [List.append_assoc, List.singleton_append]
    rfl
  -- The three lines above the imports are comments, so none of them is an import.
  have above : "use std::sync::LazyLock;".toList ∉ [markerText, Header.stampStart ++ instant.stamp,
      count, [], "use std::any::Any;".toList, "use std::collections::HashMap;".toList] := by
    have notComment : ∀ line : List Char, line.head? = some '/' →
        "use std::sync::LazyLock;".toList ≠ line := by
      rintro _ isComment rfl
      exact absurd isComment (by decide)
    simp only [List.mem_cons, List.not_mem_nil, or_false, not_or]
    exact ⟨notComment _ rfl, notComment _ rfl, notComment _ isComment, by decide, by decide,
      by decide⟩
  have written : [] ∉ (importLines aggregation).map String.toList := by
    intro member
    rcases List.mem_map.1 member with ⟨line, isLine, empty⟩
    exact nonempty (String.toList_eq_nil_iff.1 empty ▸ isLine)
  have lines : Text.lines (text settings aggregation instant) =
      [markerText, Header.stampStart ++ instant.stamp, count, [], "use std::any::Any;".toList,
        "use std::collections::HashMap;".toList] ++ "use std::sync::LazyLock;".toList ::
          [] :: ((importLines aggregation).map String.toList ++ [] :: Text.lines behind) := by
    rw [split, lines_markerLine_append, lines_stampLine_append,
      Text.lines_append_lineFeed _ countPlain, lines_block_append linesPlain]
    simp [standardLines]
  rw [ImportLine.linesOf, lines, dropWhile_append_lazyLock above]
  exact takeWhile_append_nil written _

end ArtifactSource

/-- Whether imports take what is needed, and nothing else. Modules, and the names of each, stand in
the order of their bytes. -/
structure ImportLine.Take (imports : List (String × List String))
    (needed : DeclarationId → Prop) : Prop where
  modules : (imports.map Prod.fst).Pairwise fun left right => Text.bytes left < Text.bytes right
  nonempty : ∀ line ∈ imports, line.2 ≠ []
  names : ∀ line ∈ imports,
    line.2.Pairwise fun left right => Text.bytes left < Text.bytes right
  once : (importedDeclarations imports).Nodup
  exactly : ∀ id, id ∈ importedDeclarations imports ↔ needed id

variable {ids : List DeclarationId}

theorem exists_of_mem_importsByModule {line : String × List String}
    (member : line ∈ importsByModule ids) :
    (∃ id ∈ ids, id.module = line.1) ∧ (∀ name ∈ line.2, ∃ id ∈ ids, id.name = name) ∧
      line.2 ≠ [] := by
  rcases List.mem_map.1 member with ⟨module, isModule, rfl⟩
  rcases List.mem_map.1 (mem_sortedDistinct.1 isModule) with ⟨id, inIds, sameModule⟩
  refine ⟨⟨id, inIds, sameModule⟩, ?_, ?_⟩
  · intro name isName
    rcases List.mem_map.1 (mem_sortedDistinct.1 isName) with ⟨other, isOther, sameName⟩
    exact ⟨other, (List.mem_filter.1 isOther).1, sameName⟩
  · apply List.ne_nil_of_mem (a := id.name)
    apply mem_sortedDistinct.2
    apply List.mem_map_of_mem
    simp [inIds, sameModule]

theorem take_importsByModule (ids : List DeclarationId) :
    ImportLine.Take (importsByModule ids) (· ∈ ids) := by
  have byBytes : ∀ texts : List String,
      (sortedDistinct texts).Pairwise fun left right => Text.bytes left < Text.bytes right :=
    fun texts => (pairwise_sortedDistinct texts).imp Text.bytes_lt_bytes
  constructor
  · rw [importsByModule, List.map_map]
    simpa [Function.comp_def] using byBytes _
  · exact fun line member => (exists_of_mem_importsByModule member).2.2
  · intro line member
    rcases List.mem_map.1 member with ⟨module, _, rfl⟩
    exact byBytes _
  · exact nodup_importedDeclarations ids
  · exact fun id => mem_importedDeclarations

section Named

variable (named : ∀ id ∈ ids, IsIdentifier id.name ∧ IsModuleName id.module)

include named

theorem identifiers_of_mem_importsByModule {line : String × List String}
    (member : line ∈ importsByModule ids) :
    IsModuleName line.1 ∧ (∀ name ∈ line.2, IsIdentifier name) ∧ line.2 ≠ [] := by
  rcases exists_of_mem_importsByModule member with ⟨⟨id, inIds, sameModule⟩, names, nonempty⟩
  refine ⟨sameModule ▸ (named id inIds).2, ?_, nonempty⟩
  intro name isName
  rcases names name isName with ⟨other, isOther, rfl⟩
  exact (named other isOther).1

end Named

namespace ArtifactSource

variable {aggregation : Aggregation}
  (named : ∀ id ∈ aggregation.importedIds, IsIdentifier id.name ∧ IsModuleName id.module)

include named

theorem mark_not_mem_of_mem_importLines {line : String} (member : line ∈ importLines aggregation)
    {mark : Char} (isMark : mark ∈ ['/', '\n', '\r']) : mark ∉ line.toList := by
  rcases List.mem_map.1 member with ⟨⟨module, names⟩, isImport, rfl⟩
  rcases identifiers_of_mem_importsByModule named isImport with ⟨isModule, areNames, _⟩
  exact ImportLine.mark_not_mem_importLine isModule areNames isMark

/-- The imports of a text are read as those that were made for what is needed. -/
theorem map_read?_linesOf_text (settings : ArtifactSettings) (instant : Instant) :
    (ImportLine.linesOf (text settings aggregation instant)).map ImportLine.read? =
      (importsByModule aggregation.importedIds).map some := by
  have plain : ∀ line ∈ importLines aggregation, ∀ character ∈ line.toList,
      character ≠ '\n' ∧ character ≠ '\r' := by
    intro line member character inLine
    constructor
    · rintro rfl
      exact mark_not_mem_of_mem_importLines named member (by decide) inLine
    · rintro rfl
      exact mark_not_mem_of_mem_importLines named member (by decide) inLine
  have reads : ∀ line ∈ importsByModule aggregation.importedIds,
      ImportLine.read? (importLine line.1 line.2).toList = some line := by
    intro line member
    rcases identifiers_of_mem_importsByModule named member with ⟨_, areNames, nonempty⟩
    exact ImportLine.read?_importLine nonempty areNames
  have nonempty : "" ∉ importLines aggregation := by
    intro member
    rcases List.mem_map.1 member with ⟨⟨module, names⟩, isImport, empty⟩
    have read := reads _ isImport
    dsimp only at read empty
    rw [empty] at read
    cases read
  rw [linesOf_text settings instant plain nonempty, importLines, List.map_map, List.map_map]
  exact List.map_congr_left reads

end ArtifactSource

end Registrar
