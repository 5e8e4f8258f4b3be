import Mathlib.Data.List.Basic
import Mathlib.Data.List.TakeWhile
import Registrar.Config.CommandLine
import Registrar.Proofs.Config

/-!
# What a command line gives

The values that arguments give to options can be told argument by argument, without the state in
which a command line is read: an option and its value stand in one argument, or in two that follow
each other. Where a command line is accepted, an option has the values that are given to it, each
cut at commas if the option is a list, or else what its variable gives. No option has anything of
what is given to another.
-/

namespace Registrar

namespace ValueOption

/-- The values of an option that are given by one text. -/
def parts (option : ValueOption) (text : String) : List String :=
  if option.isList then (text.toList.splitOn ',').map String.ofList else [text]

/-- The values of an option that are given by texts, if there is one. -/
def values? (option : ValueOption) (texts : List String) : Option (List String) :=
  if texts.isEmpty then none else some (texts.flatMap option.parts)

theorem values?_concat (option : ValueOption) (texts : List String) (text : String) :
    option.values? (texts ++ [text]) =
      some ((option.values? texts).getD [] ++ option.parts text) := by
  cases texts with
  | nil => simp [values?]
  | cons first others => simp [values?]

theorem mem_all (option : ValueOption) : option ∈ all := by
  cases option <;> decide

theorem nodup_all : all.Nodup := by
  decide

end ValueOption

namespace CommandLine

/-- The option that an argument names with a value behind an equals sign. -/
def assigned? (argument : String) : Option (ValueOption × String) :=
  ValueOption.all.findSome? fun option =>
    (argument.toList.dropPrefix? ("--" ++ option.longName ++ "=").toList).map fun value =>
      (option, String.ofList value)

/-- The option that an argument names without a value. -/
def announced? (argument : String) : Option ValueOption :=
  ValueOption.all.find? fun option => argument = "--" ++ option.longName

/-- The texts that arguments give to options, where one of these may wait for its text. -/
def givenTexts : Option ValueOption → List String → List (ValueOption × String)
  | _, [] => []
  | some option, text :: rest => (option, text) :: givenTexts none rest
  | none, argument :: rest =>
    match assigned? argument with
    | some given => given :: givenTexts none rest
    | none => givenTexts (announced? argument) rest

/-- The texts among those given that are given to an option. -/
def textsFor (option : ValueOption) (given : List (ValueOption × String)) : List String :=
  (given.filter fun one => one.1 = option).map Prod.snd

/-- What a variable of the environment gives to an option. -/
def fromEnvironment? (environment : Environment) (option : ValueOption) : Option (List String) :=
  (option.environmentKey?.bind environment.get?).map option.parts

/-- What the command line gives to an option, or else the environment. -/
def told? (arguments : List String) (environment : Environment) (option : ValueOption) :
    Option (List String) :=
  option.values? (textsFor option (givenTexts none arguments)) <|>
    fromEnvironment? environment option

theorem textsFor_concat (option : ValueOption) (given : List (ValueOption × String))
    (last : ValueOption × String) : textsFor option (given ++ [last]) =
      if last.1 = option then textsFor option given ++ [last.2] else textsFor option given := by
  rw [textsFor, textsFor, List.filter_append, List.map_append]
  split <;> rename_i same <;> simp [same]

section Argument

/-- A text stands before an equals sign where what is before the first one is the text. -/
theorem append_equals_iff {name text value : List Char} (plain : '=' ∉ name) :
    text = name ++ '=' :: value ↔
      text.takeWhile (· ≠ '=') = name ∧ text.dropWhile (· ≠ '=') = '=' :: value := by
  have passes : ∀ character ∈ name, decide (character ≠ '=') = true := by
    intro character member
    exact decide_eq_true fun same => plain (same ▸ member)
  constructor
  · rintro rfl
    rw [List.takeWhile_append_of_pos passes, List.dropWhile_append_of_pos passes]
    simp
  · rintro ⟨before, after⟩
    rw [← List.takeWhile_append_dropWhile (p := fun character => character ≠ '=') (l := text),
      before, after]

/-- A text is what is before its first equals sign where it has none. -/
theorem eq_iff_without_equals {name text : List Char} (plain : '=' ∉ name) :
    text = name ↔ text.takeWhile (· ≠ '=') = name ∧ text.dropWhile (· ≠ '=') = [] := by
  have passes : ∀ character ∈ name, decide (character ≠ '=') = true := by
    intro character member
    exact decide_eq_true fun same => plain (same ▸ member)
  constructor
  · rintro rfl
    exact ⟨List.takeWhile_eq_self_iff.2 passes, List.dropWhile_eq_nil_iff.2 passes⟩
  · rintro ⟨before, after⟩
    rw [← List.takeWhile_append_dropWhile (p := fun character => character ≠ '=') (l := text),
      before, after, List.append_nil]

theorem equals_not_mem_longName (option : ValueOption) : '=' ∉ option.longName.toList := by
  cases option <;> decide

variable {argument : String} {text : List Char} (spelled : argument.toList = '-' :: '-' :: text)

include spelled

theorem dropPrefix?_spelled (option : ValueOption) (value : List Char) :
    argument.toList.dropPrefix? ("--" ++ option.longName ++ "=").toList = some value ↔
      text.takeWhile (· ≠ '=') = option.longName.toList ∧
        text.dropWhile (· ≠ '=') = '=' :: value := by
  rw [← append_equals_iff (equals_not_mem_longName option), List.dropPrefix?_eq_some_iff, spelled]
  simp [String.toList_append]

theorem eq_longName_iff (option : ValueOption) :
    argument = "--" ++ option.longName ↔
      text.takeWhile (· ≠ '=') = option.longName.toList ∧ text.dropWhile (· ≠ '=') = [] := by
  rw [← eq_iff_without_equals (equals_not_mem_longName option), ← String.toList_inj, spelled]
  simp [String.toList_append]

/-- With an equals sign an argument names the option of the name that stands before it. -/
theorem assigned?_of_equals {value : List Char}
    (behind : text.dropWhile (· ≠ '=') = '=' :: value) :
    assigned? argument = (ValueOption.all.find? fun option =>
      option.longName = String.ofList (text.takeWhile (· ≠ '='))).map fun option =>
        (option, String.ofList value) := by
  rw [assigned?, List.find?_eq_findSome?_guard, List.map_findSome?]
  congr 1
  funext option
  by_cases named : option.longName = String.ofList (text.takeWhile (· ≠ '='))
  · have before : text.takeWhile (· ≠ '=') = option.longName.toList := by
      rw [named, String.toList_ofList]
    rw [(dropPrefix?_spelled spelled option value).2 ⟨before, behind⟩]
    simp [named, Option.guard]
  · have other : argument.toList.dropPrefix? ("--" ++ option.longName ++ "=").toList = none := by
      rw [Option.eq_none_iff_forall_ne_some]
      intro given found
      apply named
      rw [((dropPrefix?_spelled spelled option given).1 found).1, String.ofList_toList]
    rw [other]
    simpa [Option.guard] using named

/-- Without an equals sign an argument names the option whose name it is. -/
theorem announced?_of_not_equals (behind : text.dropWhile (· ≠ '=') = []) :
    assigned? argument = none ∧
      announced? argument = ValueOption.all.find? fun option =>
        option.longName = String.ofList (text.takeWhile (· ≠ '=')) := by
  constructor
  · rw [assigned?, List.findSome?_eq_none_iff]
    intro option _
    rw [Option.map_eq_none_iff, Option.eq_none_iff_forall_ne_some]
    intro value found
    have after := ((dropPrefix?_spelled spelled option value).1 found).2
    rw [behind] at after
    cases after
  · rw [announced?]
    congr 1
    funext option
    rw [decide_eq_decide, eq_longName_iff spelled option]
    constructor
    · rintro ⟨before, _⟩
      rw [before, String.ofList_toList]
    · intro named
      exact ⟨by rw [named, String.toList_ofList], behind⟩

end Argument

namespace Draft

variable {draft next : Draft} {option : ValueOption} {given : List (ValueOption × String)}

/-- Whether the values of all options in a draft are those that the given texts come to. -/
def Holds (draft : Draft) (given : List (ValueOption × String)) : Prop :=
  ∀ option, draft.valuesOf? option = option.values? (textsFor option given)

theorem lookup_filter_ne {Value : Type} (values : List (ValueOption × Value))
    (option other : ValueOption) : (values.filter fun one => one.1 ≠ option).lookup other =
      if option = other then none else values.lookup other := by
  induction values with
  | nil => split <;> rfl
  | cons first others ih =>
    rcases first with ⟨named, value⟩
    by_cases same : named = option
    · rw [List.filter_cons_of_neg (by simp [same]), ih, List.lookup_cons]
      by_cases sought : option = other
      · simp [sought]
      · rw [if_neg sought, if_neg sought, beq_false_of_ne (same ▸ Ne.symm sought)]
    · rw [List.filter_cons_of_pos (by simp [same]), List.lookup_cons, List.lookup_cons, ih]
      by_cases sought : option = other
      · rw [if_pos sought, if_pos sought, beq_false_of_ne (sought ▸ Ne.symm same)]
      · rw [if_neg sought, if_neg sought]

/-- A text that is taken in adds to the values of its option and leaves others alone. -/
theorem valuesOf?_take {text : String} (taken : draft.take option text = .ok next)
    (other : ValueOption) : next.valuesOf? other =
      if option = other then some ((draft.valuesOf? option).getD [] ++ option.parts text)
      else draft.valuesOf? other := by
  have replaced : ∀ values : List (ValueOption × List String), ∀ value,
      (values ++ [(option, value)]).lookup other =
        (values.lookup other).or (if option = other then some value else none) := by
    intro values value
    rw [List.lookup_append, List.lookup_cons, List.lookup_nil]
    by_cases same : option = other
    · simp [same]
    · rw [if_neg same, beq_false_of_ne (Ne.symm same)]
  rw [take] at taken
  rw [ValueOption.parts]
  cases list : option.isList with
  | true =>
    rw [list, if_pos rfl] at taken
    cases taken
    simp only [valuesOf?, replaced, lookup_filter_ne]
    split <;> simp
  | false =>
    rw [list, if_neg Bool.false_ne_true] at taken
    split at taken
    · cases taken
    · rename_i absent
      split at taken
      · cases taken
      · cases taken
        rw [Bool.not_eq_true, Option.isSome_eq_false_iff, Option.isNone_iff_eq_none] at absent
        rw [absent]
        simp only [valuesOf?, replaced]
        by_cases same : option = other
        · rw [valuesOf?] at absent
          rw [if_pos same, if_pos same, ← same, absent]
          rfl
        · simp [same]

theorem pending_take {text : String} (taken : draft.take option text = .ok next) :
    next.pending = none := by
  rw [take] at taken
  split at taken
  · cases taken
    rfl
  · split at taken
    · cases taken
    · split at taken
      · cases taken
      · cases taken
        rfl

theorem Holds.take {text : String} (holds : draft.Holds given)
    (taken : draft.take option text = .ok next) : next.Holds (given ++ [(option, text)]) := by
  intro other
  rw [valuesOf?_take taken, textsFor_concat]
  by_cases same : option = other
  · rw [if_pos same, if_pos same, ← same, holds option, ValueOption.values?_concat]
  · rw [if_neg same, if_neg same, holds other]

/-- Whether a draft has the given texts, of which it may not have looked at the last one, and
which option waits for its text. -/
inductive HasRead (draft : Draft) : Option ValueOption → List (ValueOption × String) → Prop
  | settled (given : List (ValueOption × String)) (pending : draft.pending = none)
      (holds : draft.Holds given) : HasRead draft none given
  | waiting (given : List (ValueOption × String)) (option : ValueOption)
      (pending : draft.pending = some (option, none)) (holds : draft.Holds given) :
      HasRead draft (some option) given
  | unseen (given : List (ValueOption × String)) (option : ValueOption) (text : String)
      (pending : draft.pending = some (option, some text)) (holds : draft.Holds given) :
      HasRead draft none (given ++ [(option, text)])

theorem hasRead_empty : empty.HasRead none [] :=
  .settled [] rfl fun _ => rfl

namespace HasRead

variable {waiting : Option ValueOption} (read : draft.HasRead waiting given)

include read

/-- A draft is settled only if no option waits, and has all texts then. -/
theorem settle (settled : draft.settle = .ok next) :
    waiting = none ∧ next.pending = none ∧ next.Holds given := by
  cases read with
  | settled given pending holds =>
    rw [Draft.settle, pending] at settled
    cases settled
    exact ⟨rfl, pending, holds⟩
  | waiting given option pending holds =>
    rw [Draft.settle, pending] at settled
    cases settled
  | unseen given option text pending holds =>
    rw [Draft.settle, pending] at settled
    exact ⟨rfl, pending_take settled, holds.take settled⟩

/-- An argument that is no option is the text of the option that waits. -/
theorem readValue {argument : String} (readNext : draft.readValue argument = .ok next) :
    ∃ option, waiting = some option ∧ next.HasRead none (given ++ [(option, argument)]) := by
  rw [Draft.readValue] at readNext
  cases read with
  | settled given pending holds =>
    rw [pending] at readNext
    cases readNext
  | waiting given option pending holds =>
    rw [pending] at readNext
    cases readNext
    exact ⟨option, rfl, .unseen given option argument rfl holds⟩
  | unseen given option text pending holds =>
    rw [pending] at readNext
    cases readNext

/-- An option that takes no value leaves what is given as it is. -/
theorem raise {flag : Flag} (raised : draft.raise flag = .ok next) :
    waiting = none ∧ next.HasRead none given := by
  rcases Config.bind_eq_ok.1 raised with ⟨middle, settled, raised⟩
  rcases read.settle settled with ⟨noneWaits, pending, holds⟩
  split at raised
  · cases raised
  · cases raised
    exact ⟨noneWaits, .settled given pending holds⟩

/-- An argument that names an option gives it the text behind its equals sign, or lets it wait. -/
theorem readLong {argument : String} {text : List Char} {value : Option String}
    (spelled : argument.toList = '-' :: '-' :: text)
    (behind : text.dropWhile (· ≠ '=') = (value.map fun value => '=' :: value.toList).getD [])
    (readNext : draft.readLong (String.ofList (text.takeWhile (· ≠ '='))) value = .ok next) :
    waiting = none ∧ ((∃ one, assigned? argument = some one ∧ next.HasRead none (given ++ [one])) ∨
      assigned? argument = none ∧ next.HasRead (announced? argument) given) := by
  rw [Draft.readLong] at readNext
  split at readNext
  · rename_i option named
    rcases Config.bind_eq_ok.1 readNext with ⟨middle, settled, readNext⟩
    rcases read.settle settled with ⟨noneWaits, pending, holds⟩
    cases value with
    | some value =>
      refine ⟨noneWaits, Or.inl ⟨(option, value), ?_, .settled _ (pending_take readNext)
        (holds.take readNext)⟩⟩
      rw [assigned?_of_equals spelled behind, named, String.ofList_toList]
      rfl
    | none =>
      cases readNext
      rcases announced?_of_not_equals spelled behind with ⟨unassigned, announced⟩
      refine ⟨noneWaits, Or.inr ⟨unassigned, ?_⟩⟩
      rw [announced, named]
      exact .waiting given option rfl holds
  · rename_i unnamed
    cases value with
    | some value =>
      split at readNext
      · cases readNext
      · split at readNext <;> cases readNext
    | none =>
      rcases announced?_of_not_equals spelled behind with ⟨unassigned, announced⟩
      split at readNext
      · rcases read.raise readNext with ⟨noneWaits, after⟩
        refine ⟨noneWaits, Or.inr ⟨unassigned, ?_⟩⟩
        rwa [announced, unnamed]
      · split at readNext
        · rcases Config.bind_eq_ok.1 readNext with ⟨_, _, stopped⟩
          cases stopped
        · cases readNext

end HasRead

/-- Letters behind a single hyphen start no run. -/
theorem readShort_ne_ok (draft next : Draft) (letter : Char) :
    draft.readShort letter ≠ .ok next := by
  intro readNext
  rw [readShort] at readNext
  split at readNext
  · rcases Config.bind_eq_ok.1 readNext with ⟨_, _, stopped⟩
    cases stopped
  · split at readNext
    · rcases Config.bind_eq_ok.1 readNext with ⟨_, _, stopped⟩
      cases stopped
    · cases readNext

/-- After all arguments a draft holds what they give. -/
theorem HasRead.readAll {waiting : Option ValueOption} (read : draft.HasRead waiting given)
    {arguments : List String} (readAll : draft.readAll arguments = .ok next) :
    next.Holds (given ++ givenTexts waiting arguments) := by
  induction arguments generalizing draft waiting given with
  | nil =>
    rw [givenTexts, List.append_nil]
    rw [Draft.readAll] at readAll
    exact (read.settle readAll).2.2
  | cons argument rest ih =>
    rw [Draft.readAll.eq_def] at readAll
    dsimp only at readAll
    split at readAll
    · rename_i spelled
      split at readAll
      · rename_i last
        rcases read.settle readAll with ⟨rfl, _, holds⟩
        rcases announced?_of_not_equals spelled rfl with ⟨unassigned, _⟩
        rw [List.isEmpty_iff.1 last, givenTexts, unassigned]
        simpa [givenTexts] using holds
      · cases readAll
    · rename_i text _ spelled
      rcases Config.bind_eq_ok.1 readAll with ⟨middle, readNext, readAll⟩
      have parted : ∃ value : Option String,
          draft.readLong (String.ofList (text.takeWhile (· ≠ '='))) value = .ok middle ∧
            text.dropWhile (· ≠ '=') = (value.map fun value => '=' :: value.toList).getD [] := by
        rcases after : text.dropWhile (· ≠ '=') with _ | ⟨first, value⟩
        · rw [after] at readNext
          exact ⟨none, readNext, rfl⟩
        · rw [after] at readNext
          refine ⟨some (String.ofList value), readNext, ?_⟩
          have stops := List.head_dropWhile_not (fun character => decide (character ≠ '='))
            (by rw [after]; exact List.cons_ne_nil _ _)
          simp only [after, List.head_cons, decide_eq_false_iff_not, not_not] at stops
          rw [stops, Option.map_some, Option.getD_some, String.toList_ofList]
      rcases parted with ⟨value, readNext, behind⟩
      rcases read.readLong spelled behind readNext with
        ⟨rfl, ⟨one, assigned, after⟩ | ⟨unassigned, after⟩⟩
      · rw [givenTexts, assigned]
        simpa using ih after readAll
      · rw [givenTexts, unassigned]
        exact ih after readAll
    · rcases Config.bind_eq_ok.1 readAll with ⟨middle, readNext, _⟩
      exact absurd readNext (readShort_ne_ok draft middle _)
    · rcases Config.bind_eq_ok.1 readAll with ⟨middle, readNext, readAll⟩
      rcases read.readValue readNext with ⟨option, rfl, after⟩
      rw [givenTexts, ← List.singleton_append, ← List.append_assoc]
      exact ih after readAll

/-- Takes in an option that the environment gives and the command line does not. -/
def fill (environment : Environment) (draft : Draft) (option : ValueOption) :
    Except UsageStop Draft :=
  match option.environmentKey?.bind environment.get? with
  | some value => if (draft.valuesOf? option).isSome then .ok draft else draft.take option value
  | none => .ok draft

variable {environment : Environment}

theorem valuesOf?_fill (filled : draft.fill environment option = .ok next) (other : ValueOption) :
    next.valuesOf? other = if option = other then
      draft.valuesOf? option <|> fromEnvironment? environment option
      else draft.valuesOf? other := by
  rw [fill] at filled
  rcases set : option.environmentKey?.bind environment.get? with _ | text
  · rw [set] at filled
    cases filled
    rw [fromEnvironment?, set]
    by_cases same : option = other <;> simp [same]
  · rw [set] at filled
    rw [fromEnvironment?, set]
    dsimp only at filled
    split at filled
    · rename_i given
      cases filled
      rcases Option.isSome_iff_exists.1 given with ⟨values, given⟩
      by_cases same : option = other
      · simp [← same, given]
      · simp [same]
    · rename_i absent
      rw [Bool.not_eq_true, Option.isSome_eq_false_iff, Option.isNone_iff_eq_none] at absent
      rw [valuesOf?_take filled, absent]
      rfl

/-- Each option is taken from the environment at most once. -/
theorem valuesOf?_foldlM_fill {options : List ValueOption} (distinct : options.Nodup)
    (read : options.foldlM (fill environment) draft = .ok next) (other : ValueOption) :
    next.valuesOf? other = if other ∈ options then
      draft.valuesOf? other <|> fromEnvironment? environment other
      else draft.valuesOf? other := by
  induction options generalizing draft with
  | nil =>
    cases read
    rfl
  | cons option options ih =>
    rw [List.nodup_cons] at distinct
    rcases Config.bind_eq_ok.1 read with ⟨middle, filled, read⟩
    rw [ih distinct.2 read, valuesOf?_fill filled]
    by_cases same : option = other
    · rw [if_neg (same ▸ distinct.1), if_pos same, if_pos (same ▸ List.mem_cons_self), same]
    · simp [same, Ne.symm same]

theorem valuesOf?_readEnvironment (read : draft.readEnvironment environment = .ok next)
    (option : ValueOption) : next.valuesOf? option =
      (draft.valuesOf? option <|> fromEnvironment? environment option) := by
  have filled : ValueOption.all.foldlM (fill environment) draft = .ok next := read
  rw [valuesOf?_foldlM_fill ValueOption.nodup_all filled, if_pos option.mem_all]

end Draft

/-- Each option of an accepted command line has the values that are told of it. -/
theorem exists_draft_of_parse {arguments : List String} {environment : Environment}
    {options : CommandOptions} (parsed : parse arguments environment = .ok options) :
    ∃ draft : Draft, options = draft.options ∧
      ∀ option, draft.valuesOf? option = told? arguments environment option := by
  rcases Config.bind_eq_ok.1 parsed with ⟨given, readAll, parsed⟩
  rcases Config.bind_eq_ok.1 parsed with ⟨draft, readEnvironment, parsed⟩
  split at parsed
  · cases parsed
  · cases parsed
    refine ⟨draft, rfl, fun option => ?_⟩
    rw [Draft.valuesOf?_readEnvironment readEnvironment, Draft.hasRead_empty.readAll readAll,
      List.nil_append, told?]

end CommandLine

end Registrar
