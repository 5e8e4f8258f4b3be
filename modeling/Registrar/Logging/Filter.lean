import Registrar.Event
import Registrar.Text.Blank
import Registrar.Text.UpperSnake

/-!
# Log filters

A filter is a list of directives with commas between them. A directive grants a verbosity to the
events of an origin, to those within a span, or to all. Of the directives that do not ask for a
span the one with the longest origin counts. A filter whose text cannot be read gives way to the
default one.
-/

namespace Registrar

/-- The number of levels that are shown, from none to all five. -/
abbrev Verbosity := Nat

/-- How verbose a log has to be to show events of a level. -/
def EventLevel.verbosity : EventLevel → Verbosity
  | error => 1
  | warning => 2
  | info => 3
  | debug => 4

namespace Verbosity

/-- The verbosity that shows every event. -/
def everything : Verbosity := 5

/-- The verbosity that a number tells. A plus sign may stand in front of it. -/
def ofNumber? (text : List Char) : Option Verbosity :=
  let digits := match text with
    | '+' :: rest => rest
    | digits => digits
  if digits.isEmpty || !digits.all Char.isDigit then none
  else
    let number := Nat.ofDigitChars 10 digits 0
    if number ≤ everything then some number else none

/-- The verbosity of a name, in any case of letters. -/
def ofName? (text : List Char) : Option Verbosity :=
  match String.ofList (text.map Char.toLower) with
  | "off" => some 0
  | "error" => some 1
  | "warn" => some 2
  | "info" => some 3
  | "debug" => some 4
  | "trace" => some 5
  | _ => none

/-- The verbosity that a text gives, by number or by name. -/
def ofText? (text : List Char) : Option Verbosity := ofNumber? text <|> ofName? text

/-- The verbosity after an equals sign. Where none is told, everything is shown. -/
def ofGrant? (text : List Char) : Option Verbosity :=
  if text.isEmpty then some everything else ofText? text

end Verbosity

/-- The verbosity that events of an origin are granted, perhaps only within a span. -/
structure LogDirective where
  origin : Option (List Char)
  span : Option (List Char)
  verbosity : Verbosity
  deriving DecidableEq, Repr

namespace LogDirective

/-- Whether a directive may begin with a character. -/
def isStart (character : Char) : Bool :=
  Text.isAlphanumeric character || ['-', ':', '_', '['].contains character

/-- A directive that grants a verbosity to an origin, after the equals sign. -/
def ofOrigin? (origin grant : List Char) : Option LogDirective :=
  (Verbosity.ofGrant? grant).map fun verbosity => ⟨some origin, none, verbosity⟩

/-- A directive that grants a verbosity within a span, after the opening bracket. -/
def ofSpan? (origin : Option (List Char)) (text : List Char) : Option LogDirective :=
  let name := text.takeWhile (· ≠ ']')
  if name.contains '\x7b' then none
  else match text.dropWhile (· ≠ ']') with
    | [']'] => some ⟨origin, some name, Verbosity.everything⟩
    | ']' :: '=' :: grant =>
      (Verbosity.ofGrant? grant).map fun verbosity => ⟨origin, some name, verbosity⟩
    | _ => none

/-- A directive that is only a verbosity or only an origin. -/
def ofWord (word : List Char) : LogDirective :=
  match Verbosity.ofText? word with
  | some verbosity => ⟨none, none, verbosity⟩
  | none => ⟨some word, none, Verbosity.everything⟩

/-- Whether a character ends the origin in a directive. -/
def endsOrigin (character : Char) : Bool := character = '=' || character = '['

/-- The directive that a text spells. -/
def ofText? (text : List Char) : Option LogDirective :=
  match Text.trimBlanks text with
  | [] => none
  | first :: _ =>
    if !isStart first then none
    else
      let origin := text.takeWhile fun character => !endsOrigin character
      match text.dropWhile fun character => !endsOrigin character with
      | '=' :: grant => ofOrigin? origin grant
      | '[' :: rest => ofSpan? (if origin.isEmpty then none else some origin) rest
      | _ => some (ofWord text)

/-- Whether a directive is about events and spans from an origin. -/
def isAbout (directive : LogDirective) (origin : EventOrigin) : Bool :=
  match directive.origin with
  | none => true
  | some start => start.isPrefixOf origin.label.toList

/-- How closely a directive tells an origin. One that tells none is the least close. -/
def closeness (directive : LogDirective) : Nat :=
  match directive.origin with
  | none => 0
  | some start => (String.ofList start).utf8ByteSize + 1

end LogDirective

/-- Which events are shown. -/
structure LogFilter where
  directives : List LogDirective
  deriving DecidableEq, Repr

/-- A span of events, which is opened by one part of the program. -/
structure LogSpan where
  name : String
  origin : EventOrigin
  level : EventLevel
  fields : List (String × String)
  deriving DecidableEq, Repr

namespace LogFilter

/-- The texts between the commas of a text. -/
def pieces : List Char → List (List Char)
  | [] => [[]]
  | character :: rest =>
    if character = ',' then [] :: pieces rest
    else match pieces rest with
      | [] => [[character]]
      | first :: others => (character :: first) :: others

/-- The filter that a text spells. The empty text lets errors through. -/
def ofText? (text : String) : Option LogFilter :=
  if text.isEmpty then some ⟨[⟨none, none, EventLevel.error.verbosity⟩]⟩
  else ((pieces text.toList).mapM LogDirective.ofText?).map LogFilter.mk

/-- The filter that an environment asks for, else the default one. -/
def ofEnvironment (environment : Environment) (settings : LogSettings) : LogFilter :=
  ((environment.get? "RUST_LOG").bind ofText? <|> ofText? settings.defaultFilter).getD ⟨[]⟩

/-- The closer one of two directives. Of equally close ones the later one counts. -/
def closer (held : Option LogDirective) (next : LogDirective) : Option LogDirective :=
  match held with
  | none => some next
  | some held => if held.closeness ≤ next.closeness then some next else some held

/-- The directive outside spans that counts for an origin, if there is one. -/
def directiveFor? (filter : LogFilter) (origin : EventOrigin) : Option LogDirective :=
  (filter.directives.filter fun directive =>
    directive.span.isNone && directive.isAbout origin).foldl closer none

/-- Whether events of an origin and a level are shown wherever they stand. -/
def showsAnywhere (filter : LogFilter) (origin : EventOrigin) (level : EventLevel) : Bool :=
  match filter.directiveFor? origin with
  | some directive => level.verbosity ≤ directive.verbosity
  | none => false

/-- The verbosities that the directives for a span grant to what is within it. -/
def grantsWithin (filter : LogFilter) (span : LogSpan) : List Verbosity :=
  (filter.directives.filter fun directive =>
    directive.span == some span.name.toList && directive.isAbout span.origin).map
      LogDirective.verbosity

/-- Whether a span is shown. -/
def showsSpan (filter : LogFilter) (span : LogSpan) : Bool :=
  !(filter.grantsWithin span).isEmpty || filter.showsAnywhere span.origin span.level

/-- Whether an event is shown that stands within a span, or within none. -/
def shows (filter : LogFilter) (span : Option LogSpan) (event : Event) : Bool :=
  filter.showsAnywhere event.origin event.level ||
    match span with
    | none => false
    | some span =>
      (filter.grantsWithin span).any fun verbosity => event.level.verbosity ≤ verbosity

end LogFilter

end Registrar
