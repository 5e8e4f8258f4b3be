import Registrar.JsonText
import Registrar.Logging.Filter
import Registrar.Text.Quoted
import Registrar.Time.Instant

/-!
# Log lines

An event is written on one line, with the time at which it happened and the span within which it
stands: as JSON with the fields of each object in the order of their names, or as words with the
fields behind the message.
-/

namespace Registrar

/-- An event with the span within which it is shown, if it is shown within one. -/
structure LogEntry where
  event : Event
  span : Option LogSpan
  deriving DecidableEq, Repr

namespace Instant

/-- The stamp of an instant with six digits for the fraction of a second. -/
def logStamp (instant : Instant) : List Char :=
  instant.clockText ++
    '.' :: paddedDigits 6 (instant.nanoseconds % nanosecondsOfSecond / 1000) ++ ['Z']

end Instant

namespace FieldValue

/-- A value in a line of JSON. -/
def json : FieldValue → JsonValue
  | delimited value => .text value
  | bare value => .text value
  | count value => .number value

/-- A value in a line of words. -/
def words : FieldValue → List Char
  | delimited value => (Text.quoted value).toList
  | bare value => value.toList
  | count value => Nat.toDigits 10 value

end FieldValue

namespace LogEntry

/-- Fields in the order of their names. -/
def ordered (fields : List (String × JsonValue)) : List (String × JsonValue) :=
  fields.mergeSort fun left right => left.1 ≤ right.1

/-- A span in a line of JSON. -/
def spanJson (span : LogSpan) : JsonValue :=
  .object (ordered (span.fields.map fun (name, value) => (name, .text value)) ++
    [("name", .text span.name)])

/-- The message and the fields of an event in a line of JSON. -/
def eventJson (event : Event) : JsonValue :=
  .object (ordered (("message", .text event.message) ::
    event.fields.map fun (name, value) => (name, value.json)))

/-- An entry as a value of JSON. -/
def json (entry : LogEntry) (clock : Instant) : JsonValue :=
  .object ([("timestamp", .text (String.ofList clock.logStamp)),
    ("level", .text entry.event.level.label),
    ("fields", eventJson entry.event),
    ("target", .text entry.event.origin.label)] ++
    match entry.span with
    | none => []
    | some span => [("span", spanJson span), ("spans", .list [spanJson span])])

/-- The written form of a character of a message. Characters that a terminal would obey are
written as escapes. -/
def tamed (character : Char) : List Char :=
  if ['\x07', '\x08', '\x0c', '\x1b', '\x7f'].contains character then
    ['\\', 'x'] ++ JsonValue.hexPair character.toNat
  else if 0x80 ≤ character.toNat && character.toNat ≤ 0x9F then Text.codePointEscape character
  else [character]

/-- A field in a line of words. -/
def fieldWords (field : String × List Char) : List Char := ' ' :: field.1.toList ++ '=' :: field.2

/-- The level at the start of a line, as wide as the widest one. -/
def levelWord (level : EventLevel) : List Char :=
  List.replicate (5 - level.label.length) ' ' ++ level.label.toList

/-- An entry as a line of words. -/
def words (entry : LogEntry) (clock : Instant) : List Char :=
  let event := entry.event
  clock.logStamp ++ ' ' :: levelWord event.level ++ ' ' ::
    (match entry.span with
      | none => []
      | some span => span.name.toList ++ [':', ' ']) ++
    event.message.toList.flatMap tamed ++
    (event.fields.map fun (name, value) => (name, value.words)).flatMap fieldWords ++
    (match entry.span with
      | none => []
      | some span => (span.fields.map fun (name, value) => (name, value.toList)).flatMap fieldWords)

/-- The line of an entry in the form that a log has. -/
def line (entry : LogEntry) (format : LogFormat) (clock : Instant) : List Char :=
  (match format with
    | .json => (entry.json clock).compact
    | .pretty => entry.words clock) ++ ['\n']

end LogEntry

namespace LogFilter

/-- The entry of an event, if it is shown. The span is told where it is shown itself. -/
def entry? (filter : LogFilter) (span : Option LogSpan) (event : Event) : Option LogEntry :=
  if filter.shows span event then some ⟨event, span.filter filter.showsSpan⟩ else none

end LogFilter

end Registrar
