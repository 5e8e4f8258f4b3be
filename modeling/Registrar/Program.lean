import Registrar.Config.CommandLine
import Registrar.Config.File
import Registrar.Logging.Line
import Registrar.Logging.Sink
import Registrar.Run

/-!
# The program

The program begins its log, reads its options, checks the configuration and runs once. What it
shows, how it ends and what it leaves in the file tree follow from its arguments, its environment,
the clock and the tree.
-/

namespace Registrar

/-- What the program is started with. -/
structure Surroundings where
  arguments : List String
  environment : Environment
  clock : Instant
  faults : Faults

/-- How the program ends. -/
inductive Ending
  | misused (stop : UsageStop)
  | failed (message : String)
  | finished (report : Report) (showsReport : Bool)
  /-- The log could not be begun for a reason that nobody provided for. -/
  | aborted
  deriving DecidableEq, Repr

namespace Ending

/-- What is shown where the version is asked for. -/
def versionText : String := "codec-registry-gen 0.1.0\n"

/-- How the program is called. -/
def usageText : String :=
  "Usage: codec-registry-gen [OPTIONS]\n\nOptions:\n" ++
    String.join (ValueOption.all.map fun option => "      --" ++ option.longName ++ " <VALUE>\n") ++
    String.join (Flag.all.map fun flag => "      --" ++ flag.longName ++ "\n") ++
    "  -h, --help\n  -V, --version\n"

/-- The exit code of the program. -/
def exitCode : Ending → Nat
  | misused .showHelp => 0
  | misused .showVersion => 0
  | misused _ => 2
  | failed _ => 1
  | finished report _ => if report.outcome.isStale then 1 else 0
  | aborted => 101

/-- What the program shows of a run that took the given number of milliseconds. -/
def output (ending : Ending) (milliseconds : Nat) : String :=
  match ending with
  | misused .showHelp => usageText
  | misused .showVersion => versionText
  | finished report showsReport =>
    report.rendered.getD "" ++
      if showsReport then String.ofList (report.indented milliseconds) ++ "\n" else ""
  | _ => ""

/-- What the program says on its error output as it ends. -/
def complaint : Ending → String
  | misused .showHelp => ""
  | misused .showVersion => ""
  | misused _ => "error: the arguments cannot be used\n\n" ++ usageText
  | failed message => "Error: " ++ message ++ "\n"
  | finished _ _ => ""
  | aborted => "initializing rolling file appender failed\n"

end Ending

/-- What the program does once its log is begun: the workspace that it leaves, its events with the
spans within which they stand, and how it ends. -/
structure Session where
  workspace : Workspace
  events : List (Option LogSpan × Event)
  ending : Ending

/-- The span of the log in which a run stands. -/
def runSpan (config : Config) (mode : RunMode) : LogSpan where
  name := "generate"
  origin := .run
  level := .info
  fields := [("mode", mode.title), ("base_dir", config.baseDirectory.text)]

namespace Session

/-- A session that ends before its run. -/
def stopped (workspace : Workspace) (ending : Ending) : Session := ⟨workspace, [], ending⟩

/-- The event that tells that the file at the path of the artifact is out of date, if it is. -/
def closingEvents (report : Report) : List (Option LogSpan × Event) :=
  if report.outcome.isStale then [(none, .checkFailed)] else []

/-- A session with an accepted command line, from the run to its ending. -/
def ofRun (config : Config) (workspace : Workspace) (surroundings : Surroundings)
    (options : CommandOptions) : Session :=
  let sourceDate := SourceDate.ofVariable (surroundings.environment.get? SourceDate.variableName)
  let result :=
    config.run workspace ⟨sourceDate, surroundings.clock, surroundings.faults⟩ options.mode
  let events := result.events.map fun event => (some (runSpan config options.mode), event)
  match result.report with
  | .error failure => ⟨result.workspace, events, .failed failure.message⟩
  | .ok report =>
    ⟨result.workspace, events ++ closingEvents report, .finished report options.reportJson⟩

/-- A session whose options were read. -/
def ofOptions (workspace : Workspace) (surroundings : Surroundings) (options : CommandOptions) :
    Session :=
  match Config.ofOptions workspace options with
  | .error problem => stopped workspace (.failed problem.message)
  | .ok config =>
    match config.validate workspace with
    | .error problem => stopped workspace (.failed problem.message)
    | .ok () => ofRun config workspace surroundings options

/-- A session. -/
def start (workspace : Workspace) (surroundings : Surroundings) : Session :=
  match CommandLine.parse surroundings.arguments surroundings.environment with
  | .error stop => stopped workspace (.misused stop)
  | .ok options => ofOptions workspace surroundings options

end Session

/-- What the program leaves: its workspace, its ending and its log. -/
structure ProgramResult where
  workspace : Workspace
  ending : Ending
  /-- The part of the log that is shown, and not written to a file. -/
  shownLog : String
  logSink : LogSink

namespace Program

/-- The lines that a log tells of events. -/
def logText (settings : LogSettings) (filter : LogFilter) (clock : Instant)
    (events : List (Option LogSpan × Event)) : String :=
  let entries := events.filterMap fun (span, event) => filter.entry? span event
  String.ofList (entries.flatMap fun entry => entry.line settings.format clock)

/-- The program, once its log is begun. -/
def runLogged (workspace : Workspace) (surroundings : Surroundings) (settings : LogSettings)
    (sink : LogSink) : ProgramResult :=
  let session := Session.start workspace surroundings
  let events := (none, .loggingStarted settings.format settings.output) :: session.events
  let filter := LogFilter.ofEnvironment surroundings.environment settings
  let log := logText settings filter surroundings.clock events
  match sink with
  | .file location => ⟨session.workspace.appendText location log, session.ending, "", sink⟩
  | _ => ⟨session.workspace, session.ending, log, sink⟩

/-- The program. -/
def run (workspace : Workspace) (surroundings : Surroundings) : ProgramResult :=
  let settings := LogSettings.ofEnvironment surroundings.environment
  match settings.begin workspace with
  | .ok (begun, sink) => runLogged begun surroundings settings sink
  | .error .directoryNotMade =>
    ⟨workspace, .failed "Failed to create log directory", "", .standardError⟩
  | .error .fileNotOpened => ⟨workspace, .aborted, "", .standardError⟩

end Program

namespace ProgramResult

/-- Everything on standard output, for a run that took the given number of milliseconds. -/
def standardOutput (result : ProgramResult) (milliseconds : Nat) : String :=
  (if result.logSink = .standardOutput then result.shownLog else "") ++
    result.ending.output milliseconds

/-- What the program writes to its error output. -/
def standardError (result : ProgramResult) : String :=
  (if result.logSink = .standardError then result.shownLog else "") ++ result.ending.complaint

end ProgramResult

end Registrar
