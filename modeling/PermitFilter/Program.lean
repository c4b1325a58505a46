import PermitFilter.Log
import PermitFilter.RuleFile

/-!
# The program

A configuration says which file to read, which to write, what is logged and in which form,
what happens at malformed lines, and whether a tally is printed. A run of the program comes
to an exit status and to notices, each of which is printed as a line on one of two streams:
log records, the tally if it was asked for, and the error if there is one, in the order in
which they are printed. The files are left as compiling the rule file leaves them.

Some of the work is done elsewhere: reading command lines, deciding by a filter which
records are shown, and giving records, numbers and errors their written form. What is done
there is a parameter, the `Libraries` of the program.
-/

set_option autoImplicit false

namespace PermitFilter

/-! ## Configurations -/

/-- What a run of the program is told to do. -/
structure Configuration where
  input : String
  output : String
  /-- The text of a log filter. -/
  logLevel : String
  logFormat : Log.Format
  collectErrors : Bool
  summary : Bool
  deriving DecidableEq, Repr

namespace Configuration

/-- The log level in force where none is given. -/
def standardLogLevel : String := "info"

/-- The configuration in force where nothing is given. -/
def standard : Configuration where
  input := "rules.acl"
  output := "filter.bpf"
  logLevel := standardLogLevel
  logFormat := .text
  collectErrors := false
  summary := false

/-- The policy at malformed lines. -/
def policy (configuration : Configuration) : Policy :=
  if configuration.collectErrors then .collect else .failFast

end Configuration

/-- The environment variables that stand in for options. -/
structure Environment where
  /-- The text of a log filter. -/
  logLevel : Option String
  logFormat : Option String
  collectErrors : Option String
  deriving DecidableEq, Repr

namespace Environment

/-- The environment in which no variable is set. -/
def empty : Environment where
  logLevel := none
  logFormat := none
  collectErrors := none

/-- The variable that stands in for the log level, and takes precedence over it
as a filter. -/
def logLevelName : String := "RUST_LOG"

/-- The variable that stands in for the log format. -/
def logFormatName : String := "ACL2BPF_LOG_FORMAT"

/-- The variable that stands in for collecting errors. -/
def collectErrorsName : String := "ACL2BPF_COLLECT_ERRORS"

/-- The environment in which variables have the values a function gives. -/
def ofLookup (value? : String → Option String) : Environment where
  logLevel := value? logLevelName
  logFormat := value? logFormatName
  collectErrors := value? collectErrorsName

end Environment

namespace Program

/-! ## What a run prints -/

/-- Where a line is printed. -/
inductive Stream where
  | output
  /-- The stream for all that is no output. -/
  | side
  deriving DecidableEq, Repr

/-- What prints log records: in which form, and where. -/
structure Layer where
  format : Log.Format
  stream : Stream
  deriving DecidableEq, Repr

namespace Layer

/-- A layer prints text to the output where nothing else is said. -/
def standard : Layer where
  format := .text
  stream := .output

/-- The layer that prints JSON. -/
def json (layer : Layer) : Layer :=
  { layer with format := .json }

/-- The layer that prints to another stream. -/
def withWriter (layer : Layer) (stream : Stream) : Layer :=
  { layer with stream }

end Layer

/-- A line that is printed. -/
inductive Notice where
  /-- A log record, by way of a layer. -/
  | logged (layer : Layer) (record : Log.Record)
  /-- The tally, as it is written. -/
  | counted (text : String)
  /-- An error, with what it comes from. -/
  | failed (message : String) (causes : List String)
  /-- What a command line is answered that starts no work. -/
  | answered (stream : Stream) (text : String)
  deriving DecidableEq, Repr

/-- What a run comes to, files apart. -/
structure Report where
  exitStatus : Nat
  notices : List Notice
  deriving DecidableEq, Repr

/-- Where a notice is printed. -/
def Notice.stream : Notice → Stream
  | .logged layer _ => layer.stream
  | .counted _ => .side
  | .failed _ _ => .side
  | .answered stream _ => stream

/-! ## What is done elsewhere -/

/-- What the program leaves to others. -/
structure Libraries where
  /-- The configuration that a command line spells, with the variables of the environment for
  what it does not say; or the report on a run that ends at it. -/
  configure : List String → Environment → Except Report Configuration
  /-- What decides which log records are shown. -/
  Filter : Type
  /-- The filter of a variable of the environment, if it is set and spells one. -/
  filterOfVariable? : Option String → Option Filter
  /-- The filter of a text. What is ill formed in it is passed over. -/
  filterOfText : String → Filter
  /-- Whether a filter shows a record. -/
  shows : Filter → Log.Record → Bool
  /-- A record as a line. -/
  recordText : Log.Format → Log.Record → String
  /-- Numbers under their names as JSON, or the message of an error. -/
  numbersText : List (String × Nat) → Except String String
  /-- An error, with what it comes from, as text. -/
  errorText : String → List String → String

section Printing

variable (libraries : Libraries)

/-- The line of a notice. -/
def Notice.text : Notice → String
  | .logged layer record => libraries.recordText layer.format record
  | .counted text => text
  | .failed message causes => "Error: " ++ libraries.errorText message causes
  | .answered _ text => text

/-- All that a report prints on one stream. -/
def Report.printed (report : Report) (stream : Stream) : String :=
  String.join ((report.notices.filter fun notice => notice.stream = stream).map fun notice =>
    notice.text libraries ++ "\n")

/-! ## Logging -/

/-- What is logged, and how. -/
structure Logging where
  filter : libraries.Filter
  layer : Layer

/-- Logging as it is started. The filter of the environment is in force if there is one, and
else that of the log level. Both forms are printed on the side. -/
def Logging.start (environment : Environment) (logLevel : String) (format : Log.Format) :
    Logging libraries where
  filter :=
    match libraries.filterOfVariable? environment.logLevel with
    | some filter => filter
    | none => libraries.filterOfText logLevel
  layer :=
    match format with
    | .text => Layer.standard.withWriter .side
    | .json => Layer.standard.json.withWriter .side

/-- The notices of events. -/
def Logging.notices {libraries : Libraries} (logging : Logging libraries) (events : List Event) :
    List Notice :=
  ((events.map Event.record).filter (libraries.shows logging.filter)).map
    (.logged logging.layer)

/-! ## Runs -/

/-- The tally as it is printed after a success if it was asked for; or the message of an
error and what it comes from. -/
def summary (asked : Bool) : Except Failure Compiled → Except (String × List String) (List Notice)
  | .error failure => .error (failure.message, failure.causes)
  | .ok compiled =>
    if asked then
      match libraries.numbersText compiled.tally.members with
      | .error message => .error (message, [])
      | .ok text => .ok [.counted text]
    else .ok []

/-- The report on a run that compiled a rule file, or failed to. -/
def reportAttempt (environment : Environment) (configuration : Configuration)
    (attempt : Attempt Compiled) : Report :=
  let logging := Logging.start libraries environment configuration.logLevel configuration.logFormat
  let notices := logging.notices (.starting configuration.policy :: attempt.events)
  match summary libraries configuration.summary attempt.result with
  | .error (message, causes) =>
    { exitStatus := 1, notices := notices ++ [.failed message causes] }
  | .ok summary =>
    { exitStatus := 0, notices := notices ++ summary ++ logging.notices [.finished] }

/-- Runs the program on files. -/
def runIn {m : Type → Type} {Handle : Type} [Monad m] (files : Files m Handle)
    (arguments : List String) (environment : Environment) : m Report := do
  match libraries.configure arguments environment with
  | .error report => return report
  | .ok configuration =>
    return reportAttempt libraries environment configuration
      (← RuleFile.compileIn files configuration.policy configuration.input configuration.output)

/-- Runs the program on a file tree, by way of a workshop for fresh files. -/
def runBy (workshop : FileTree.Workshop) (arguments : List String) (environment : Environment)
    (tree : FileTree) : Report × FileTree :=
  (runIn libraries workshop.files arguments environment).run tree

end Printing

end Program

end PermitFilter
