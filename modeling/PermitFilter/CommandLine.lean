import PermitFilter.Program

/-!
# Command lines

A command line gives two paths, the input and the output, and among them options
and flags in any order. An option takes its value behind an equals sign or as the
next argument. Two dashes alone end the options: everything behind them is a
path.

The value of a path or an option is judged when the next argument is understood,
or at the end. An argument that is not understood ends the reading first, so it
is reported even if the value in front of it is bad.

An environment variable stands in for an option that is not given; it is judged
after the arguments, and a missing path last of all.
-/

set_option autoImplicit false

namespace PermitFilter.CommandLine

/-! ## What can end the reading -/

/-- What is wrong with a command line. -/
inductive Misuse where
  /-- A path is missing. -/
  | missingPath
  /-- An option that does not exist, or a third path. -/
  | unknownArgument
  /-- A value that is missing, empty or not among the possible ones. -/
  | invalidValue
  /-- An option or a flag that is given twice. -/
  | repeated
  /-- A value for a flag, which takes none. -/
  | valueForFlag
  deriving DecidableEq, Repr

/-- Why no configuration comes of a command line. -/
inductive Stop where
  /-- Help was asked for. -/
  | help
  /-- The version was asked for. -/
  | version
  | misuse (misuse : Misuse)
  deriving DecidableEq, Repr

/-- The exit status of a program that stops. -/
def Stop.exitStatus : Stop → Nat
  | .help => 0
  | .version => 0
  | .misuse _ => 2

/-! ## Arguments -/

/-- The two paths, in the order in which they are given. -/
inductive Place where
  | input
  | output
  deriving DecidableEq, Repr

/-- An option that takes a value. -/
inductive Setting where
  | logLevel
  | logFormat
  deriving DecidableEq, Repr

/-- An option that takes none. -/
inductive Switch where
  | collectErrors
  | summary
  | help
  | version
  deriving DecidableEq, Repr

/-- Something that has a long name. -/
inductive Named where
  | setting (setting : Setting)
  | switch (switch : Switch)
  deriving DecidableEq, Repr

/-- The long names, without their dashes. -/
def longNames : List (String × Named) :=
  [("log-level", .setting .logLevel), ("log-format", .setting .logFormat),
    ("collect-errors", .switch .collectErrors), ("summary", .switch .summary),
    ("help", .switch .help), ("version", .switch .version)]

/-- The short names, without their dash. -/
def shortNames : List (Char × Switch) :=
  [('h', .help), ('V', .version)]

/-- What an argument looks like. -/
inductive Argument where
  /-- Two dashes alone. -/
  | endOfOptions
  /-- Two dashes, a name, and what stands behind the first equals sign. -/
  | long (name : String) (attached : Option String)
  /-- One dash and a letter; anything may follow. -/
  | short (letter : Char)
  | value (text : String)
  deriving DecidableEq, Repr

/-- The shape of an argument. A dash alone is a value. -/
def Argument.ofText (text : String) : Argument :=
  match text.toList with
  | ['-', '-'] => .endOfOptions
  | '-' :: '-' :: rest =>
    match rest.span (· != '=') with
    | (name, []) => .long (String.ofList name) none
    | (name, _ :: attached) => .long (String.ofList name) (some (String.ofList attached))
  | '-' :: letter :: _ => .short letter
  | _ => .value text

/-! ## Reading arguments -/

/-- A value that is not judged yet. -/
inductive Pending where
  | path (place : Place) (text : String)
  | setting (setting : Setting) (text : Option String)
  deriving DecidableEq, Repr

/-- What the arguments read so far have given. -/
structure Draft where
  input : Option String
  output : Option String
  logLevel : Option String
  logFormat : Option Log.Format
  collectErrors : Bool
  summary : Bool
  /-- The places no path is read for yet. -/
  unfilled : List Place
  pending : Option Pending
  deriving DecidableEq, Repr

/-- The log format a word names. -/
def logFormat? (word : String) : Option Log.Format :=
  if word = Log.Format.text.name then some .text
  else if word = Log.Format.json.name then some .json
  else none

namespace Draft

/-- The draft before the first argument. -/
def empty : Draft where
  input := none
  output := none
  logLevel := none
  logFormat := none
  collectErrors := false
  summary := false
  unfilled := [.input, .output]
  pending := none

/-- Gives an option its value. -/
def set (draft : Draft) (setting : Setting) (text : String) : Except Stop Draft :=
  match setting with
  | .logLevel =>
    if draft.logLevel.isSome then .error (.misuse .repeated)
    else .ok { draft with logLevel := some text }
  | .logFormat =>
    if draft.logFormat.isSome then .error (.misuse .repeated)
    else
      match logFormat? text with
      | none => .error (.misuse .invalidValue)
      | some format => .ok { draft with logFormat := some format }

/-- Gives a place its path. -/
def place (draft : Draft) (place : Place) (text : String) : Except Stop Draft :=
  if text = "" then .error (.misuse .invalidValue)
  else
    match place with
    | .input => .ok { draft with input := some text }
    | .output => .ok { draft with output := some text }

/-- Judges the value that is not judged yet. -/
def settle (draft : Draft) : Except Stop Draft :=
  let settled := { draft with pending := none }
  match draft.pending with
  | none => .ok settled
  | some (.path place text) => settled.place place text
  | some (.setting _ none) => .error (.misuse .invalidValue)
  | some (.setting setting (some text)) => settled.set setting text

/-- Acts on a switch. -/
def turn (draft : Draft) (switch : Switch) : Except Stop Draft :=
  match switch with
  | .collectErrors =>
    if draft.collectErrors then .error (.misuse .repeated)
    else .ok { draft with collectErrors := true }
  | .summary =>
    if draft.summary then .error (.misuse .repeated)
    else .ok { draft with summary := true }
  | .help => .error .help
  | .version => .error .version

/-- Takes an argument with a long name. -/
def takeLong (draft : Draft) (name : String) (attached : Option String) : Except Stop Draft :=
  match longNames.lookup name, attached with
  | none, _ => .error (.misuse .unknownArgument)
  | some (.switch _), some _ => .error (.misuse .valueForFlag)
  | some (.switch switch), none => do (← draft.settle).turn switch
  | some (.setting setting), some text => do (← draft.settle).set setting text
  | some (.setting setting), none => do
    return { (← draft.settle) with pending := some (.setting setting none) }

/-- Takes an argument with a short name. -/
def takeShort (draft : Draft) (letter : Char) : Except Stop Draft :=
  match shortNames.lookup letter with
  | none => .error (.misuse .unknownArgument)
  | some switch => do (← draft.settle).turn switch

/-- Takes the path for the next open place. -/
def takePath (draft : Draft) (text : String) : Except Stop Draft :=
  match draft.unfilled with
  | [] => .error (.misuse .unknownArgument)
  | place :: later => do
    return { (← draft.settle) with unfilled := later, pending := some (.path place text) }

/-- Takes a value among options: it belongs to an option that waits for one, and
else it is a path. -/
def takeValue (draft : Draft) (text : String) : Except Stop Draft :=
  match draft.pending with
  | some (.setting setting none) =>
    .ok { draft with pending := some (.setting setting (some text)) }
  | _ => draft.takePath text

/-- Takes all arguments as paths. -/
def takePaths : Draft → List String → Except Stop Draft
  | draft, [] => draft.settle
  | draft, text :: later =>
    match draft.takePath text with
    | .error stop => .error stop
    | .ok next => next.takePaths later

/-- Takes arguments in order. -/
def takeAll : Draft → List String → Except Stop Draft
  | draft, [] => draft.settle
  | draft, text :: later =>
    match Argument.ofText text with
    | .endOfOptions => draft.takePaths later
    | .long name attached =>
      match draft.takeLong name attached with
      | .error stop => .error stop
      | .ok next => next.takeAll later
    | .short letter =>
      match draft.takeShort letter with
      | .error stop => .error stop
      | .ok next => next.takeAll later
    | .value text =>
      match draft.takeValue text with
      | .error stop => .error stop
      | .ok next => next.takeAll later

/-! ## Standing in for what is not given -/

/-- The log level: the argument, else the variable, else the standard one. -/
def chosenLogLevel (draft : Draft) (environment : Environment) : String :=
  match draft.logLevel, environment.logLevel with
  | some given, _ => given
  | none, some value => value
  | none, none => Configuration.standardLogLevel

/-- The log format: the argument, else the variable, else text. -/
def chosenLogFormat (draft : Draft) (environment : Environment) : Except Stop Log.Format :=
  match draft.logFormat, environment.logFormat with
  | some given, _ => .ok given
  | none, none => .ok Configuration.standard.logFormat
  | none, some value =>
    match logFormat? value with
    | none => .error (.misuse .invalidValue)
    | some format => .ok format

/-- Whether errors are collected: by the flag, else by the variable. -/
def chosenCollectErrors (draft : Draft) (environment : Environment) : Except Stop Bool :=
  match draft.collectErrors, environment.collectErrors with
  | true, _ => .ok true
  | false, none => .ok false
  | false, some value =>
    if value = "true" then .ok true
    else if value = "false" then .ok false
    else .error (.misuse .invalidValue)

/-- The configuration of a draft in an environment. -/
def configuration (draft : Draft) (environment : Environment) : Except Stop Configuration := do
  let logFormat ← draft.chosenLogFormat environment
  let collectErrors ← draft.chosenCollectErrors environment
  match draft.input, draft.output with
  | some input, some output =>
    return {
      input, output, logFormat, collectErrors
      logLevel := draft.chosenLogLevel environment
      summary := draft.summary }
  | _, _ => throw (.misuse .missingPath)

end Draft

/-- The configuration that a command line and an environment amount to. -/
def configure (arguments : List String) (environment : Environment) :
    Except Stop Configuration := do
  (← Draft.empty.takeAll arguments).configuration environment

/-- How the program is called. -/
def usage : String :=
  "Usage: " ++ Event.programName ++ " [OPTIONS] <INPUT> <OUTPUT>\n" ++
    "\n" ++
    "Options:\n" ++
    "      --log-level <FILTER>   what to log [default: info]\n" ++
    "      --log-format <FORMAT>  how to log it: text or json [default: text]\n" ++
    "      --collect-errors       report all malformed lines together\n" ++
    "      --summary              print a tally of the lines\n" ++
    "  -h, --help                 print this text\n" ++
    "  -V, --version              print the version\n"

end PermitFilter.CommandLine
