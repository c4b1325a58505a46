import PermitFilter.CommandLine
import PermitFilter.Log.Filter

/-!
# The standard libraries

The program as it is run: with command lines as `CommandLine.configure` reads them, with
log filters of directives, and with records, numbers and errors written as text and as
JSON.
-/

set_option autoImplicit false

namespace PermitFilter.Program

/-- What the version option prints. -/
def versionLine : String :=
  Event.programName ++ " " ++ Event.version

/-- The report on a run that stops at its command line. -/
def reportStop (stop : CommandLine.Stop) : Report where
  exitStatus := stop.exitStatus
  notices :=
    match stop with
    | .help => [.answered .output CommandLine.usage]
    | .version => [.answered .output versionLine]
    | .misuse _ => [.answered .side CommandLine.usage]

/-- The text of an error with what it comes from. Several causes are numbered. -/
def withCauses (message : String) (causes : List String) : String :=
  let line (cause : String × Nat) :=
    if causes.length = 1 then "\n    " ++ cause.1
    else "\n    " ++ toString cause.2 ++ ": " ++ cause.1
  if causes.isEmpty then message
  else message ++ "\n\nCaused by:" ++ String.join (causes.zipIdx.map line)

/-- The numbers under their names as a JSON object. -/
def numbersJson (members : List (String × Nat)) : String :=
  Text.jsonObject (members.map fun member => (member.1, Text.jsonNumber member.2))

/-- The libraries the program is run with. -/
def Libraries.standard : Libraries where
  configure arguments environment :=
    (CommandLine.configure arguments environment).mapError reportStop
  Filter := Log.Filter
  filterOfVariable? value := value.bind Log.Filter.ofText?
  filterOfText := .ofWellFormedParts
  shows := Log.Filter.admits
  recordText format record := record.line format
  numbersText members := .ok (numbersJson members)
  errorText := withCauses

/-- Runs the program on a file tree. -/
def run (arguments : List String) (environment : Environment) (tree : FileTree) :
    Report × FileTree :=
  runBy .standard .reliable arguments environment tree

end PermitFilter.Program
