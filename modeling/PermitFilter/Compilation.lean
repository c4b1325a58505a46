import PermitFilter.Expression
import PermitFilter.FileTree.Path
import PermitFilter.Log
import PermitFilter.RuleLine
import PermitFilter.Text.Lines
import PermitFilter.Text.Quoted

/-!
# Compiling a rule list

A rule list is compiled to one expression, along with its rules and a tally of
its lines. What can go wrong is a failure: a line that states no rule although it
should, a list without any rule, or a file that cannot be read or written.

The lines of a list are examined in order, each under its number. The policy
says whether a malformed line ends the examination. If no line is malformed, the
rules found are composed to an expression; if none is found, there is nothing to
compose.

What happens on the way is told by events, in the order they happen, which the result
is never read from. Each event has one log record.
-/

set_option autoImplicit false

namespace PermitFilter

/-! ## Results and failures -/

/-- What happens at a malformed line. -/
inductive Policy where
  /-- The first malformed line ends the work. -/
  | failFast
  /-- All malformed lines are reported together. -/
  | collect
  deriving DecidableEq, Repr

/-- The name of a policy in a record. -/
def Policy.name : Policy → String
  | .failFast => "FailFast"
  | .collect => "Collect"

/-- A `permit` line that states no rule, with its place in the list. -/
structure MalformedLine where
  /-- The place of the line, counted from one. -/
  number : Nat
  /-- The line without its terminator. -/
  text : String
  reason : Reason
  deriving DecidableEq, Repr

/-- The wording of the report on a malformed line. -/
def MalformedLine.message (line : MalformedLine) : String :=
  "malformed rule line " ++ toString line.number ++ ": " ++ line.reason.message ++ ": " ++
    Text.quoted line.text

/-- What the lines of a list amount to, in numbers. -/
structure Tally where
  lines : Nat
  skipped : Nat
  rules : Nat
  deriving DecidableEq, Repr

/-- The numbers of a tally under their names. -/
def Tally.members (tally : Tally) : List (String × Nat) :=
  [("lines", tally.lines), ("skipped", tally.skipped), ("rules", tally.rules)]

/-- A compiled rule list. -/
structure Compiled where
  rules : List Rule
  expression : Expression
  tally : Tally
  deriving DecidableEq, Repr

/-- Why there is no compiled rule list. -/
inductive Failure where
  | unreadable (path : String) (fault : Fault)
  | unwritable (path : String) (fault : Fault)
  | malformed (line : MalformedLine)
  | malformedLines (lines : List MalformedLine)
  | noRules
  deriving DecidableEq, Repr

/-- The wording of the report on several malformed lines: one line of text each,
below a line that counts them. -/
def malformedLinesMessage (lines : List MalformedLine) : String :=
  toString lines.length ++ " malformed rule lines:\n" ++
    "\n".intercalate (lines.map fun line => "  " ++ line.message)

/-- The wording of a failure. -/
def Failure.message : Failure → String
  | .unreadable path _ => "failed to read rule file " ++ path
  | .unwritable path _ => "failed to write expression file " ++ path
  | .malformed line => line.message
  | .malformedLines lines => malformedLinesMessage lines
  | .noRules => "no permit rules found in input"

/-- What a failure comes from, besides itself. -/
def Failure.causes : Failure → List String
  | .unreadable _ fault | .unwritable _ fault => [fault.message]
  | .malformed _ | .malformedLines _ | .noRules => []

/-! ## Events -/

/-- One thing the program does. -/
inductive Event where
  /-- The program starts. -/
  | starting (policy : Policy)
  /-- A rule file is about to be read. -/
  | reading (path : String)
  /-- A line is about to be examined. -/
  | examining (number : Nat) (line : String)
  /-- The line turned out to be no rule line. -/
  | skipping (line : String)
  /-- The line turned out to be malformed. -/
  | rejecting (number : Nat) (reason : Reason)
  /-- All lines are examined and their rules composed. -/
  | composed (tally : Tally)
  /-- An expression is about to be written. -/
  | writing (path : String) (clauses : Nat)
  /-- The program has done its work. -/
  | finished
  deriving DecidableEq, Repr

namespace Event

/-- The version of the program. -/
def version : String := "0.1.0"

/-- The name of the program. -/
def programName : String := "acl2bpf"

/-- The target of records about the program as a whole. -/
def mainTarget : String := programName

/-- The target of records about a list of lines. -/
def listTarget : String := programName ++ "::translate"

/-- The target of records about files. -/
def fileTarget : String := programName ++ "::translate::io"

/-- The target of records about a single line. -/
def lineTarget : String := programName ++ "::parser::line"

/-- The record of an event. -/
def record : Event → Log.Record
  | .starting policy =>
    { level := .info, target := mainTarget, message := "Starting " ++ programName,
      fields := [("version", .quoted version), ("policy", .plain policy.name)] }
  | .reading path =>
    { level := .info, target := fileTarget, message := "Processing file",
      fields := [("path", .plain path)] }
  | .examining number line =>
    { level := .debug, target := listTarget, message := "working with line",
      fields := [("line_number", .number number), ("line", .quoted line)] }
  | .skipping line =>
    { level := .trace, target := lineTarget, message := "skipping non-permit line",
      fields := [("line", .quoted line)] }
  | .rejecting number reason =>
    { level := .warn, target := listTarget, message := "malformed rule line",
      fields := [("line_number", .number number), ("reason", .plain reason.message)] }
  | .composed tally =>
    { level := .info, target := listTarget, message := "Composed filter expression",
      fields :=
        [("lines", .number tally.lines), ("skipped", .number tally.skipped),
          ("rules", .number tally.rules)] }
  | .writing path clauses =>
    { level := .info, target := fileTarget, message := "Writing file",
      fields := [("path", .plain path), ("clauses", .number clauses)] }
  | .finished =>
    { level := .info, target := mainTarget, message := "Translation complete", fields := [] }

end Event

/-! ## Examining and composing -/

/-- What examining lines brings to light. -/
structure Survey where
  /-- How many lines were examined. -/
  lines : Nat
  /-- How many of them are no rule lines. -/
  skipped : Nat
  /-- The rules found, in the order of their lines. -/
  rules : List Rule
  /-- The malformed lines, in order. -/
  malformed : List MalformedLine
  events : List Event
  deriving DecidableEq, Repr

namespace Survey

/-- The survey of no lines. -/
def empty : Survey where
  lines := 0
  skipped := 0
  rules := []
  malformed := []
  events := []

/-- The survey with one more line in front, by what the line turned out to be. -/
def precededBy (later : Survey) (number : Nat) (line : String) : Outcome → Survey
  | .skipped =>
    { later with
      lines := later.lines + 1
      skipped := later.skipped + 1
      events := .examining number line :: .skipping line :: later.events }
  | .parsed rule =>
    { later with
      lines := later.lines + 1
      rules := rule :: later.rules
      events := .examining number line :: later.events }
  | .malformed reason =>
    { later with
      lines := later.lines + 1
      malformed := { number, text := Text.stripTerminators line, reason } :: later.malformed
      events := .examining number line :: .rejecting number reason :: later.events }

/-- Whether a policy ends the examination at a line. -/
def endsAt : Policy → Outcome → Bool
  | .failFast, .malformed _ => true
  | _, _ => false

/-- The survey of lines that are numbered from the given number on. -/
def ofLinesFrom (policy : Policy) : Nat → List String → Survey
  | _, [] => empty
  | number, line :: later =>
    let outcome := Outcome.ofLine line
    if endsAt policy outcome then empty.precededBy number line outcome
    else (ofLinesFrom policy (number + 1) later).precededBy number line outcome

/-- The survey of a whole list. -/
def ofLines (policy : Policy) (lines : List String) : Survey :=
  ofLinesFrom policy 1 lines

end Survey

/-- What an undertaking came to, and what happened on the way. -/
structure Attempt (α : Type) where
  result : Except Failure α
  events : List Event

/-- The failure that malformed lines amount to under a policy. -/
def Policy.failure (policy : Policy) (first : MalformedLine) (others : List MalformedLine) :
    Failure :=
  match policy with
  | .failFast => .malformed first
  | .collect => .malformedLines (first :: others)

/-- Compiles a list of lines under a policy. -/
def compile (policy : Policy) (lines : List String) : Attempt Compiled :=
  let survey := Survey.ofLines policy lines
  match survey.malformed with
  | first :: others => { result := .error (policy.failure first others), events := survey.events }
  | [] =>
    match Expression.ofRules? survey.rules with
    | none => { result := .error .noRules, events := survey.events }
    | some expression =>
      let tally :=
        { lines := survey.lines, skipped := survey.skipped, rules := survey.rules.length }
      { result := .ok { rules := survey.rules, expression, tally },
        events := survey.events ++ [.composed tally] }

end PermitFilter
