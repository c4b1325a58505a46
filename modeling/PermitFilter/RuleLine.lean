import PermitFilter.Cursor
import PermitFilter.Expression
import PermitFilter.Text.Blank

/-!
# Rule lines

A line is read as its words. A line whose first word is not `permit` is skipped.
A `permit` line states a protocol, a network and either ports after `eq` or two
bounds after `range`; one that breaks off or names another operator is
malformed, for the reason found first.

The word `any` has two places of its own: directly after the protocol it is
passed over once, and among the ports, behind the first, it ends the list.
Everywhere else it is a word like any other.
-/

set_option autoImplicit false

namespace PermitFilter

/-! ## Keywords -/

/-- The word that opens a rule line. -/
def permitKeyword : String := "permit"

/-- The word for no restriction. -/
def anyKeyword : String := "any"

/-- A word that says how ports are given. -/
inductive Operator where
  /-- Ports are listed one by one. -/
  | eq
  /-- Ports are given by two bounds. -/
  | range
  deriving DecidableEq, Repr

namespace Operator

/-- The word an operator is written as. -/
def keyword : Operator → String
  | .eq => "eq"
  | .range => "range"

/-- The operator a word stands for. -/
def ofWord? (word : String) : Option Operator :=
  if word = Operator.eq.keyword then some .eq
  else if word = Operator.range.keyword then some .range
  else none

end Operator

/-! ## Outcomes -/

/-- Why a `permit` line states no rule. -/
inductive Reason where
  | missingProtocol
  | missingNetwork
  | missingOperator
  | unexpectedOperator (word : String)
  | missingPort (operator : Operator)
  deriving DecidableEq, Repr

/-- The wording of a reason. -/
def Reason.message : Reason → String
  | .missingProtocol => "missing protocol after `permit`"
  | .missingNetwork => "missing network"
  | .missingOperator => "missing port operator, expected `eq` or `range`"
  | .unexpectedOperator word =>
    "unexpected port operator `" ++ word ++ "`, expected `eq` or `range`"
  | .missingPort operator => "missing port after `" ++ operator.keyword ++ "`"

/-- What a line turns out to be. -/
inductive Outcome where
  /-- No rule line at all. -/
  | skipped
  | parsed (rule : Rule)
  | malformed (reason : Reason)
  deriving DecidableEq, Repr

/-- Whether the line was no rule line. -/
def Outcome.isSkipped : Outcome → Bool
  | .skipped => true
  | _ => false

/-! ## Reading -/

/-- Reads the ports behind their operator. -/
def Ports.read (operator : Operator) (cursor : Cursor) : Except Reason Ports :=
  match operator with
  | .eq => do
    let (first, cursor) ← cursor.require (.missingPort .eq)
    return .list (first :: (cursor.readUntil anyKeyword).1)
  | .range => do
    let (low, cursor) ← cursor.require (.missingPort .range)
    let (high, _) ← cursor.require (.missingPort .range)
    return .range low high

/-- Reads a rule from the words behind `permit`. -/
def Rule.read (cursor : Cursor) : Except Reason Rule := do
  let (protocol, cursor) ← cursor.require .missingProtocol
  let (_, cursor) := cursor.readIf anyKeyword
  let (network, cursor) ← cursor.require .missingNetwork
  let (word, cursor) ← cursor.require .missingOperator
  match Operator.ofWord? word with
  | none => throw (.unexpectedOperator word)
  | some operator =>
    let ports ← Ports.read operator cursor
    return { protocol, network, ports }

namespace Outcome

/-- What the words of a line amount to. -/
def ofWords (words : List String) : Outcome :=
  match (Cursor.ofWords words).readIf permitKeyword with
  | (false, _) => .skipped
  | (true, cursor) =>
    match Rule.read cursor with
    | .ok rule => .parsed rule
    | .error reason => .malformed reason

/-- What a line amounts to. -/
def ofLine (line : String) : Outcome :=
  ofWords (Text.words line)

end Outcome

end PermitFilter
