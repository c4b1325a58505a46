import PermitFilter.Text.Quoted

/-!
# Log records

A record tells what happened: how grave it is, which part of the program it
comes from, a message, and named values in order. It is printed on one line,
either as text or as a JSON object.
-/

set_option autoImplicit false

namespace PermitFilter.Log

/-! ## Levels -/

/-- How grave a record is. -/
inductive Level where
  | error
  | warn
  | info
  | debug
  | trace
  deriving DecidableEq, Repr

namespace Level

/-- How much is said when everything up to a level is said. -/
def verbosity : Level → Nat
  | .error => 1
  | .warn => 2
  | .info => 3
  | .debug => 4
  | .trace => 5

/-- The name of a level in a record. -/
def name : Level → String
  | .error => "ERROR"
  | .warn => "WARN"
  | .info => "INFO"
  | .debug => "DEBUG"
  | .trace => "TRACE"

/-- All levels, the gravest first. -/
def all : List Level :=
  [.error, .warn, .info, .debug, .trace]

end Level

/-! ## Records -/

/-- A value of a record. -/
inductive Value where
  /-- A count. -/
  | number (count : Nat)
  /-- A text shown in quotes where the record is text. -/
  | quoted (text : String)
  /-- A text shown as it is. -/
  | plain (text : String)
  deriving DecidableEq, Repr

/-- The value as it stands in a line of text. -/
def Value.text : Value → String
  | .number count => toString count
  | .quoted text => Text.quoted text
  | .plain text => text

/-- The value as JSON. -/
def Value.json : Value → String
  | .number count => Text.jsonNumber count
  | .quoted text => Text.jsonString text
  | .plain text => Text.jsonString text

/-- One thing that happened. -/
structure Record where
  level : Level
  target : String
  message : String
  fields : List (String × Value)
  deriving DecidableEq, Repr

/-- The forms a record can be printed in. -/
inductive Format where
  | text
  | json
  deriving DecidableEq, Repr

/-- The name of a format on the command line. -/
def Format.name : Format → String
  | .text => "text"
  | .json => "json"

namespace Record

/-- The names of all values of a record, the message among them. -/
def fieldNames (record : Record) : List String :=
  "message" :: record.fields.map Prod.fst

/-- The record as a line of text. -/
def textLine (record : Record) : String :=
  record.level.name ++ " " ++ record.target ++ ": " ++
    " ".intercalate
      (record.message :: record.fields.map fun field => field.1 ++ "=" ++ field.2.text)

/-- The record as a JSON object. -/
def jsonLine (record : Record) : String :=
  Text.jsonObject
    [("level", Text.jsonString record.level.name),
      ("target", Text.jsonString record.target),
      ("fields", Text.jsonObject
        (("message", Text.jsonString record.message) ::
          record.fields.map fun field => (field.1, field.2.json)))]

/-- The record as one line in a format. -/
def line (record : Record) : Format → String
  | .text => record.textLine
  | .json => record.jsonLine

end Record

end PermitFilter.Log
