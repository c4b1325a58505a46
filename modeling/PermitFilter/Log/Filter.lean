import PermitFilter.Log
import PermitFilter.Pattern

/-!
# Log filters

A filter is a list of directives between commas. Of the directives that apply to
a record the most specific decides, and of equal ones the last. A filter without
directives lets errors through and nothing else.

A directive is a level, which holds for every record; a target, which lets every
record of that target through; or a target and a level between which stands an
equals sign. Behind the target, in brackets, a directive can be limited to a span
of work, or to records that hold a value of a given name. A level is spelled by its
name in any case, by its number, or by a word or number for none.

A directive is understood from its text without the blanks at its ends. But its
pieces are cut from the whole text, each at the place it has in the shorter one, and
places are counted in bytes. So blanks behind a level spoil it, and blanks in front
shift every piece towards the start: such a directive has a target that no record has.
-/

set_option autoImplicit false

namespace PermitFilter.Text

/-! ## Byte offsets -/

/-- The number of bytes a text takes. -/
def byteSize : List Char → Nat
  | [] => 0
  | c :: rest => c.utf8Size + byteSize rest

/-- The text behind a place. -/
def dropBytes? : Nat → List Char → Option (List Char)
  | 0, text => some text
  | _ + 1, [] => none
  | bytes + 1, c :: rest =>
    if c.utf8Size ≤ bytes + 1 then dropBytes? (bytes + 1 - c.utf8Size) rest else none

/-- The text in front of a place. -/
def takeBytes? : Nat → List Char → Option (List Char)
  | 0, _ => some []
  | _ + 1, [] => none
  | bytes + 1, c :: rest =>
    if c.utf8Size ≤ bytes + 1 then (takeBytes? (bytes + 1 - c.utf8Size) rest).map (c :: ·)
    else none

/-- The piece of a text from one place to another. -/
def piece? (text : List Char) (start stop : Nat) : Option (List Char) :=
  (dropBytes? start text).bind (takeBytes? (stop - start))

end PermitFilter.Text

/-! ## Thresholds -/

namespace PermitFilter.Log

/-- The least grave level that is let through, if any is. -/
abbrev Threshold := Option Level

namespace Threshold

/-- Whether a record of a level is let through. -/
def admits (threshold : Threshold) (level : Level) : Bool :=
  match threshold with
  | none => false
  | some least => level.verbosity ≤ least.verbosity

/-- The threshold a number stands for. -/
def ofNumber? (number : Nat) : Option Threshold :=
  if number = 0 then some none
  else (Level.all.find? fun level => level.verbosity = number).map some

/-- The threshold a name stands for, in any case. -/
def ofName? (word : String) : Option Threshold :=
  let lower := word.map Char.toLower
  if lower = "off" then some none
  else (Level.all.find? fun level => level.name.map Char.toLower = lower).map some

/-- The number a run of digits spells; a plus sign may stand in front. -/
def numeral? (word : String) : Option Nat :=
  let digits := match word.toList with
    | '+' :: digits => digits
    | digits => digits
  if digits.isEmpty || !digits.all Char.isDigit then none
  else some (digits.foldl (fun value digit => value * 10 + (digit.toNat - '0'.toNat)) 0)

/-- The threshold a word stands for. -/
def ofWord? (word : String) : Option Threshold :=
  match (numeral? word).bind ofNumber? with
  | some threshold => some threshold
  | none => ofName? word

end Threshold

/-! ## Directives -/

/-- What limits a directive besides its target. -/
inductive Scope where
  | everywhere
  /-- Records that hold a value of this name. -/
  | field (name : String)
  /-- Records made within a certain span of work. No record of this program is. -/
  | span
  deriving DecidableEq, Repr

/-- One part of a filter. -/
structure Directive where
  target : Option String
  scope : Scope
  threshold : Threshold
  deriving DecidableEq, Repr

/-! ## Places of the pieces -/

/-- What stands in the brackets of a directive. -/
inductive Bracket where
  /-- The name of a span. -/
  | span
  /-- A field in braces, from one place to another, maybe behind the name of a
  span. -/
  | field (spanNamed : Bool) (start stop : Nat)
  deriving DecidableEq, Repr

/-- The places of the pieces of a directive, in bytes from the start. -/
inductive Outline where
  /-- A level, or a target and nothing else. -/
  | word
  /-- A target and a level. -/
  | leveled (targetStop levelStart : Nat)
  /-- Brackets, with a target in front or a level behind if there are any. -/
  | scoped (targetStop : Option Nat) (bracket : Bracket) (levelStart : Option Nat)
  deriving DecidableEq, Repr

namespace Outline

/-- Whether a character can open a target or a level. -/
def opens (c : Char) : Bool :=
  c == '-' || c == ':' || c == '_' || Text.isAlphanumeric c

/-- The text in front of the first character that stops, that character, and the
text behind it. -/
def cut? (stops : Char → Bool) (text : List Char) : Option (List Char × Char × List Char) :=
  match text.span fun c => !stops c with
  | (before, stop :: after) => some (before, stop, after)
  | (_, []) => none

/-- An outline with brackets, from what stands behind the closing one. -/
def closed? (targetStop : Option Nat) (bracket : Bracket) (place : Nat) :
    List Char → Option Outline
  | [] => some (.scoped targetStop bracket none)
  | '=' :: _ => some (.scoped targetStop bracket (some (place + 1)))
  | _ => none

/-- An outline with brackets, from what stands behind the opening one. -/
def bracketed? (targetStop : Option Nat) (place : Nat) (text : List Char) : Option Outline :=
  match cut? (fun c => c == ']' || c == '\x7b') text with
  | none => none
  | some (name, ']', after) =>
    closed? targetStop .span (place + Text.byteSize name + 1) after
  | some (name, _, braced) =>
    match cut? (· == '\x7d') braced with
    | some (field, _, ']' :: after) =>
      let start := place + Text.byteSize name + 1
      let stop := start + Text.byteSize field
      if field.isEmpty then none
      else closed? targetStop (.field (!name.isEmpty) start stop) (stop + 2) after
    | _ => none

/-- The outline of a text without blanks at its ends, if it is well formed. -/
def ofText? (text : List Char) : Option Outline :=
  match text with
  | [] => none
  | '[' :: rest => bracketed? none 1 rest
  | first :: rest =>
    if !opens first then none
    else
      match cut? (fun c => c == '=' || c == '[') rest with
      | none => some .word
      | some (before, stop, after) =>
        let targetStop := Text.byteSize (first :: before)
        if stop == '=' then some (.leveled targetStop (targetStop + 1))
        else bracketed? (some targetStop) (targetStop + 1) after

end Outline

/-! ## Values of fields -/

/-- A text without the sign in front of it. -/
def withoutSign : List Char → List Char
  | '+' :: rest => rest
  | '-' :: rest => rest
  | text => text

/-- Whether a text is empty or an exponent of ten. -/
def isExponent : List Char → Bool
  | [] => true
  | mark :: rest =>
    let digits := withoutSign rest
    (mark == 'e' || mark == 'E') && !digits.isEmpty && digits.all Char.isDigit

/-- Whether a text is a number: digits with at most one point among them, maybe with
a sign and an exponent, or a word for what is no finite number. -/
def isNumber (text : List Char) : Bool :=
  let bare := withoutSign text
  let whole := bare.takeWhile Char.isDigit
  ["inf", "infinity", "nan"].contains (String.ofList (bare.map Char.toLower)) ||
    match bare.dropWhile Char.isDigit with
    | '.' :: rest =>
      !(whole ++ rest.takeWhile Char.isDigit).isEmpty &&
        isExponent (rest.dropWhile Char.isDigit)
    | rest => !whole.isEmpty && isExponent rest

/-- Whether a text can be the value of a field. Most numbers are patterns as well,
but not those with a plus sign in front. -/
def isFieldValue (text : List Char) : Bool :=
  isNumber text || Pattern.isWellFormed text

namespace Scope

/-- The scope of a field in braces: a name, or a name and a value between which
stands an equals sign. A further equals sign ends the value. No record is compared
with a value, which belongs to a span. -/
def ofField? (spanNamed : Bool) (field : List Char) : Option Scope :=
  match field.span (· != '=') with
  | (name, []) => some (if spanNamed then .span else .field (String.ofList name))
  | (_, _ :: rest) =>
    if isFieldValue (rest.takeWhile (· != '=')) then some .span else none

/-- The scope that stands in brackets. -/
def ofBracket? (text : List Char) : Bracket → Option Scope
  | .span => some .span
  | .field spanNamed start stop => (Text.piece? text start stop).bind (ofField? spanNamed)

end Scope

namespace Directive

/-! ## Reading -/

/-- A directive of one word: a level if it names one, and else a target. -/
def ofWord (word : String) : Directive :=
  match Threshold.ofWord? word with
  | some threshold => { target := none, scope := .everywhere, threshold }
  | none => { target := some word, scope := .everywhere, threshold := some .trace }

/-- The target that ends at a place. -/
def target? (text : List Char) (stop : Nat) : Option String :=
  (Text.piece? text 0 stop).map String.ofList

/-- The threshold from a place on. Nothing there stands for everything. -/
def threshold? (text : List Char) (start : Nat) : Option Threshold := do
  let word ← Text.dropBytes? start text
  if word.isEmpty then some (some .trace) else Threshold.ofWord? (String.ofList word)

/-- The directive whose pieces have their places in a text. -/
def ofOutline? (text : List Char) : Outline → Option Directive
  | .word => some (ofWord (String.ofList text))
  | .leveled targetStop levelStart => do
    let target ← target? text targetStop
    let threshold ← threshold? text levelStart
    return { target := some target, scope := .everywhere, threshold }
  | .scoped targetStop bracket levelStart => do
    let target ← match targetStop with
      | none => some none
      | some stop => (target? text stop).map some
    let scope ← Scope.ofBracket? text bracket
    let threshold ← match levelStart with
      | none => some (some .trace)
      | some start => threshold? text start
    return { target, scope, threshold }

/-- The directive a text spells, if it is well formed. -/
def ofText? (text : String) : Option Directive :=
  (Outline.ofText? (Text.trim text).toList).bind (ofOutline? text.toList)

/-! ## Applying -/

/-- Whether a record comes from the target of a directive: its own target starts
with that text. -/
def targets (directive : Directive) (record : Record) : Bool :=
  match directive.target with
  | none => true
  | some target => target.toList.isPrefixOf record.target.toList

/-- Whether a record is in the scope of a directive. -/
def covers (directive : Directive) (record : Record) : Bool :=
  match directive.scope with
  | .everywhere => true
  | .field name => record.fieldNames.contains name
  | .span => false

/-- How much a directive says about the target, and then about the values, of
the records it applies to. -/
def specificity (directive : Directive) : Nat × Nat × String :=
  let length := match directive.target with
    | none => 0
    | some target => target.length + 1
  match directive.scope with
  | .field name => (length, 1, name)
  | _ => (length, 0, "")

/-- Whether a directive gives way to a later one. -/
def yieldsTo (earlier later : Directive) : Bool :=
  let (target, fields, name) := earlier.specificity
  let (target', fields', name') := later.specificity
  target < target' || (target == target' &&
    (fields < fields' || (fields == fields' && (name < name' || name == name'))))

end Directive

/-! ## Filters -/

/-- A list of directives, in the order they are written. -/
structure Filter where
  directives : List Directive
  deriving DecidableEq, Repr

namespace Filter

/-- The texts between the commas, without empty ones. -/
def parts (text : String) : List String :=
  ((text.toList.splitOn ',').filter fun part => !part.isEmpty).map String.ofList

/-- The filter a text spells, if each of its parts is well formed. -/
def ofText? (text : String) : Option Filter :=
  ((parts text).mapM Directive.ofText?).map Filter.mk

/-- The filter of the well-formed parts of a text. -/
def ofWellFormedParts (text : String) : Filter where
  directives := (parts text).filterMap Directive.ofText?

/-- The directive that holds where there are none: errors are let through. -/
def fallback : Directive where
  target := none
  scope := .everywhere
  threshold := some .error

/-- The directive that decides about a record. -/
def deciding? (filter : Filter) (record : Record) : Option Directive :=
  let directives := if filter.directives.isEmpty then [fallback] else filter.directives
  let applying := directives.filter fun directive =>
    directive.targets record && directive.covers record
  applying.foldl
    (fun best directive =>
      match best with
      | none => some directive
      | some best => if best.yieldsTo directive then some directive else some best)
    none

/-- Whether a record is let through. -/
def admits (filter : Filter) (record : Record) : Bool :=
  match filter.deciding? record with
  | none => false
  | some directive => directive.threshold.admits record.level

end Filter

end PermitFilter.Log
