import PermitFilter.Text.Blank
import PermitFilter.Text.CodePoints

/-!
# Patterns

A pattern describes texts: parts follow each other, alternatives stand between
bars, parentheses make a group, a class in brackets stands for any of its
characters, and a question mark, an asterisk or a plus sign repeats what stands in
front of it. What matters here is only whether a pattern is well formed.

A pattern is written inside braces, so it holds no closing brace. Whatever would
need one is malformed: a counted repetition, or a character or a property between
braces.

A pattern is read under flags, which it can switch itself: whether letters match
in either case, whether it speaks of characters or of bytes, and whether it is
spread out with blanks and comments between its parts. The other flags change
what a pattern matches, never whether it is well formed.

There are no tables behind a pattern. So it knows neither classes nor words nor
cases of Unicode characters, and speaks of them only where it speaks of bytes. A
part that could match a piece of a character is refused as well.

A class in brackets holds characters, ranges between two characters, named classes
such as `[:alpha:]`, and further classes in brackets. A doubled ampersand, dash or
tilde combines what stands on its two sides. A caret behind the opening bracket
negates the class; dashes there, or a closing bracket, stand for themselves.
-/

set_option autoImplicit false

namespace PermitFilter.Pattern

/-! ## Flags -/

/-- The flags in force at a place of a pattern. -/
structure Flags where
  /-- Letters match in either case. -/
  caseless : Bool
  /-- The pattern speaks of characters, not of bytes. -/
  unicode : Bool
  /-- Blanks and comments stand between the parts. -/
  spread : Bool
  deriving DecidableEq, Repr

/-- Something that can be switched on and off. -/
inductive Flag where
  | caseless
  | multiline
  | dotMatchesAll
  | swappedGreed
  | unicode
  | windowsLines
  | spread
  deriving DecidableEq, Repr

/-- The flag a letter stands for. -/
def Flag.ofLetter? : Char → Option Flag
  | 'i' => some .caseless
  | 'm' => some .multiline
  | 's' => some .dotMatchesAll
  | 'U' => some .swappedGreed
  | 'u' => some .unicode
  | 'R' => some .windowsLines
  | 'x' => some .spread
  | _ => none

/-- Reads the letters of flags up to a colon or a closing parenthesis, which is
the character returned. Letters behind a dash are switched off. A letter or the
dash must not come twice, and the dash must not come last. -/
def readSwitches (negated dangling : Bool) (read : List (Flag × Bool)) :
    List Char → Option (List (Flag × Bool) × Char × List Char)
  | [] => none
  | c :: rest =>
    if c == ':' || c == ')' then if dangling then none else some (read, c, rest)
    else if c == '-' then if negated then none else readSwitches true true read rest
    else
      match Flag.ofLetter? c with
      | none => none
      | some flag =>
        if read.any fun switch => switch.1 = flag then none
        else readSwitches negated false ((flag, !negated) :: read) rest

namespace Flags

/-- The flags at the start of a pattern. -/
def standard : Flags where
  caseless := false
  unicode := true
  spread := false

/-- The flags with one of them switched. -/
def switch (flags : Flags) : Flag × Bool → Flags
  | (.caseless, value) => { flags with caseless := value }
  | (.unicode, value) => { flags with unicode := value }
  | (.spread, value) => { flags with spread := value }
  | _ => flags

/-- The flags after some switches. -/
def switchAll (flags : Flags) (switches : List (Flag × Bool)) : Flags :=
  switches.foldl switch flags

/-- A text without the blanks and comments in front of it. A comment runs from a
number sign to the end of the line. -/
def withoutRemarks (inComment : Bool) : List Char → List Char
  | [] => []
  | c :: rest =>
    if inComment then withoutRemarks (c != '\n') rest
    else if Text.isBlank c then withoutRemarks false rest
    else if c == '#' then withoutRemarks true rest
    else c :: rest

/-- What there is to read next. -/
def skip (flags : Flags) (text : List Char) : List Char :=
  if flags.spread then withoutRemarks false text else text

end Flags

/-! ## Atoms -/

/-- A smallest part of a pattern. -/
inductive Atom where
  /-- A character for itself; `byte` if it is written by two hexadecimal digits. -/
  | literal (c : Char) (byte : Bool)
  /-- Any character. -/
  | dot
  /-- The start or the end of a line or of the text. -/
  | edge
  /-- The start or the end of a word, or neither. -/
  | wordEdge
  /-- Digits, blanks or word characters, or all others. -/
  | kind (negated : Bool)
  deriving DecidableEq, Repr

namespace Atom

/-- Whether an atom can stand on its own. -/
def isAdmitted (flags : Flags) : Atom → Bool
  | .literal c byte =>
    if flags.unicode then !flags.caseless else !byte || decide (c.toNat < 0x80)
  | .dot => flags.unicode
  | .edge => true
  | .wordEdge => !flags.unicode
  | .kind negated => !flags.unicode && !negated

/-- Whether an atom can stand in a class. -/
def isAdmittedInClass (flags : Flags) : Atom → Bool
  | .literal c _ => if flags.unicode then !flags.caseless else decide (c.toNat < 0x80)
  | .kind negated => !flags.unicode && !negated
  | _ => false

end Atom

/-! ## Escapes -/

/-- The value of a hexadecimal digit. -/
def hexValue? (c : Char) : Option Nat :=
  if '0' ≤ c ∧ c ≤ '9' then some (c.toNat - '0'.toNat)
  else if 'a' ≤ c ∧ c ≤ 'f' then some (c.toNat - 'a'.toNat + 10)
  else if 'A' ≤ c ∧ c ≤ 'F' then some (c.toNat - 'A'.toNat + 10)
  else none

/-- Reads a given number of hexadecimal digits behind a value. -/
def readHexadecimal (flags : Flags) : Nat → Nat → List Char → Option (Nat × List Char)
  | 0, value, text => some (value, text)
  | count + 1, value, text =>
    match flags.skip text with
    | [] => none
    | c :: rest =>
      match hexValue? c with
      | none => none
      | some digit => readHexadecimal flags count (value * 16 + digit) rest

/-- Reads the number of a character. -/
def readCode (flags : Flags) (digits : Nat) (text : List Char) : Option (Atom × List Char) :=
  match readHexadecimal flags digits 0 text with
  | none => none
  | some (code, rest) =>
    if code.isValidChar then some (.literal (Char.ofNat code) (digits == 2), rest) else none

/-- The atom that a single character behind a backslash stands for. A letter or
a digit without a meaning is none. -/
def escapedAtom? (c : Char) : Option Atom :=
  match c with
  | 'a' => some (.literal '\x07' false)
  | 'f' => some (.literal '\x0c' false)
  | 't' => some (.literal '\t' false)
  | 'n' => some (.literal '\n' false)
  | 'r' => some (.literal '\r' false)
  | 'v' => some (.literal '\x0b' false)
  | 'A' | 'z' => some .edge
  | 'b' | 'B' | '<' | '>' => some .wordEdge
  | 'd' | 's' | 'w' => some (.kind false)
  | 'D' | 'S' | 'W' => some (.kind true)
  | _ => if c.toNat < 0x80 ∧ !c.isAlphanum then some (.literal c false) else none

/-- Reads what stands behind a backslash. -/
def readEscape (flags : Flags) : List Char → Option (Atom × List Char)
  | [] => none
  | 'x' :: rest => readCode flags 2 rest
  | 'u' :: rest => readCode flags 4 rest
  | 'U' :: rest => readCode flags 8 rest
  | c :: rest => (escapedAtom? c).map fun atom => (atom, rest)

/-! ## Reading in steps -/

/-- What a step of reading comes to. -/
inductive Step (σ ρ : Type) where
  /-- There is more to read. -/
  | next (state : σ) (rest : List Char)
  /-- The part is read to its end. -/
  | finished (result : ρ) (rest : List Char)
  | malformed

/-- Takes steps until the part is read to its end. Each step has to read
something. -/
def scan {σ ρ : Type} (step : σ → List Char → Step σ ρ) (state : σ) (text : List Char) :
    Option (ρ × List Char) :=
  match step state text with
  | .malformed => none
  | .finished result rest => some (result, rest)
  | .next later rest => if rest.length < text.length then scan step later rest else none
termination_by text.length

/-- Parts side by side: how many there are, and how deep the deepest is nested. -/
structure Row where
  count : Nat
  deepest : Nat
  deriving DecidableEq, Repr

namespace Row

/-- No parts. -/
def empty : Row where
  count := 0
  deepest := 0

/-- The row with one more part. -/
def add (row : Row) (depth : Nat) : Row where
  count := row.count + 1
  deepest := max row.deepest depth

/-- How deep the row is nested: several parts side by side make up a level. -/
def depth (row : Row) : Nat :=
  if row.count ≤ 1 then row.deepest else row.deepest + 1

end Row

end PermitFilter.Pattern

/-! ## Classes -/

namespace PermitFilter.Pattern.Class

/-! ## Members -/

/-- The names of named classes. -/
def names : List String :=
  ["alnum", "alpha", "ascii", "blank", "cntrl", "digit", "graph", "lower", "print", "punct",
   "space", "upper", "word", "xdigit"]

/-- Reads a named class from behind its opening bracket on, and says whether it is
negated. -/
def readNamed : List Char → Option (Bool × List Char)
  | ':' :: rest =>
    let (negated, rest) := match rest with
      | '^' :: rest => (true, rest)
      | rest => (false, rest)
    match rest.span (· != ':') with
    | (name, ':' :: ']' :: after) =>
      if names.contains (String.ofList name) then some (negated, after) else none
    | _ => none
  | _ => none

/-- Whether a named class can stand in a class. -/
def isNamedAdmitted (flags : Flags) (negated : Bool) : Bool :=
  if flags.unicode then !flags.caseless else !negated

/-- Reads a single member. -/
def readAtom (flags : Flags) : List Char → Option (Atom × List Char)
  | [] => none
  | '\\' :: rest => readEscape flags rest
  | c :: rest => some (.literal c false, rest)

/-- The next character that is no blank behind a dash. A number sign in front of
it is passed over. -/
def glance (flags : Flags) (behind : List Char) : Option Char :=
  if flags.spread then
    let text := match behind.dropWhile Text.isBlank with
      | '#' :: rest => rest.dropWhile Text.isBlank
      | rest => rest
    if text.isEmpty then behind.head? else text.head?
  else behind.head?

/-- Whether two atoms are the ends of a range. -/
def isRange (flags : Flags) : Atom → Atom → Bool
  | .literal first byte, .literal last byte' =>
    decide (first ≤ last) && (Atom.literal first byte).isAdmittedInClass flags &&
      (Atom.literal last byte').isAdmittedInClass flags
  | _, _ => false

/-- Reads a member or a range, and returns what stands behind it. A dash makes a
range unless a closing bracket or another dash follows. -/
def readMember (flags : Flags) (text : List Char) : Option (List Char) :=
  match readAtom flags text with
  | none => none
  | some (atom, rest) =>
    let single := fun after => if atom.isAdmittedInClass flags then some after else none
    match flags.skip rest with
    | [] => none
    | '-' :: behind =>
      if glance flags behind = some ']' ∨ glance flags behind = some '-' then
        single ('-' :: behind)
      else
        match flags.skip behind with
        | [] => none
        | after =>
          match readAtom flags after with
          | none => none
          | some (last, rest) => if isRange flags atom last then some rest else none
    | after => single after

/-! ## Nested classes -/

/-- A class of which the closing bracket is not read yet. -/
structure Pending where
  /-- The members behind the last operator. -/
  row : Row
  /-- How deep the part in front of the last operator is nested, if there is one. -/
  left : Option Nat
  deriving DecidableEq, Repr

namespace Pending

/-- A class of which only the opening bracket is read. -/
def empty : Pending where
  row := .empty
  left := none

/-- The class with one more member. -/
def add (pending : Pending) (depth : Nat) : Pending :=
  { pending with row := pending.row.add depth }

/-- How deep the members are nested. -/
def depth (pending : Pending) : Nat :=
  match pending.left with
  | none => pending.row.depth
  | some left => max left pending.row.depth + 1

/-- The class after an operator. -/
def operate (pending : Pending) : Pending where
  row := .empty
  left := some pending.depth

end Pending

/-- The class that is being read and those around it. -/
structure State where
  inner : Pending
  outer : List Pending
  /-- Whether dashes and a closing bracket still stand for themselves. -/
  opening : Bool
  deriving DecidableEq, Repr

/-- The start of a class inside others. -/
def State.entering (outer : List Pending) : State where
  inner := .empty
  outer := outer
  opening := true

/-- The state with one more member in the inner class. -/
def State.add (state : State) (depth : Nat) (opening : Bool) : State :=
  { state with inner := state.inner.add depth, opening }

/-- Reads the caret behind an opening bracket. Among bytes no class is negated. -/
def readCaret (flags : Flags) (text : List Char) : Option (List Char) :=
  match flags.skip text with
  | '^' :: rest => if flags.unicode then some rest else none
  | rest => some rest

/-- Reads the next part of a class. -/
def step (flags : Flags) (state : State) (text : List Char) : Step State Nat :=
  match flags.skip text with
  | [] => .malformed
  | c :: rest =>
    if state.opening && (c == '-' || (c == ']' && state.inner.row.count == 0)) then
      if (Atom.literal c false).isAdmittedInClass flags then .next (state.add 0 (c == '-')) rest
      else .malformed
    else
      match c, rest with
      | '[', rest =>
        match readNamed rest with
        | some (negated, after) =>
          if isNamedAdmitted flags negated then .next (state.add 0 false) after else .malformed
        | none =>
          match readCaret flags rest with
          | none => .malformed
          | some after => .next (.entering (state.inner :: state.outer)) after
      | ']', rest =>
        let depth := state.inner.depth + 1
        match state.outer with
        | [] => .finished depth rest
        | inner :: outer => .next { inner := inner.add depth, outer, opening := false } rest
      | '&', '&' :: rest | '-', '-' :: rest | '~', '~' :: rest =>
        .next { state with inner := state.inner.operate, opening := false } rest
      | c, rest =>
        match readMember flags (c :: rest) with
        | none => .malformed
        | some after => .next (state.add 0 false) after

/-- Reads a class from behind its opening bracket on, and says how deep it is
nested. -/
def read (flags : Flags) (text : List Char) : Option (Nat × List Char) :=
  match readCaret flags text with
  | none => none
  | some rest => scan (step flags) (.entering []) rest

end PermitFilter.Pattern.Class

/-! ## Groups and patterns -/

namespace PermitFilter.Pattern

/-- A group of which the closing parenthesis is not read yet. The pattern as a
whole is one. -/
structure Group where
  flags : Flags
  /-- The parts of the alternative that is being read. -/
  row : Row
  /-- The alternatives in front of it. -/
  alternatives : Row
  /-- How deep the last part is nested, if it can be repeated. -/
  repeatable : Option Nat
  deriving DecidableEq, Repr

namespace Group

/-- A group of which nothing is read. -/
def start (flags : Flags) : Group where
  flags := flags
  row := .empty
  alternatives := .empty
  repeatable := none

/-- The group with one more part. -/
def add (group : Group) (depth : Nat) : Group :=
  { group with row := group.row.add depth, repeatable := some depth }

/-- The group after a change of flags, which is a part that cannot be repeated. -/
def change (group : Group) (flags : Flags) : Group :=
  { group with flags, row := group.row.add 0, repeatable := none }

/-- The group after a bar. -/
def alternate (group : Group) : Group :=
  { group with
    row := .empty
    alternatives := group.alternatives.add group.row.depth
    repeatable := none }

/-- The group with its last part repeated, if that can be. -/
def repeatLast? (group : Group) : Option Group :=
  group.repeatable.map fun depth =>
    { group with
      row := { group.row with deepest := max group.row.deepest (depth + 1) }
      repeatable := some (depth + 1) }

/-- How deep the content of the group is nested. -/
def depth (group : Group) : Nat :=
  if group.alternatives.count = 0 then group.row.depth
  else (group.alternatives.add group.row.depth).deepest + 1

end Group

/-- The group that is being read, those around it, and the names given to groups
so far. -/
structure State where
  inner : Group
  outer : List Group
  names : List String
  deriving DecidableEq, Repr

namespace State

/-- The state in front of a pattern. -/
def start : State where
  inner := .start .standard
  outer := []
  names := []

/-- The state with one more part in the inner group. -/
def add (state : State) (depth : Nat) : State :=
  { state with inner := state.inner.add depth }

/-- The state inside a new group. -/
def enter (state : State) (flags : Flags) : State :=
  { state with inner := .start flags, outer := state.inner :: state.outer }

end State

/-! ## Opening a group -/

/-- Whether a text can name a group: a letter or an underscore, and then letters,
numbers, underscores, dots and brackets. -/
def isGroupName : List Char → Bool
  | [] => false
  | first :: rest =>
    (first == '_' || Text.isAlphabetic first) &&
      rest.all fun c => c == '_' || c == '.' || c == '[' || c == ']' || Text.isAlphanumeric c

/-- Reads the name of a group up to a closing angle bracket. -/
def readName (state : State) (text : List Char) : Step State Nat :=
  match text.span (· != '>') with
  | (name, _ :: rest) =>
    if isGroupName name && !state.names.contains (String.ofList name) then
      .next { state.enter state.inner.flags with names := String.ofList name :: state.names } rest
    else .malformed
  | (_, []) => .malformed

/-- Reads the flags behind a question mark. They hold for a group of their own or,
if a parenthesis closes them, for the rest of the group around them. -/
def readFlags (state : State) (text : List Char) : Step State Nat :=
  match readSwitches false false [] text with
  | none => .malformed
  | some (switches, closing, rest) =>
    let flags := state.inner.flags.switchAll switches
    if closing == ':' then .next (state.enter flags) rest
    else if switches.isEmpty then .malformed
    else .next { state with inner := state.inner.change flags } rest

/-- Reads what stands behind an opening parenthesis. -/
def openGroup (state : State) (text : List Char) : Step State Nat :=
  match state.inner.flags.skip text with
  | '?' :: 'P' :: '<' :: rest => readName state rest
  | '?' :: '<' :: rest => readName state rest
  | '?' :: rest => readFlags state rest
  | rest => .next (state.enter state.inner.flags) rest

/-! ## Reading a pattern -/

/-- Takes an atom as a part. -/
def takeAtom (state : State) (atom : Atom) (rest : List Char) : Step State Nat :=
  if atom.isAdmitted state.inner.flags then .next (state.add 0) rest else .malformed

/-- Reads the next part of a pattern. -/
def step (state : State) (text : List Char) : Step State Nat :=
  match state.inner.flags.skip text with
  | [] => if state.outer.isEmpty then .finished state.inner.depth [] else .malformed
  | '(' :: rest => openGroup state rest
  | ')' :: rest =>
    match state.outer with
    | [] => .malformed
    | group :: outer =>
      .next { state with inner := group.add (state.inner.depth + 1), outer } rest
  | '|' :: rest => .next { state with inner := state.inner.alternate } rest
  | '[' :: rest =>
    match Class.read state.inner.flags rest with
    | none => .malformed
    | some (depth, after) => .next (state.add depth) after
  | '{' :: _ => .malformed
  | '\\' :: rest =>
    match readEscape state.inner.flags rest with
    | none => .malformed
    | some (atom, after) => takeAtom state atom after
  | c :: rest =>
    if c == '?' || c == '*' || c == '+' then
      match state.inner.repeatLast? with
      | none => .malformed
      | some inner =>
        let after := match rest with
          | '?' :: after => after
          | after => after
        .next { state with inner } after
    else if c == '.' then takeAtom state .dot rest
    else if c == '^' || c == '$' then takeAtom state .edge rest
    else takeAtom state (.literal c false) rest

/-- How deep a pattern may be nested. -/
def depthLimit : Nat := 250

/-- Whether a text is a well-formed pattern. -/
def isWellFormed (text : List Char) : Bool :=
  match scan step .start text with
  | none => false
  | some (depth, _) => depth ≤ depthLimit

end PermitFilter.Pattern
