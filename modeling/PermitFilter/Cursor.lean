/-!
# Cursors over words

A cursor stands in front of one of the words of a list, or behind the last. It
moves forward only; a place is kept by keeping the cursor. What it has still to
read is `remaining`.
-/

set_option autoImplicit false

namespace PermitFilter

/-- A place in a list of words. -/
structure Cursor where
  words : List String
  position : Nat
  deriving DecidableEq, Repr

namespace Cursor

/-- The cursor in front of the first word. -/
def ofWords (words : List String) : Cursor where
  words := words
  position := 0

/-- The words still to be read. -/
def remaining (cursor : Cursor) : List String :=
  cursor.words.drop cursor.position

/-- The next word, which stays unread. -/
def current? (cursor : Cursor) : Option String :=
  cursor.words[cursor.position]?

/-- Reads the next word. -/
def read (cursor : Cursor) : Option String × Cursor :=
  match cursor.current? with
  | none => (none, cursor)
  | some word => (some word, { cursor with position := cursor.position + 1 })

/-- Reads the next word if it is the keyword, and says whether it was. -/
def readIf (cursor : Cursor) (keyword : String) : Bool × Cursor :=
  if cursor.current? = some keyword then (true, cursor.read.2) else (false, cursor)

/-- Reads the next word, whose absence is the given error. -/
def require {ε : Type} (cursor : Cursor) (absent : ε) : Except ε (String × Cursor) :=
  match cursor.read with
  | (none, _) => .error absent
  | (some word, next) => .ok (word, next)

/-- Reads all the words left, and keeps those in front of the first that equals
`stop`. -/
def readUntil (cursor : Cursor) (stop : String) : List String × Cursor :=
  (cursor.remaining.takeWhile (· ≠ stop), { cursor with position := cursor.words.length })

/-! ## Operations through the remaining words -/

@[simp]
theorem remaining_ofWords (words : List String) : (ofWords words).remaining = words :=
  rfl

theorem current?_eq_head? (cursor : Cursor) : cursor.current? = cursor.remaining.head? := by
  simp [current?, remaining, List.head?_drop]

theorem remaining_read (cursor : Cursor) : cursor.read.2.remaining = cursor.remaining.tail := by
  cases found : cursor.current? with
  | none =>
    have nothing : cursor.remaining = [] := by
      rw [current?_eq_head?, List.head?_eq_none_iff] at found
      exact found
    simp [read, found, nothing]
  | some word => simp [read, found, remaining, List.tail_drop]

@[simp]
theorem remaining_readUntil (cursor : Cursor) (stop : String) :
    (cursor.readUntil stop).2.remaining = [] := by
  simp [readUntil, remaining]

end Cursor

end PermitFilter

/-! ## Sessions -/

namespace PermitFilter.Cursor

/-- One operation of a session. -/
inductive Step where
  | current
  | read
  | readIf (keyword : String)
  | require (absent : String)
  | readUntil (stop : String)
  /-- Keeps the present place. -/
  | keep
  /-- Goes back to the place kept last. -/
  | goBack
  deriving DecidableEq, Repr

/-- What an operation answers. -/
inductive Answer where
  | word (found : Option String)
  | verdict (holds : Bool)
  | required (found : Except String String)
  | words (found : List String)
  | nothing

/-- The cursor in use and the places kept, the latest first. -/
structure Session where
  cursor : Cursor
  kept : List Cursor
  deriving DecidableEq, Repr

namespace Session

/-- A session in front of the first word. -/
def start (words : List String) : Session where
  cursor := .ofWords words
  kept := []

/-- Runs one operation. -/
def step (session : Session) : Step → Answer × Session
  | .current => (.word session.cursor.current?, session)
  | .read =>
    let (word, cursor) := session.cursor.read
    (.word word, { session with cursor })
  | .readIf keyword =>
    let (matched, cursor) := session.cursor.readIf keyword
    (.verdict matched, { session with cursor })
  | .require absent =>
    match session.cursor.require absent with
    | .error reason => (.required (.error reason), session)
    | .ok (word, cursor) => (.required (.ok word), { session with cursor })
  | .readUntil stop =>
    let (words, cursor) := session.cursor.readUntil stop
    (.words words, { session with cursor })
  | .keep => (.nothing, { session with kept := session.cursor :: session.kept })
  | .goBack =>
    match session.kept with
    | [] => (.verdict false, session)
    | cursor :: kept => (.verdict true, { cursor, kept })

/-- Runs the operations in order, with each answer and the words left behind
it. -/
def run : Session → List Step → List (Answer × List String)
  | _, [] => []
  | session, step :: steps =>
    let (answer, next) := session.step step
    (answer, next.cursor.remaining) :: next.run steps

end Session

end PermitFilter.Cursor
