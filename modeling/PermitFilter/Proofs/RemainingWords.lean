import PermitFilter.Proofs.RuleGrammar

/-!
# Cursors and the words they leave

A cursor is a place in a list of words. What can be asked of it depends only on the
words behind that place: each operation answers by the list that remains and leaves
a later part of it (`Cursor.acts_perform`), and it never goes behind the end
(`Cursor.StandsIn.perform`). In a given list the words that remain tell the place
(`Cursor.StandsIn.eq_of_remaining_eq`), so an operation that leaves them all leaves
the cursor as it was.

Reading up to a word is said at one stroke, by the words in front of it and the end of
the list. It is the same as reading one word after another, until that word or the end
is met (`Cursor.readsUpTo_iff`).
-/

set_option autoImplicit false

namespace PermitFilter

namespace Cursor

variable {ε : Type} {words : List String} {cursor : Cursor}

/-! ## Places in a list -/

/-- A cursor that stands in a list, in front of one of its words or behind the last. -/
structure StandsIn (cursor : Cursor) (words : List String) : Prop where
  words_eq : cursor.words = words
  position_le : cursor.position ≤ words.length

/-- The words in front of a cursor. -/
def passed (cursor : Cursor) : List String :=
  cursor.words.take cursor.position

theorem passed_append_remaining (cursor : Cursor) :
    cursor.passed ++ cursor.remaining = cursor.words :=
  List.take_append_drop _ _

theorem standsIn_ofWords (words : List String) : (ofWords words).StandsIn words where
  words_eq := rfl
  position_le := Nat.zero_le _

namespace StandsIn

theorem length_passed (stands : cursor.StandsIn words) :
    cursor.passed.length = cursor.position := by
  rw [passed, stands.words_eq, List.length_take, Nat.min_eq_left stands.position_le]

theorem remaining_suffix (stands : cursor.StandsIn words) : cursor.remaining <:+ words := by
  rw [remaining, stands.words_eq]
  exact List.drop_suffix _ _

theorem zipIdx_passed_sublist (stands : cursor.StandsIn words) :
    cursor.passed.zipIdx.Sublist words.zipIdx := by
  have split := cursor.passed_append_remaining
  rw [stands.words_eq] at split
  rw [← split, List.zipIdx_append]
  exact List.sublist_append_left _ _

/-- **The words that remain tell the place in a list.** -/
theorem eq_of_remaining_eq {other : Cursor} (stands : cursor.StandsIn words)
    (stands' : other.StandsIn words) (same : cursor.remaining = other.remaining) :
    cursor = other := by
  -- One end of one list leaves one beginning, and its length is the place.
  have split : cursor.passed ++ cursor.remaining = other.passed ++ cursor.remaining := by
    rw [passed_append_remaining, same, passed_append_remaining, stands.words_eq,
      stands'.words_eq]
  have position : cursor.position = other.position := by
    rw [← stands.length_passed, List.append_cancel_right split, stands'.length_passed]
  have list : cursor.words = other.words := stands.words_eq.trans stands'.words_eq.symm
  cases cursor
  cases other
  cases list
  cases position
  rfl

theorem read (stands : cursor.StandsIn words) : cursor.read.2.StandsIn words := by
  cases found : cursor.current? with
  | none => rwa [show cursor.read.2 = cursor by simp [Cursor.read, found]]
  | some word =>
    have before : cursor.position < cursor.words.length :=
      (List.getElem?_eq_some_iff.1 found).1
    rw [stands.words_eq] at before
    rw [show cursor.read.2 = { cursor with position := cursor.position + 1 } by
      simp [Cursor.read, found]]
    exact ⟨stands.words_eq, before⟩

theorem atEnd (stands : cursor.StandsIn words) :
    StandsIn { cursor with position := cursor.words.length } words where
  words_eq := stands.words_eq
  position_le := Nat.le_of_eq (congrArg List.length stands.words_eq)

end StandsIn

/-! ## Operations -/

/-- An operation on a cursor. -/
inductive Operation (ε : Type) where
  | current
  | read
  | readIf (keyword : String)
  | require (absent : ε)
  | readUntil (stop : String)
  deriving DecidableEq, Repr

/-- What an operation answers. -/
abbrev Operation.Reply : Operation ε → Type
  | .current | .read => Option String
  | .readIf _ => Bool
  | .require _ => Except ε String
  | .readUntil _ => List String

/-- The words that an operation takes away and hands out. -/
def Operation.returned : (operation : Operation ε) → operation.Reply → List String
  | .current, _ | .readIf _, _ => []
  | .read, word => word.toList
  | .require _, .ok word => [word]
  | .require _, .error _ => []
  | .readUntil _, words => words

/-- Performs an operation. -/
def perform (cursor : Cursor) : (operation : Operation ε) → operation.Reply × Cursor
  | .current => (cursor.current?, cursor)
  | .read => cursor.read
  | .readIf keyword => cursor.readIf keyword
  | .require absent =>
    match cursor.require absent with
    | .error reason => (.error reason, cursor)
    | .ok (word, next) => (.ok word, next)
  | .readUntil stop => cursor.readUntil stop

/-- What an operation comes to on a plain list of words: its answer, and the words it
leaves. -/
inductive Operation.Acts :
    (operation : Operation ε) → List String → operation.Reply → List String → Prop where
  | current (left : List String) : Acts .current left left.head? left
  | read_nil : Acts .read [] none []
  | read_cons (word : String) (rest : List String) : Acts .read (word :: rest) (some word) rest
  | readIf_same (keyword : String) (rest : List String) :
      Acts (.readIf keyword) (keyword :: rest) true rest
  | readIf_other {keyword : String} {left : List String} (other : left.head? ≠ some keyword) :
      Acts (.readIf keyword) left false left
  | require_nil (absent : ε) : Acts (.require absent) [] (.error absent) []
  | require_cons (absent : ε) (word : String) (rest : List String) :
      Acts (.require absent) (word :: rest) (.ok word) rest
  | readUntil {stop : String} {left taken : List String}
      (longest : IsLongestWithout stop left taken) : Acts (.readUntil stop) left taken []

/-- An operation takes away the words it hands out, perhaps one or more behind them, and
leaves the others. -/
theorem Operation.Acts.exists_append {operation : Operation ε} {before after : List String}
    {reply : operation.Reply} (acts : operation.Acts before reply after) :
    ∃ skipped, before = operation.returned reply ++ skipped ++ after := by
  cases acts with
  | current | read_nil | readIf_other | require_nil => exact ⟨[], rfl⟩
  | read_cons | require_cons => exact ⟨[], rfl⟩
  | readIf_same keyword => exact ⟨[keyword], rfl⟩
  | readUntil longest =>
    obtain ⟨rest, rfl⟩ := longest.isBeginning
    exact ⟨rest, by simp [returned]⟩

theorem read_of_remaining_nil (nothing : cursor.remaining = []) : cursor.read = (none, cursor) := by
  have found : cursor.current? = none := by rw [current?_eq_head?, nothing, List.head?_nil]
  simp [read, found]

theorem read_of_remaining_cons {word : String} {rest : List String}
    (left : cursor.remaining = word :: rest) :
    ∃ next, cursor.read = (some word, next) ∧ next.remaining = rest ∧
      next.position = cursor.position + 1 := by
  have found : cursor.current? = some word := by rw [current?_eq_head?, left, List.head?_cons]
  have moved := remaining_read cursor
  rw [left, List.tail_cons] at moved
  exact ⟨cursor.read.2, by simp [read, found], moved, by simp [read, found]⟩

/-- **An operation acts on the words that remain.** -/
theorem acts_perform (cursor : Cursor) (operation : Operation ε) :
    operation.Acts cursor.remaining (cursor.perform operation).1
      (cursor.perform operation).2.remaining := by
  cases operation with
  | current =>
    rw [perform, current?_eq_head?]
    exact .current _
  | read =>
    cases left : cursor.remaining with
    | nil =>
      rw [perform, read_of_remaining_nil left, left]
      exact .read_nil
    | cons word rest =>
      obtain ⟨next, found, rfl, _⟩ := read_of_remaining_cons left
      rw [perform, found]
      exact .read_cons word _
  | readIf keyword =>
    by_cases same : cursor.remaining.head? = some keyword
    · obtain ⟨rest, left⟩ := List.head?_eq_some_iff.1 same
      obtain ⟨next, found, rfl⟩ := readIf_of_remaining_cons left
      rw [perform, found, left]
      exact .readIf_same keyword _
    · rw [perform, readIf_of_head?_ne same]
      exact .readIf_other same
  | require absent =>
    cases left : cursor.remaining with
    | nil =>
      simp only [perform, require_of_remaining_nil absent left, left]
      exact .require_nil absent
    | cons word rest =>
      obtain ⟨next, found, rfl⟩ := require_of_remaining_cons absent left
      simp only [perform, found]
      exact .require_cons absent word _
  | readUntil stop =>
    rw [perform, remaining_readUntil]
    exact .readUntil (isLongestWithout_takeWhile stop _)

/-- An operation leaves the cursor, moves it past the next word or sends it to the end. -/
theorem perform_snd_cases (cursor : Cursor) (operation : Operation ε) :
    (cursor.perform operation).2 = cursor ∨ (cursor.perform operation).2 = cursor.read.2 ∨
      (cursor.perform operation).2 = { cursor with position := cursor.words.length } := by
  cases operation with
  | current => exact .inl rfl
  | read => exact .inr (.inl rfl)
  | readIf keyword =>
    rw [perform, readIf]
    split
    · exact .inr (.inl rfl)
    · exact .inl rfl
  | require absent =>
    rcases reading : cursor.read with ⟨_ | word, next⟩
    · simp [perform, require, reading]
    · simp [perform, require, reading]
  | readUntil stop => exact .inr (.inr rfl)

/-- **An operation never goes behind the end.** -/
theorem StandsIn.perform (stands : cursor.StandsIn words) (operation : Operation ε) :
    (cursor.perform operation).2.StandsIn words := by
  obtain same | same | same := perform_snd_cases cursor operation
  · rwa [same]
  · rw [same]
    exact stands.read
  · rw [same]
    exact stands.atEnd

/-- The words handed out are the next ones behind those passed before. -/
theorem StandsIn.exists_passed_perform (stands : cursor.StandsIn words)
    (operation : Operation ε) :
    ∃ skipped, (cursor.perform operation).2.passed =
      cursor.passed ++ operation.returned (cursor.perform operation).1 ++ skipped := by
  obtain ⟨skipped, split⟩ := (acts_perform cursor operation).exists_append
  have same :=
    calc (cursor.perform operation).2.passed ++ (cursor.perform operation).2.remaining
      _ = words := by rw [passed_append_remaining, (stands.perform operation).words_eq]
      _ = cursor.passed ++ cursor.remaining := by rw [passed_append_remaining, stands.words_eq]
      _ = cursor.passed ++ operation.returned (cursor.perform operation).1 ++ skipped ++
          (cursor.perform operation).2.remaining := by rw [split]; simp only [List.append_assoc]
  exact ⟨skipped, List.append_cancel_right same⟩

/-! ## Reading up to a word -/

/-- Reading one word after another up to a word: the words kept, each with the place it was
read from, and the cursor at the end. That word is read as well, and then the rest is passed
over. -/
inductive ReadsUpTo (stop : String) : Cursor → List (String × Nat) → Cursor → Prop where
  | exhausted {cursor next : Cursor} (found : cursor.read = (none, next)) :
      ReadsUpTo stop cursor [] next
  | stopped {cursor next : Cursor} (found : cursor.read = (some stop, next)) :
      ReadsUpTo stop cursor [] { next with position := next.words.length }
  | kept {cursor next last : Cursor} {word : String} {taken : List (String × Nat)}
      (found : cursor.read = (some word, next)) (other : word ≠ stop)
      (further : ReadsUpTo stop next taken last) :
      ReadsUpTo stop cursor ((word, cursor.position) :: taken) last

theorem ReadsUpTo.unique {stop : String} {taken taken' : List (String × Nat)} {last last' : Cursor}
    (one : ReadsUpTo stop cursor taken last) (two : ReadsUpTo stop cursor taken' last') :
    taken = taken' ∧ last = last' := by
  induction one generalizing taken' with
  | exhausted found =>
    cases two with
    | exhausted found' => simp_all
    | stopped found' | kept found' => simp [found] at found'
  | stopped found =>
    cases two with
    | exhausted found' => simp [found] at found'
    | stopped found' => simp_all
    | kept found' other =>
      rw [found, Prod.mk.injEq, Option.some.injEq] at found'
      exact absurd found'.1.symm other
  | kept found other _ ih =>
    cases two with
    | exhausted found' => simp [found] at found'
    | stopped found' =>
      rw [found, Prod.mk.injEq, Option.some.injEq] at found'
      exact absurd found'.1 other
    | kept found' _ further' =>
      rw [found, Prod.mk.injEq, Option.some.injEq] at found'
      obtain ⟨rfl, rfl⟩ := found'
      obtain ⟨rfl, rfl⟩ := ih further'
      exact ⟨rfl, rfl⟩

/-- The words in front of the first that equals `stop` are kept one by one, and the rest is
passed over at once. -/
theorem readsUpTo_readUntil (stands : cursor.StandsIn words) (stop : String) :
    ReadsUpTo stop cursor ((cursor.readUntil stop).1.zipIdx cursor.position)
      (cursor.readUntil stop).2 := by
  generalize left : cursor.remaining = remaining
  induction remaining generalizing cursor with
  | nil =>
    -- No word is left, so the jump to the end goes nowhere.
    have atEnd : (cursor.readUntil stop).2 = cursor :=
      stands.atEnd.eq_of_remaining_eq stands ((remaining_readUntil cursor stop).trans left.symm)
    rw [atEnd, readUntil, left]
    exact .exhausted (read_of_remaining_nil left)
  | cons word rest ih =>
    obtain ⟨next, found, behind, place⟩ := read_of_remaining_cons left
    have stands' : next.StandsIn words := by simpa [found] using stands.read
    have list : cursor.words = next.words := stands.words_eq.trans stands'.words_eq.symm
    have atEnd : (cursor.readUntil stop).2 = { next with position := next.words.length } := by
      simp only [readUntil, list]
    -- The jump goes to the same end from here and from behind the word.
    rw [atEnd, readUntil, left]
    by_cases same : word = stop
    · subst same
      simpa using ReadsUpTo.stopped found
    · have further := ReadsUpTo.kept found same (ih stands' behind)
      simpa [readUntil, same, behind, place] using further

/-- **Reading up to a word is reading one word after another.** -/
theorem readsUpTo_iff (stands : cursor.StandsIn words) {stop : String}
    {taken : List (String × Nat)} {last : Cursor} :
    ReadsUpTo stop cursor taken last ↔
      taken = (cursor.readUntil stop).1.zipIdx cursor.position ∧
        last = (cursor.readUntil stop).2 := by
  have reads := readsUpTo_readUntil stands stop
  constructor
  · intro reads'
    exact reads'.unique reads
  · rintro ⟨rfl, rfl⟩
    exact reads

end Cursor

end PermitFilter
