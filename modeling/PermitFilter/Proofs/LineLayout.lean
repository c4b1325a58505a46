import PermitFilter.Proofs.Trimming

/-!
# Layouts of lines

Read once from left to right, a text has a line wherever a terminator ends one, and a last
one if anything is left (`lineRuns`). The three passes in which the lines are found come to
the same (`lines_eq_map_lineRuns`): a carriage return that gives way to the line feed behind
it ends the same line, and the piece that is dropped is the one behind the last terminator.

A text lays out a list of lines when it shows them in order, each with a terminator
behind it; only the last may end with the text instead, and then it is not empty. A
carriage return is a terminator of its own only where no line feed follows.

Every text lays out exactly one list of lines, the one that `lineRuns` gives
(`LineLayout.lineRuns_eq`, `lineLayout_lineRuns`). The place of a line in that list is
the number of terminators in front of it (`standsBehind_of_getElem?_lines`), and for a
line that is not empty the number of terminators in front of it tells its place in turn
(`getElem?_lines_of_standsBehind`).
-/

set_option autoImplicit false

namespace PermitFilter.Text

/-! ## Lines in one pass -/

/-- Adds a character in front of the first line, and starts one if there is
none. -/
def consToFirst (c : Char) : List (List Char) → List (List Char)
  | [] => [[c]]
  | first :: others => (c :: first) :: others

/-- The lines of a text, read from left to right. -/
def lineRuns : List Char → List (List Char)
  | [] => []
  | '\r' :: '\n' :: rest => [] :: lineRuns rest
  | c :: rest => if isTerminator c then [] :: lineRuns rest else consToFirst c (lineRuns rest)

section Passes

variable {pieces : List (List Char)} {c : Char}

/-- A piece that stands in front of others is kept. -/
theorem dropEmptyLast_cons (piece : List Char) (filled : pieces ≠ []) :
    dropEmptyLast (piece :: pieces) = piece :: dropEmptyLast pieces := by
  obtain ⟨next, others, rfl⟩ := List.exists_cons_of_ne_nil filled
  simp only [dropEmptyLast, List.getLast?_cons_cons, List.dropLast_cons_cons]
  split <;> rfl

/-- A character in front of the first piece keeps that piece from being dropped. -/
theorem dropEmptyLast_modifyHead (filled : pieces ≠ []) :
    dropEmptyLast (pieces.modifyHead (c :: ·)) = consToFirst c (dropEmptyLast pieces) := by
  obtain ⟨first, others, rfl⟩ := List.exists_cons_of_ne_nil filled
  rw [List.modifyHead_cons]
  by_cases alone : others = []
  · subst alone
    cases first <;> rfl
  · rw [dropEmptyLast_cons _ alone, dropEmptyLast_cons _ alone, consToFirst]

/-- A character that ends a line ends the first piece. -/
theorem dropEmptyLast_splitOnP_cons_of_isTerminator (ending : isTerminator c = true)
    (text : List Char) :
    dropEmptyLast ((c :: text).splitOnP isTerminator) =
      [] :: dropEmptyLast (text.splitOnP isTerminator) := by
  rw [List.splitOnP_cons_eq_if_modifyHead, if_pos ending,
    dropEmptyLast_cons _ (List.splitOnP_ne_nil _ _)]

/-- Any other character belongs to the first piece. -/
theorem dropEmptyLast_splitOnP_cons_of_not_isTerminator (inside : isTerminator c = false)
    (text : List Char) :
    dropEmptyLast ((c :: text).splitOnP isTerminator) =
      consToFirst c (dropEmptyLast (text.splitOnP isTerminator)) := by
  rw [List.splitOnP_cons_eq_if_modifyHead, inside, if_neg Bool.false_ne_true,
    dropEmptyLast_modifyHead (List.splitOnP_ne_nil _ _)]

/-- **Three passes find the lines that one pass finds.** The induction is on the one pass,
whose cases are those of the first of the three. -/
theorem dropEmptyLast_splitOnP_joinFeeds (text : List Char) :
    dropEmptyLast ((joinFeeds text).splitOnP isTerminator) = lineRuns text := by
  fun_induction lineRuns text with
  | case1 => rfl
  | case2 rest ih =>
    have joined : joinFeeds ('\r' :: '\n' :: rest) = '\n' :: joinFeeds rest := rfl
    rw [joined, dropEmptyLast_splitOnP_cons_of_isTerminator (by decide), ih]
  | case3 c rest other ending ih =>
    rw [joinFeeds, dropEmptyLast_splitOnP_cons_of_isTerminator ending, ih]
    exact other
  | case4 c rest other inside ih =>
    rw [joinFeeds, dropEmptyLast_splitOnP_cons_of_not_isTerminator (eq_false_of_ne_true inside),
      ih]
    exact other

/-- The lines of a text are those of one pass. -/
theorem lines_eq_map_lineRuns (text : String) :
    lines text = (lineRuns text.toList).map String.ofList := by
  rw [lines, dropEmptyLast_splitOnP_joinFeeds]

end Passes

/-! ## Terminators -/

/-- How a line ends. -/
inductive Terminator where
  | lineFeed
  | carriageReturn
  | returnAndFeed
  deriving DecidableEq, Repr

/-- The characters of a terminator. -/
def Terminator.chars : Terminator → List Char
  | .lineFeed => ['\n']
  | .carriageReturn => ['\r']
  | .returnAndFeed => ['\r', '\n']

/-- Whether a terminator stands for itself in front of a text: a carriage return with
a line feed behind it is part of another one. -/
def Terminator.EndsBefore (terminator : Terminator) (rest : List Char) : Prop :=
  terminator = .carriageReturn → rest.head? ≠ some '\n'

/-- The number of terminators in a text. A carriage return with a line feed behind it
is one, and so is every other carriage return or line feed. -/
def terminatorCount : List Char → Nat
  | [] => 0
  | '\r' :: '\n' :: rest => terminatorCount rest + 1
  | c :: rest => if isTerminator c then terminatorCount rest + 1 else terminatorCount rest

/-- A run of characters that can be a line. -/
def IsLineRun (run : List Char) : Prop :=
  ∀ c ∈ run, isTerminator c = false

namespace Terminator

variable {c : Char} {terminator : Terminator} {before rest : List Char}

theorem EndsBefore.ne_feed_cons (ends : carriageReturn.EndsBefore rest) (behind : List Char) :
    rest ≠ '\n' :: behind := by
  rintro rfl
  exact ends rfl rfl

theorem EndsBefore.of_append (ends : terminator.EndsBefore (before ++ rest)) :
    terminator.EndsBefore before := by
  intro alone feed
  exact ends alone (by rw [List.head?_append, feed]; rfl)

theorem EndsBefore.append (ends : terminator.EndsBefore before)
    (plain : ∀ c ∈ rest.head?, isTerminator c = false) :
    terminator.EndsBefore (before ++ rest) := by
  intro alone feed
  cases before with
  | nil => simpa [isTerminator] using plain _ feed
  | cons c before => exact ends alone feed

theorem isTerminator_of_mem_chars (member : c ∈ terminator.chars) : isTerminator c = true := by
  cases terminator with
  | lineFeed | carriageReturn =>
    obtain rfl := List.mem_singleton.1 member
    rfl
  | returnAndFeed => rcases List.mem_pair.1 member with rfl | rfl <;> rfl

theorem isTerminator_of_mem_head? (starts : c ∈ (terminator.chars ++ rest).head?) :
    isTerminator c = true := by
  cases terminator <;> obtain rfl := Option.some.inj starts <;> rfl

theorem chars_ne_nil (terminator : Terminator) : terminator.chars ≠ [] := by
  cases terminator <;> exact List.cons_ne_nil _ _

/-- A text with a terminator in it ends with one if what follows the terminator does. -/
theorem isTerminator_of_mem_getLast? {run : List Char}
    (begins : ∀ c ∈ rest.getLast?, isTerminator c = true)
    (last : c ∈ (run ++ (terminator.chars ++ rest)).getLast?) : isTerminator c = true := by
  rw [← List.append_assoc] at last
  by_cases more : rest = []
  · subst more
    rw [List.append_nil, List.getLast?_append_of_ne_nil _ terminator.chars_ne_nil] at last
    exact isTerminator_of_mem_chars (List.mem_of_mem_getLast? last)
  · rw [List.getLast?_append_of_ne_nil _ more] at last
    exact begins c last

/-- A text that begins with a terminator's character begins with a terminator. -/
theorem exists_chars_append_eq (ending : isTerminator c = true) (text : List Char) :
    ∃ terminator : Terminator, ∃ rest, terminator.chars ++ rest = c :: text ∧
      terminator.EndsBefore rest := by
  rcases isTerminator_iff.1 ending with rfl | rfl
  · exact ⟨lineFeed, text, rfl, fun same => by simp at same⟩
  · by_cases feed : text.head? = some '\n'
    · obtain ⟨rest, rfl⟩ := List.head?_eq_some_iff.1 feed
      exact ⟨returnAndFeed, rest, rfl, fun same => by simp at same⟩
    · exact ⟨carriageReturn, text, rfl, fun _ => feed⟩

end Terminator

section Reading

variable {c : Char} {run rest : List Char} {terminator : Terminator}

theorem ne_return_of_not_isTerminator (inside : isTerminator c = false) : c ≠ '\r' := by
  rintro rfl
  simp [isTerminator] at inside

theorem lineRuns_cons_of_not_isTerminator (inside : isTerminator c = false) (rest : List Char) :
    lineRuns (c :: rest) = consToFirst c (lineRuns rest) := by
  rw [lineRuns, inside, if_neg Bool.false_ne_true]
  exact fun _ same => absurd same (ne_return_of_not_isTerminator inside)

theorem terminatorCount_cons_of_not_isTerminator (inside : isTerminator c = false)
    (rest : List Char) : terminatorCount (c :: rest) = terminatorCount rest := by
  rw [terminatorCount, inside, if_neg Bool.false_ne_true]
  exact fun _ same => absurd same (ne_return_of_not_isTerminator inside)

/-- A terminator ends the line that is empty in front of it. -/
theorem lineRuns_terminator_append (ends : terminator.EndsBefore rest) :
    lineRuns (terminator.chars ++ rest) = [] :: lineRuns rest := by
  cases terminator with
  | lineFeed => rfl
  | returnAndFeed => rfl
  | carriageReturn =>
    rw [Terminator.chars, List.singleton_append, lineRuns]
    · rfl
    · exact fun behind _ => ends.ne_feed_cons behind

theorem terminatorCount_terminator_append (ends : terminator.EndsBefore rest) :
    terminatorCount (terminator.chars ++ rest) = terminatorCount rest + 1 := by
  cases terminator with
  | lineFeed => rfl
  | returnAndFeed => rfl
  | carriageReturn =>
    rw [Terminator.chars, List.singleton_append, terminatorCount]
    · rfl
    · exact fun behind _ => ends.ne_feed_cons behind

theorem terminatorCount_run_append (plain : IsLineRun run) (rest : List Char) :
    terminatorCount (run ++ rest) = terminatorCount rest := by
  induction run with
  | nil => rfl
  | cons c run ih =>
    obtain ⟨inside, later⟩ := List.forall_mem_cons.1 plain
    rw [List.cons_append, terminatorCount_cons_of_not_isTerminator inside, ih later]

/-- A line in front of its terminator is the first line. -/
theorem lineRuns_run_append (plain : IsLineRun run) (ends : terminator.EndsBefore rest) :
    lineRuns (run ++ (terminator.chars ++ rest)) = run :: lineRuns rest := by
  induction run with
  | nil => exact lineRuns_terminator_append ends
  | cons c run ih =>
    obtain ⟨inside, later⟩ := List.forall_mem_cons.1 plain
    rw [List.cons_append, lineRuns_cons_of_not_isTerminator inside, ih later]
    rfl

/-- A text without terminators is its own only line, unless it is empty. -/
theorem lineRuns_eq_singleton (filled : run ≠ []) (plain : IsLineRun run) :
    lineRuns run = [run] := by
  induction run with
  | nil => exact absurd rfl filled
  | cons c run ih =>
    obtain ⟨inside, later⟩ := List.forall_mem_cons.1 plain
    rw [lineRuns_cons_of_not_isTerminator inside]
    by_cases more : run = []
    · subst more
      rfl
    · rw [ih more later]
      rfl

end Reading

/-! ## Layouts -/

/-- A list of runs and a text that lays them out as lines. -/
inductive LineLayout : List (List Char) → List Char → Prop where
  | nothing : LineLayout [] []
  | unended {run : List Char} (filled : run ≠ []) (plain : IsLineRun run) : LineLayout [run] run
  | ended {run rest : List Char} {runs : List (List Char)} {terminator : Terminator}
      (plain : IsLineRun run) (ends : terminator.EndsBefore rest) (later : LineLayout runs rest) :
      LineLayout (run :: runs) (run ++ (terminator.chars ++ rest))

/-- A text lays out no other lines than its own. -/
theorem LineLayout.lineRuns_eq {runs : List (List Char)} {text : List Char}
    (layout : LineLayout runs text) : lineRuns text = runs := by
  induction layout with
  | nothing => rfl
  | unended filled plain => exact lineRuns_eq_singleton filled plain
  | ended plain ends _ ih => rw [lineRuns_run_append plain ends, ih]

/-- One more character in front, if it is no terminator, lengthens the first line or is
a line of its own. -/
theorem LineLayout.cons {c : Char} {runs : List (List Char)} {text : List Char}
    (inside : isTerminator c = false) (layout : LineLayout runs text) :
    LineLayout (consToFirst c runs) (c :: text) := by
  cases layout with
  | nothing => exact .unended (List.cons_ne_nil c []) (by simpa [IsLineRun] using inside)
  | unended filled plain =>
    exact .unended (List.cons_ne_nil c _) (List.forall_mem_cons.2 ⟨inside, plain⟩)
  | ended plain ends later => exact .ended (List.forall_mem_cons.2 ⟨inside, plain⟩) ends later

/-- **A text lays out its lines.** -/
theorem lineLayout_lineRuns (text : List Char) : LineLayout (lineRuns text) text := by
  have nothing : IsLineRun [] := fun _ member => absurd member List.not_mem_nil
  fun_induction lineRuns text with
  | case1 => exact .nothing
  | case2 rest ih =>
    have ends : Terminator.returnAndFeed.EndsBefore rest := fun same => by simp at same
    exact .ended nothing ends ih
  | case3 c rest apart ending ih =>
    rcases isTerminator_iff.1 ending with rfl | rfl
    · have ends : Terminator.lineFeed.EndsBefore rest := fun same => by simp at same
      exact .ended nothing ends ih
    · have ends : Terminator.carriageReturn.EndsBefore rest := by
        intro _ feed
        obtain ⟨behind, rfl⟩ := List.head?_eq_some_iff.1 feed
        exact apart behind rfl rfl
      exact .ended nothing ends ih
  | case4 c rest _ inside ih => exact ih.cons (eq_false_of_ne_true inside)

/-- No line holds a character that ends one. -/
theorem LineLayout.isLineRun_of_mem {runs : List (List Char)} {text run : List Char}
    (layout : LineLayout runs text) (member : run ∈ runs) : IsLineRun run := by
  induction layout with
  | nothing => exact absurd member List.not_mem_nil
  | unended filled plain => rwa [List.mem_singleton.1 member]
  | ended plain ends later ih =>
    rcases List.mem_cons.1 member with rfl | member
    · exact plain
    · exact ih member

/-! ## Places -/

/-- A run of characters that is a whole line between two pieces of a text. -/
structure LinePlace (before run after : List Char) : Prop where
  /-- It begins where the text does or behind a terminator. -/
  begins : ∀ c ∈ before.getLast?, isTerminator c = true
  /-- It ends where the text does or in front of a terminator. -/
  ends : ∀ c ∈ after.head?, isTerminator c = true
  plain : IsLineRun run

/-- A line that stands in a text with a number of terminators in front of it. -/
def StandsBehind (line text : String) (count : Nat) : Prop :=
  ∃ before after : String, text = before ++ line ++ after ∧
    LinePlace before.toList line.toList after.toList ∧ terminatorCount before.toList = count

/-- A line of a layout stands in the text behind as many terminators as lines. -/
theorem LineLayout.exists_linePlace {runs : List (List Char)} {text : List Char}
    (layout : LineLayout runs text) {place : Nat} {run : List Char}
    (there : runs[place]? = some run) :
    ∃ before after, text = before ++ (run ++ after) ∧ LinePlace before run after ∧
      terminatorCount before = place := by
  induction layout generalizing place with
  | nothing => simp at there
  | @unended whole filled plain =>
    cases place with
    | zero =>
      obtain rfl : whole = run := by simpa using there
      exact ⟨[], [], by simp, ⟨by simp, by simp, plain⟩, rfl⟩
    | succ place => simp at there
  | @ended first rest runs terminator plain ends later ih =>
    cases place with
    | zero =>
      obtain rfl : first = run := by simpa using there
      exact ⟨[], terminator.chars ++ rest, rfl,
        ⟨by simp, fun c => Terminator.isTerminator_of_mem_head?, plain⟩, rfl⟩
    | succ place =>
      obtain ⟨before, after, rfl, linePlace, count⟩ := ih there
      have begins : ∀ c ∈ (first ++ (terminator.chars ++ before)).getLast?,
          isTerminator c = true :=
        fun c => Terminator.isTerminator_of_mem_getLast? linePlace.begins
      refine ⟨first ++ (terminator.chars ++ before), after, by simp only [List.append_assoc],
        ⟨begins, linePlace.ends, linePlace.plain⟩, ?_⟩
      rw [terminatorCount_run_append plain, terminatorCount_terminator_append ends.of_append,
        count]

/-- A line that is not empty stands in a layout at the place that the terminators in
front of it count. -/
theorem getElem?_lineRuns_of_linePlace {before run after : List Char} (filled : run ≠ [])
    (linePlace : LinePlace before run after) :
    (lineRuns (before ++ (run ++ after)))[terminatorCount before]? = some run := by
  have layout := lineLayout_lineRuns before
  generalize lineRuns before = runs at layout
  induction layout with
  | nothing =>
    cases after with
    | nil =>
      rw [List.nil_append, List.append_nil, lineRuns_eq_singleton filled linePlace.plain]
      rfl
    | cons c after =>
      obtain ⟨terminator, rest, same, ends⟩ :=
        Terminator.exists_chars_append_eq (linePlace.ends c rfl) after
      rw [List.nil_append, ← same, lineRuns_run_append linePlace.plain ends]
      rfl
  | unended filled' plain =>
    have last := linePlace.begins _ (List.getLast?_eq_some_getLast filled')
    rw [plain _ (List.getLast_mem filled')] at last
    simp at last
  | @ended first rest runs terminator plain ends later ih =>
    have begins : ∀ c ∈ rest.getLast?, isTerminator c = true := by
      intro c last
      exact linePlace.begins c (by simp [List.getLast?_append, Option.mem_def.1 last])
    have goesOn : ∀ c ∈ (run ++ after).head?, isTerminator c = false := by
      intro c starts
      rw [List.head?_append_of_ne_nil _ filled] at starts
      exact linePlace.plain c (List.mem_of_mem_head? starts)
    have found := ih ⟨begins, linePlace.ends, linePlace.plain⟩
    rw [terminatorCount_run_append plain, terminatorCount_terminator_append ends]
    simp only [List.append_assoc]
    rw [lineRuns_run_append plain (ends.append goesOn)]
    exact found

/-- **A line stands in its text behind as many terminators as lines.** -/
theorem standsBehind_of_getElem?_lines {text line : String} {place : Nat}
    (there : (lines text)[place]? = some line) : StandsBehind line text place := by
  rw [lines_eq_map_lineRuns, List.getElem?_map, Option.map_eq_some_iff] at there
  obtain ⟨run, there, rfl⟩ := there
  obtain ⟨before, after, whole, linePlace, count⟩ :=
    (lineLayout_lineRuns text.toList).exists_linePlace there
  refine ⟨String.ofList before, String.ofList after, ?_, ?_, ?_⟩
  · rw [← String.toList_inj]
    simp [whole]
  · simpa using linePlace
  · simpa using count

/-- **A line that is not empty stands at the place that its terminators count.** -/
theorem getElem?_lines_of_standsBehind {text line : String} {count : Nat} (filled : line ≠ "")
    (stands : StandsBehind line text count) : (lines text)[count]? = some line := by
  obtain ⟨before, after, rfl, linePlace, rfl⟩ := stands
  have run : line.toList ≠ [] := by simpa using filled
  have found := getElem?_lineRuns_of_linePlace run linePlace
  rw [lines_eq_map_lineRuns, List.getElem?_map, String.toList_append, String.toList_append,
    List.append_assoc, found, Option.map_some, String.ofList_toList]

end PermitFilter.Text
