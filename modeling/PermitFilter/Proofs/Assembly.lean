import Mathlib.Data.List.Chain
import PermitFilter.Proofs.LineLayout

/-!
# Texts put together of lines

A text is put together of lines, each with one of the three terminators behind it, and
perhaps of a last line that no terminator ends, which then is not empty. Two terminators
run into one where a line ends with a carriage return and the next is an empty line that
ends with a line feed; such lines do not stand behind each other.

Nothing else is in the way. The lines of a text that was put together are the lines it was
put together of, and every text is put together in exactly one way
(`lines_inverts_assembly`). So no character but a terminator is lost, and each terminator
ends one line.
-/

set_option autoImplicit false

namespace PermitFilter.Text

/-! ## Lines with their terminators -/

/-- A terminator as a text. -/
def Terminator.text (terminator : Terminator) : String :=
  String.ofList terminator.chars

/-- A line and the terminator behind it. -/
@[ext]
structure EndedLine where
  line : String
  terminator : Terminator
  plain : IsLineRun line.toList

namespace EndedLine

/-- The line with its terminator. -/
def text (ended : EndedLine) : String :=
  ended.line ++ ended.terminator.text

/-- Whether one line can stand directly in front of another. It cannot if the two
terminators would stand beside each other and be one. -/
def MayPrecede (first second : EndedLine) : Prop :=
  ¬(first.terminator = .carriageReturn ∧ second.line = "" ∧ second.terminator = .lineFeed)

end EndedLine

/-- A last line that no terminator ends. -/
def IsUnended (line : String) : Prop :=
  line ≠ "" ∧ IsLineRun line.toList

/-- Lines from which a text is put together. -/
@[ext]
structure Assembly where
  /-- The lines that a terminator ends, in order. -/
  ended : List EndedLine
  /-- The line behind the last terminator, if there is one. -/
  last? : Option String
  apart : ended.IsChain EndedLine.MayPrecede
  unended : ∀ line ∈ last?, IsUnended line

namespace Assembly

/-- The lines, each with its terminator if it has one. -/
def pieces (assembly : Assembly) : List String :=
  assembly.ended.map EndedLine.text ++ assembly.last?.toList

/-- The lines without their terminators. -/
def lines (assembly : Assembly) : List String :=
  assembly.ended.map EndedLine.line ++ assembly.last?.toList

/-- The text put together. -/
def text (assembly : Assembly) : String :=
  String.join assembly.pieces

end Assembly

/-! ## Putting together -/

section Assembled

variable {ended : List EndedLine} {last? : Option String}

/-- The characters of lines put together. -/
def assembledRun (ended : List EndedLine) (last? : Option String) : List Char :=
  (String.join (ended.map EndedLine.text ++ last?.toList)).toList

theorem assembledRun_cons (first : EndedLine) (later : List EndedLine) (last? : Option String) :
    assembledRun (first :: later) last? =
      first.line.toList ++ (first.terminator.chars ++ assembledRun later last?) := by
  simp [assembledRun, EndedLine.text, Terminator.text, String.join_cons]

@[simp]
theorem assembledRun_nil_none : assembledRun [] none = [] := by
  simp [assembledRun]

@[simp]
theorem assembledRun_nil_some (line : String) : assembledRun [] (some line) = line.toList := by
  simp [assembledRun]

theorem isLineRun_assembledRun_nil (unended : ∀ line ∈ last?, IsUnended line) :
    IsLineRun (assembledRun [] last?) := by
  cases last? with
  | none => exact fun _ member => absurd member (by simp)
  | some line =>
    rw [assembledRun_nil_some]
    exact (unended line rfl).2

/-- What stands behind a line begins with a line feed only if it is an empty line with
that terminator. -/
theorem head?_assembledRun_eq_feed_iff (unended : ∀ line ∈ last?, IsUnended line) :
    (assembledRun ended last?).head? = some '\n' ↔
      ∃ next ∈ ended.head?, next.line = "" ∧ next.terminator = .lineFeed := by
  have noFeed : ∀ {run : List Char}, IsLineRun run → run.head? ≠ some '\n' := by
    intro run plain first
    have inside := plain '\n' (List.mem_of_mem_head? first)
    simp [isTerminator] at inside
  cases ended with
  | nil => simp [noFeed (isLineRun_assembledRun_nil unended)]
  | cons next later =>
    rw [assembledRun_cons]
    by_cases empty : next.line = ""
    · cases terminator : next.terminator <;> simp [empty, terminator, Terminator.chars]
    · have filled : next.line.toList ≠ [] := by simpa using empty
      rw [List.head?_append_of_ne_nil _ filled]
      simp [noFeed next.plain, empty]

/-- Lines may stand behind each other exactly where their terminators stay apart. -/
theorem endsBefore_assembledRun_iff (unended : ∀ line ∈ last?, IsUnended line)
    (first : EndedLine) :
    first.terminator.EndsBefore (assembledRun ended last?) ↔
      ∀ next ∈ ended.head?, first.MayPrecede next := by
  rw [Terminator.EndsBefore, Ne, head?_assembledRun_eq_feed_iff unended]
  constructor
  · rintro apart next member ⟨alone, empty, feed⟩
    exact apart alone ⟨next, member, empty, feed⟩
  · rintro apart alone ⟨next, member, empty, feed⟩
    exact apart next member ⟨alone, empty, feed⟩

theorem lineLayout_assembledRun (apart : ended.IsChain EndedLine.MayPrecede)
    (unended : ∀ line ∈ last?, IsUnended line) :
    LineLayout ((ended.map EndedLine.line ++ last?.toList).map String.toList)
      (assembledRun ended last?) := by
  induction ended with
  | nil =>
    cases last? with
    | none => simpa using LineLayout.nothing
    | some line =>
      obtain ⟨filled, plain⟩ := unended line rfl
      simpa using LineLayout.unended (by simpa using filled) plain
  | cons first later ih =>
    obtain ⟨next, rest⟩ := List.isChain_cons.1 apart
    rw [assembledRun_cons]
    exact .ended first.plain ((endsBefore_assembledRun_iff unended first).2 next) (ih rest)

theorem terminatorCount_assembledRun (apart : ended.IsChain EndedLine.MayPrecede)
    (unended : ∀ line ∈ last?, IsUnended line) :
    terminatorCount (assembledRun ended last?) = ended.length := by
  induction ended with
  | nil =>
    have none := terminatorCount_run_append (isLineRun_assembledRun_nil unended) []
    rwa [List.append_nil] at none
  | cons first later ih =>
    obtain ⟨next, rest⟩ := List.isChain_cons.1 apart
    rw [assembledRun_cons, terminatorCount_run_append first.plain,
      terminatorCount_terminator_append ((endsBefore_assembledRun_iff unended first).2 next),
      ih rest, List.length_cons]

end Assembled

/-! ## Taking apart -/

/-- A line in front of its terminator can be cut out of a text in one way. -/
theorem run_append_inj {run run' rest rest' : List Char} {terminator terminator' : Terminator}
    (plain : IsLineRun run) (plain' : IsLineRun run') (ends : terminator.EndsBefore rest)
    (ends' : terminator'.EndsBefore rest')
    (same : run ++ (terminator.chars ++ rest) = run' ++ (terminator'.chars ++ rest')) :
    run = run' ∧ terminator = terminator' ∧ rest = rest' := by
  have runs := congrArg lineRuns same
  rw [lineRuns_run_append plain ends, lineRuns_run_append plain' ends'] at runs
  obtain rfl : run = run' := (List.cons.inj runs).1
  have behind := List.append_cancel_left same
  refine ⟨rfl, ?_⟩
  -- a carriage return that ends a line has no line feed behind it, so it is not taken for both
  cases terminator with
  | lineFeed =>
    cases terminator' with
    | lineFeed => exact ⟨rfl, (List.cons.inj behind).2⟩
    | carriageReturn | returnAndFeed => simp [Terminator.chars] at behind
  | carriageReturn =>
    cases terminator' with
    | lineFeed => simp [Terminator.chars] at behind
    | carriageReturn => exact ⟨rfl, (List.cons.inj behind).2⟩
    | returnAndFeed => exact absurd (List.cons.inj behind).2 (ends.ne_feed_cons rest')
  | returnAndFeed =>
    cases terminator' with
    | lineFeed => simp [Terminator.chars] at behind
    | carriageReturn => exact absurd (List.cons.inj behind).2.symm (ends'.ne_feed_cons rest)
    | returnAndFeed => exact ⟨rfl, by simpa [Terminator.chars] using behind⟩

/-- Lines put together to the same text are the same lines with the same terminators. -/
theorem assembledRun_inj {ended ended' : List EndedLine} {last? last?' : Option String}
    (apart : ended.IsChain EndedLine.MayPrecede) (apart' : ended'.IsChain EndedLine.MayPrecede)
    (unended : ∀ line ∈ last?, IsUnended line) (unended' : ∀ line ∈ last?', IsUnended line)
    (same : assembledRun ended last? = assembledRun ended' last?') :
    ended = ended' ∧ last? = last?' := by
  have equallyMany := congrArg terminatorCount same
  rw [terminatorCount_assembledRun apart unended, terminatorCount_assembledRun apart' unended']
    at equallyMany
  -- equally many lines are ended, so the other list of them comes apart with this one
  induction ended generalizing ended' with
  | nil =>
    obtain rfl := List.eq_nil_of_length_eq_zero equallyMany.symm
    refine ⟨rfl, ?_⟩
    have filled : ∀ {line : String}, IsUnended line → line.toList ≠ [] := by
      intro line unended
      simpa using unended.1
    cases last? with
    | none =>
      cases last?' with
      | none => rfl
      | some line => exact absurd same.symm (by simpa using (unended' line rfl).1)
    | some line =>
      cases last?' with
      | none => exact absurd same (by simpa using (unended line rfl).1)
      | some line' => simpa [String.toList_inj] using same
  | cons first later ih =>
    obtain ⟨first', later', rfl⟩ := List.exists_cons_of_length_eq_add_one equallyMany.symm
    obtain ⟨next, rest⟩ := List.isChain_cons.1 apart
    obtain ⟨next', rest'⟩ := List.isChain_cons.1 apart'
    rw [assembledRun_cons, assembledRun_cons] at same
    obtain ⟨line, terminator, behind⟩ := run_append_inj first.plain first'.plain
      ((endsBefore_assembledRun_iff unended first).2 next)
      ((endsBefore_assembledRun_iff unended' first').2 next') same
    obtain ⟨rfl, last⟩ := ih rest rest' behind (Nat.succ.inj equallyMany)
    exact ⟨by rw [EndedLine.ext (String.toList_inj.1 line) terminator], last⟩

/-- A text that is laid out is put together. -/
theorem LineLayout.exists_assembledRun_eq {runs : List (List Char)} {text : List Char}
    (layout : LineLayout runs text) :
    ∃ ended last?, ended.IsChain EndedLine.MayPrecede ∧ (∀ line ∈ last?, IsUnended line) ∧
      assembledRun ended last? = text := by
  induction layout with
  | nothing => exact ⟨[], none, .nil, by simp, assembledRun_nil_none⟩
  | @unended run filled plain =>
    refine ⟨[], some (String.ofList run), .nil, ?_, by simp⟩
    rintro line ⟨⟩
    exact ⟨by simpa using filled, by simpa using plain⟩
  | @ended run rest runs terminator plain ends later ih =>
    obtain ⟨ended, last?, apart, unended, rfl⟩ := ih
    let first : EndedLine :=
      { line := String.ofList run, terminator, plain := by simpa using plain }
    have next := (endsBefore_assembledRun_iff unended first).1 ends
    refine ⟨first :: ended, last?, List.isChain_cons.2 ⟨next, apart⟩, unended, ?_⟩
    rw [assembledRun_cons, String.toList_ofList]

/-- The lines laid out hold the characters of the text that are no terminators. -/
theorem LineLayout.flatten_eq_filter {runs : List (List Char)} {text : List Char}
    (layout : LineLayout runs text) : runs.flatten = text.filter fun c => !isTerminator c := by
  have kept : ∀ {run : List Char}, IsLineRun run →
      run.filter (fun c => !isTerminator c) = run := by
    intro run plain
    exact List.filter_eq_self.2 fun c member => by simp [plain c member]
  induction layout with
  | nothing => rfl
  | unended filled plain => simp [kept plain]
  | @ended run rest runs terminator plain ends later ih =>
    have dropped : terminator.chars.filter (fun c => !isTerminator c) = [] := by
      rw [List.filter_eq_nil_iff]
      intro c member
      simp [Terminator.isTerminator_of_mem_chars member]
    rw [List.flatten_cons, ih, List.filter_append, List.filter_append, kept plain, dropped,
      List.nil_append]

namespace Assembly

theorem text_eq_ofList (assembly : Assembly) :
    assembly.text = String.ofList (assembledRun assembly.ended assembly.last?) := by
  rw [text, pieces, assembledRun, String.ofList_toList]

theorem lines_text (assembly : Assembly) : Text.lines assembly.text = assembly.lines := by
  have runs := (lineLayout_assembledRun assembly.apart assembly.unended).lineRuns_eq
  rw [Text.lines_eq_map_lineRuns, text_eq_ofList, String.toList_ofList, runs]
  simp [lines]

theorem exists_text_eq (text : String) : ∃ assembly : Assembly, assembly.text = text := by
  obtain ⟨ended, last?, apart, unended, whole⟩ :=
    (lineLayout_lineRuns text.toList).exists_assembledRun_eq
  refine ⟨⟨ended, last?, apart, unended⟩, ?_⟩
  rw [text_eq_ofList, whole, String.ofList_toList]

theorem text_injective : Function.Injective text := by
  intro first second same
  rw [text_eq_ofList, text_eq_ofList, String.ofList_inj] at same
  obtain ⟨ended, last⟩ :=
    assembledRun_inj first.apart second.apart first.unended second.unended same
  exact Assembly.ext ended last

end Assembly

/-- **Taking a text apart inverts putting it together.** The lines of a text are those it
was put together of, with one terminator for each that is ended. Every text is put together
in exactly one way, and its lines hold all its characters but the terminators. -/
theorem lines_inverts_assembly :
    (∀ assembly : Assembly, lines assembly.text = assembly.lines ∧
      terminatorCount assembly.text.toList = assembly.ended.length) ∧
    ∀ text, (∃! assembly : Assembly, assembly.text = text) ∧
      (String.join (lines text)).toList = text.toList.filter fun c => !isTerminator c := by
  refine ⟨?_, ?_⟩
  · intro assembly
    refine ⟨assembly.lines_text, ?_⟩
    rw [assembly.text_eq_ofList, String.toList_ofList,
      terminatorCount_assembledRun assembly.apart assembly.unended]
  · intro text
    obtain ⟨assembly, whole⟩ := Assembly.exists_text_eq text
    refine ⟨⟨assembly, whole, ?_⟩, ?_⟩
    · intro other same
      exact Assembly.text_injective (same.trans whole.symm)
    · rw [lines_eq_map_lineRuns, ← (lineLayout_lineRuns text.toList).flatten_eq_filter,
        String.toList_join]
      simp [List.flatMap_map, List.flatMap_id']

/-- Five lines: behind the first stands a carriage return alone, since the next one has a
line feed of its own behind it. -/
example : lines "a\r\r\n\n\rb" = ["a", "", "", "", "b"] := by
  decide

end PermitFilter.Text
