import Mathlib.Data.List.DropRight
import PermitFilter.Proofs.Layout
import PermitFilter.Text.Lines

/-!
# What is cut off at the ends of a text

A line is reported without the terminators behind it. What is left is the line up
to the run of line feeds and carriage returns at its end, and no more is taken
away (`strips_iff`).

An expression is held without the blanks at the two ends of the text it was read from.
What is left begins and ends with a character that is not blank, or is empty, and
nothing but blanks is taken away; that says which text it is (`trims_iff`). So a text
that begins and ends with other characters is left as it is.
-/

set_option autoImplicit false

namespace PermitFilter.Text

/-! ## Terminators at the end of a line -/

theorem isTerminator_iff {c : Char} : isTerminator c = true ↔ c = '\n' ∨ c = '\r' := by
  simp [isTerminator]

/-- A text that is a line without its whole run of terminators. -/
structure Strips (line text : String) : Prop where
  /-- Only terminators are taken away. -/
  exists_run : ∃ run : List Char, line.toList = text.toList ++ run ∧
    ∀ c ∈ run, c = '\n' ∨ c = '\r'
  /-- No terminator is left at the end. -/
  last_ne : ∀ c ∈ text.toList.getLast?, c ≠ '\n' ∧ c ≠ '\r'

theorem toList_stripTerminators (line : String) :
    (stripTerminators line).toList = line.toList.rdropWhile isTerminator := by
  rw [stripTerminators, String.toList_ofList, List.rdropWhile]

/-- Dropping a run of characters of a class from the end leaves a text that does not
end with one. -/
theorem rdropWhile_append_run {dropped : Char → Bool} {text run : List Char}
    (last : ∀ c ∈ text.getLast?, dropped c = false) (all : ∀ c ∈ run, dropped c = true) :
    (text ++ run).rdropWhile dropped = text := by
  rw [List.rdropWhile, List.reverse_append,
    List.dropWhile_append_of_pos fun c member => all c (List.mem_reverse.1 member),
    ← List.rdropWhile, List.rdropWhile_eq_self_iff]
  intro filled
  simpa using last _ (List.getLast?_eq_some_getLast filled)

/-- Dropping all characters of a class from the end leaves none at the end. -/
theorem not_of_mem_getLast?_rdropWhile {dropped : Char → Bool} {text : List Char} {c : Char}
    (last : c ∈ (text.rdropWhile dropped).getLast?) : dropped c = false := by
  obtain ⟨filled, rfl⟩ := List.mem_getLast?_eq_getLast last
  simpa using List.rdropWhile_last_not dropped text filled

theorem strips_stripTerminators (line : String) : Strips line (stripTerminators line) where
  exists_run := by
    refine ⟨line.toList.rtakeWhile isTerminator, ?_, ?_⟩
    · rw [toList_stripTerminators, List.rdropWhile_append_rtakeWhile]
    · intro c member
      exact isTerminator_iff.1 (List.mem_rtakeWhile_imp member)
  last_ne := by
    intro c last
    rw [toList_stripTerminators] at last
    have left := not_of_mem_getLast?_rdropWhile last
    rwa [← Bool.not_eq_true, isTerminator_iff, not_or] at left

/-- **A line has one text without its run of terminators.** -/
theorem strips_iff {line text : String} : Strips line text ↔ text = stripTerminators line := by
  constructor
  · rintro ⟨⟨run, whole, terminators⟩, last⟩
    have left : (text.toList ++ run).rdropWhile isTerminator = text.toList :=
      rdropWhile_append_run (fun c member => by simpa [isTerminator] using last c member)
        (fun c member => isTerminator_iff.2 (terminators c member))
    rw [← whole, ← toList_stripTerminators] at left
    exact (String.toList_inj.1 left).symm
  · rintro rfl
    exact strips_stripTerminators line

/-! ## Blanks at both ends -/

/-- A text that is another one without all the blanks at its two ends. -/
structure Trims (text shown : String) : Prop where
  /-- Only blanks are taken away. -/
  exists_gaps : ∃ front behind : List Char, text.toList = front ++ (shown.toList ++ behind) ∧
    IsGap front ∧ IsGap behind
  /-- No blank is left at the beginning. -/
  first_not : ∀ c ∈ shown.toList.head?, isBlank c = false
  /-- No blank is left at the end. -/
  last_not : ∀ c ∈ shown.toList.getLast?, isBlank c = false

theorem toList_trim (text : String) :
    (trim text).toList = (text.toList.dropWhile isBlank).rdropWhile isBlank := by
  rw [trim, String.toList_ofList, trimEnd, trimStart, List.rdropWhile]

/-- Dropping the blanks in front leaves no blank in front. -/
theorem not_of_mem_head?_dropWhile {text : List Char} {c : Char}
    (first : c ∈ (text.dropWhile isBlank).head?) : isBlank c = false := by
  have left := List.head?_dropWhile_not isBlank text
  rw [Option.mem_def.1 first] at left
  exact left

theorem trims_trim (text : String) : Trims text (trim text) where
  exists_gaps := by
    refine ⟨text.toList.takeWhile isBlank, (text.toList.dropWhile isBlank).rtakeWhile isBlank,
      ?_, ?_, ?_⟩
    · rw [toList_trim, List.rdropWhile_append_rtakeWhile, List.takeWhile_append_dropWhile]
    · exact fun c member => List.mem_takeWhile_imp member
    · exact fun c member => List.mem_rtakeWhile_imp member
  first_not := by
    intro c first
    rw [toList_trim] at first
    obtain ⟨behind, whole⟩ := List.rdropWhile_prefix isBlank (text.toList.dropWhile isBlank)
    apply not_of_mem_head?_dropWhile
    rw [← whole, List.head?_append, Option.mem_def.1 first]
    rfl
  last_not := by
    intro c last
    rw [toList_trim] at last
    exact not_of_mem_getLast?_rdropWhile last

/-- Blanks around a text are dropped, if the text does not begin or end with one. -/
theorem rdropWhile_dropWhile_gaps {front run behind : List Char} (blanks : IsGap front)
    (blanks' : IsGap behind) (first : ∀ c ∈ run.head?, isBlank c = false)
    (last : ∀ c ∈ run.getLast?, isBlank c = false) :
    ((front ++ (run ++ behind)).dropWhile isBlank).rdropWhile isBlank = run := by
  rw [List.dropWhile_append_of_pos blanks]
  cases run with
  | nil => rw [List.nil_append, List.dropWhile_eq_nil_iff.2 blanks', List.rdropWhile_nil]
  | cons c run =>
    rw [List.cons_append, List.dropWhile_cons_of_neg (by simp [first c rfl]), ← List.cons_append]
    exact rdropWhile_append_run last blanks'

/-- **A text has one text without the blanks at its ends.** -/
theorem trims_iff {text shown : String} : Trims text shown ↔ shown = trim text := by
  constructor
  · rintro ⟨⟨front, behind, whole, blanks, blanks'⟩, first, last⟩
    rw [← String.toList_inj, toList_trim, whole]
    exact (rdropWhile_dropWhile_gaps blanks blanks' first last).symm
  · rintro rfl
    exact trims_trim text

end PermitFilter.Text
