import PermitFilter.Text.CodePoints

/-!
# Blank characters and words

A character is blank when it has the Unicode property White_Space. The words of
a text are its maximal runs of characters that are not blank, in order, and
trimming a text removes the blanks at its two ends and nothing else.

A word is not empty and holds no blank (`mem_wordRuns`), and a blank separates
the words on its two sides (`wordRuns_append_blank`).
-/

set_option autoImplicit false

namespace PermitFilter.Text

/-! ## Blanks -/

/-- The code points with the property White_Space. -/
def blankRanges : List (Nat × Nat) :=
  [(0x9, 0xD), (0x20, 0x20), (0x85, 0x85), (0xA0, 0xA0), (0x1680, 0x1680), (0x2000, 0x200A),
   (0x2028, 0x2029), (0x202F, 0x202F), (0x205F, 0x205F), (0x3000, 0x3000)]

/-- Whether a character is white space. -/
def isBlank (c : Char) : Bool :=
  inRanges blankRanges c.toNat

/-! ## Words -/

/-- The maximal runs of characters that are not blank. -/
def wordRuns (text : List Char) : List (List Char) :=
  (text.splitOnP isBlank).filter fun run => !run.isEmpty

/-- The words of a text, in order. -/
def words (text : String) : List String :=
  (wordRuns text.toList).map String.ofList

@[simp]
theorem wordRuns_nil : wordRuns [] = [] := by
  simp [wordRuns, List.splitOnP_nil]

/-- A piece between separators holds no separator. -/
theorem not_of_mem_splitOnP {α : Type} {separates : α → Bool} {text piece : List α}
    (member : piece ∈ text.splitOnP separates) : ∀ c ∈ piece, separates c = false := by
  induction text generalizing piece with
  | nil =>
    rw [List.splitOnP_nil, List.mem_singleton] at member
    simp [member]
  | cons head tail ih =>
    obtain ⟨first, others, tailPieces⟩ :=
      List.exists_cons_of_ne_nil (List.splitOnP_ne_nil separates tail)
    rw [List.splitOnP_cons_eq_if_modifyHead, tailPieces] at member
    rw [tailPieces] at ih
    by_cases separating : separates head = true
    · rw [if_pos separating, List.mem_cons] at member
      rcases member with rfl | member
      · simp
      · exact ih member
    · rw [if_neg separating, List.modifyHead_cons, List.mem_cons] at member
      rcases member with rfl | member
      · intro c inside
        rcases List.mem_cons.1 inside with rfl | inside
        · exact eq_false_of_ne_true separating
        · exact ih (List.mem_cons_self ..) c inside
      · exact ih (List.mem_cons_of_mem _ member)

/-- A word is not empty and holds no blank. -/
theorem mem_wordRuns {text run : List Char} (member : run ∈ wordRuns text) :
    run ≠ [] ∧ ∀ c ∈ run, isBlank c = false := by
  obtain ⟨piece, filled⟩ := List.mem_filter.1 member
  exact ⟨by simpa using filled, not_of_mem_splitOnP piece⟩

/-- A blank separates the words on its two sides. -/
theorem wordRuns_append_blank {c : Char} (blank : isBlank c = true) (before after : List Char) :
    wordRuns (before ++ c :: after) = wordRuns before ++ wordRuns after := by
  rw [wordRuns, List.splitOnP_append_cons before after blank, List.filter_append]
  rfl

/-- A text without blanks is its own only word. -/
theorem wordRuns_eq_singleton {run : List Char} (filled : run ≠ [])
    (whole : ∀ c ∈ run, isBlank c = false) : wordRuns run = [run] := by
  rw [wordRuns, List.splitOnP_eq_singleton whole]
  simp [filled]

/-! ## Trimming -/

/-- A text without the blanks in front of it. -/
def trimStart (text : List Char) : List Char :=
  text.dropWhile isBlank

/-- A text without the blanks behind it. -/
def trimEnd (text : List Char) : List Char :=
  (text.reverse.dropWhile isBlank).reverse

/-- A text without the blanks at its two ends. -/
def trim (text : String) : String :=
  String.ofList (trimEnd (trimStart text.toList))

end PermitFilter.Text
