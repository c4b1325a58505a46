import Mathlib.Data.List.Chain
import PermitFilter.Text.Blank

/-!
# Layouts of words

A text lays out a list of words when it shows them in order with blanks around
them: each word is a run without blanks, and directly behind it the text ends or
goes on with a blank. So the words laid out are the maximal runs without blanks.
Every text lays out exactly one list of words, and that list is what
`Text.words` gives (`laysOut_iff`).

Of all the texts that lay out a list of words one has a single space between any two of
them and nothing around them. Its words are the list again (`words_spaced`), it holds no
other blank, and no space of it stands at an end or beside another
(`isSingleSpaced_spaced`). A space between two texts keeps their words apart, whatever
blanks the texts have at their ends (`words_append_space_append`).
-/

set_option autoImplicit false

namespace PermitFilter.Text

/-- A run of characters that can be a word: not empty and without blanks. -/
def IsWordRun (run : List Char) : Prop :=
  run ≠ [] ∧ ∀ c ∈ run, isBlank c = false

/-- A run of blanks, possibly empty. -/
def IsGap (gap : List Char) : Prop :=
  ∀ c ∈ gap, isBlank c = true

/-- Whether a text is at its end or goes on with a blank. -/
def StartsBlank : List Char → Prop
  | [] => True
  | c :: _ => isBlank c = true

/-- A list of runs and a text that lays them out. -/
inductive Layout : List (List Char) → List Char → Prop where
  | blank {gap : List Char} (blanks : IsGap gap) : Layout [] gap
  | word {gap run rest : List Char} {runs : List (List Char)} (blanks : IsGap gap)
      (whole : IsWordRun run) (ends : StartsBlank rest) (later : Layout runs rest) :
      Layout (run :: runs) (gap ++ (run ++ rest))

/-- A text that lays out a list of words. -/
def LaysOut (words : List String) (text : String) : Prop :=
  Layout (words.map String.toList) text.toList

theorem IsGap.cons {c : Char} {gap : List Char} (blank : isBlank c = true) (blanks : IsGap gap) :
    IsGap (c :: gap) := by
  intro d member
  rcases List.mem_cons.1 member with rfl | member
  · exact blank
  · exact blanks d member

theorem IsGap.startsBlank {gap : List Char} (blanks : IsGap gap) : StartsBlank gap := by
  cases gap with
  | nil => trivial
  | cons c gap => exact blanks c (List.mem_cons_self ..)

/-- A gap in front of a text hides no word and adds none. -/
theorem wordRuns_gap_append {gap : List Char} (blanks : IsGap gap) (text : List Char) :
    wordRuns (gap ++ text) = wordRuns text := by
  induction gap with
  | nil => rfl
  | cons c gap ih =>
    have blank : isBlank c = true := blanks c (List.mem_cons_self ..)
    have later : IsGap gap := fun d member => blanks d (List.mem_cons_of_mem _ member)
    have split := wordRuns_append_blank blank [] (gap ++ text)
    rw [List.nil_append, wordRuns_nil, List.nil_append] at split
    rw [List.cons_append, split, ih later]

/-- A word at the front of a text is its first word, if a blank or nothing
follows. -/
theorem wordRuns_word_append {run rest : List Char} (whole : IsWordRun run)
    (ends : StartsBlank rest) : wordRuns (run ++ rest) = run :: wordRuns rest := by
  cases rest with
  | nil => rw [List.append_nil, wordRuns_eq_singleton whole.1 whole.2, wordRuns_nil]
  | cons c rest =>
    have behind := wordRuns_append_blank ends [] rest
    rw [List.nil_append, wordRuns_nil, List.nil_append] at behind
    rw [wordRuns_append_blank ends, wordRuns_eq_singleton whole.1 whole.2, behind]
    rfl

/-- A text lays out no other runs than its words. -/
theorem Layout.wordRuns_eq {runs : List (List Char)} {text : List Char}
    (layout : Layout runs text) : wordRuns text = runs := by
  induction layout with
  | blank blanks =>
    have none := wordRuns_gap_append blanks []
    rwa [List.append_nil, wordRuns_nil] at none
  | word blanks whole ends _ ih =>
    rw [wordRuns_gap_append blanks, wordRuns_word_append whole ends, ih]

/-- Every text lays out some runs. The induction is on the text; one more
character in front widens the first gap, lengthens the first word or is a word of
its own. -/
theorem exists_layout (text : List Char) : ∃ runs, Layout runs text := by
  induction text with
  | nil => exact ⟨[], .blank fun _ member => by simp at member⟩
  | cons c text ih =>
    obtain ⟨runs, layout⟩ := ih
    cases blank : isBlank c with
    | true =>
      cases layout with
      | blank blanks => exact ⟨[], .blank (blanks.cons blank)⟩
      | word blanks whole ends later => exact ⟨_, .word (blanks.cons blank) whole ends later⟩
    | false =>
      have nothing : IsGap [] := fun _ member => by simp at member
      have alone : IsWordRun [c] := ⟨by simp, by simpa using blank⟩
      cases layout with
      | blank blanks => exact ⟨_, .word nothing alone blanks.startsBlank (.blank blanks)⟩
      | @word gap run rest runs blanks whole ends later =>
        cases gap with
        | nil =>
          have longer : IsWordRun (c :: run) := ⟨by simp, by simpa [blank] using whole.2⟩
          exact ⟨_, .word nothing longer ends later⟩
        | cons d gap =>
          exact ⟨_, .word nothing alone (blanks d (List.mem_cons_self ..))
            (.word blanks whole ends later)⟩

/-- A text lays out its words. -/
theorem layout_wordRuns (text : List Char) : Layout (wordRuns text) text := by
  obtain ⟨runs, layout⟩ := exists_layout text
  rwa [layout.wordRuns_eq]

/-- **The words of a text are its maximal runs without blanks.** -/
theorem laysOut_iff {words : List String} {text : String} :
    LaysOut words text ↔ Text.words text = words := by
  constructor
  · intro laid
    have same := Layout.wordRuns_eq laid
    rw [Text.words, same, List.map_map]
    simp [Function.comp_def]
  · rintro rfl
    have laid := layout_wordRuns text.toList
    simpa [LaysOut, Text.words, Function.comp_def] using laid

/-- A text without words is all blanks. -/
theorem words_eq_nil_iff {text : String} : words text = [] ↔ IsGap text.toList := by
  rw [← laysOut_iff, LaysOut, List.map_nil]
  constructor
  · intro laid
    cases laid with
    | blank blanks => exact blanks
  · exact .blank

/-! ## Words as texts -/

/-- A text that can be a word. -/
def IsWord (text : String) : Prop :=
  IsWordRun text.toList

instance decidableIsWord (text : String) : Decidable (IsWord text) :=
  decidable_of_iff ((!text.toList.isEmpty && text.toList.all fun c => !isBlank c) = true)
    (by simp [IsWord, IsWordRun])

/-- Two words written together are one. -/
theorem IsWord.append {first second : String} (whole : IsWord first) (whole' : IsWord second) :
    IsWord (first ++ second) := by
  rw [IsWord, String.toList_append]
  refine ⟨List.append_ne_nil_of_left_ne_nil whole.1 _, ?_⟩
  intro c member
  rcases List.mem_append.1 member with member | member
  · exact whole.2 c member
  · exact whole'.2 c member

/-- Every word of a text can be one. -/
theorem isWord_of_mem_words {text word : String} (member : word ∈ words text) : IsWord word := by
  obtain ⟨run, inside, rfl⟩ := List.mem_map.1 member
  rw [IsWord, String.toList_ofList]
  exact mem_wordRuns inside

/-! ## Words with spaces between them -/

/-- The text of words with one space between any two. -/
def spaced (words : List String) : String :=
  " ".intercalate words

theorem spaced_cons {word : String} {words : List String} (more : words ≠ []) :
    spaced (word :: words) = word ++ (" " ++ spaced words) := by
  rw [spaced, String.intercalate_cons_of_ne_nil more, String.append_assoc]
  rfl

theorem isBlank_space : isBlank ' ' = true := by
  decide

/-- A space between two texts keeps their words apart. -/
theorem words_append_space_append (before after : String) :
    words (before ++ " " ++ after) = words before ++ words after := by
  have between : (before ++ " " ++ after).toList = before.toList ++ ' ' :: after.toList := by
    simp [String.toList_append]
  rw [words, between, wordRuns_append_blank isBlank_space, List.map_append]
  rfl

theorem words_eq_singleton {word : String} (whole : IsWord word) : words word = [word] := by
  rw [words, wordRuns_eq_singleton whole.1 whole.2, List.map_singleton, String.ofList_toList]

/-- Words with one space between any two are laid out. -/
theorem words_spaced {words : List String} (whole : ∀ word ∈ words, IsWord word) :
    Text.words (spaced words) = words := by
  induction words with
  | nil => decide
  | cons word words ih =>
    obtain ⟨first, others⟩ := List.forall_mem_cons.1 whole
    by_cases more : words = []
    · subst more
      rw [spaced, String.intercalate_singleton, words_eq_singleton first]
    · rw [spaced_cons more, ← String.append_assoc, words_append_space_append,
        words_eq_singleton first, ih others]
      rfl

theorem laysOut_spaced {words : List String} (whole : ∀ word ∈ words, IsWord word) :
    LaysOut words (spaced words) :=
  laysOut_iff.2 (words_spaced whole)

/-! ## Single spaces -/

/-- A run of characters in which the only blanks are single spaces inside. -/
structure IsSingleSpaced (run : List Char) : Prop where
  eq_space : ∀ c ∈ run, isBlank c = true → c = ' '
  first_ne : run.head? ≠ some ' '
  last_ne : run.getLast? ≠ some ' '
  /-- No space stands beside another. -/
  apart : run.IsChain fun c d => ¬(c = ' ' ∧ d = ' ')

section SingleSpaced

variable {run rest : List Char}

theorem IsWordRun.ne_space (whole : IsWordRun run) {c : Char} (member : c ∈ run) : c ≠ ' ' := by
  rintro rfl
  have inside := whole.2 ' ' member
  simp [isBlank_space] at inside

/-- A word has no blanks at all. -/
theorem IsWordRun.isSingleSpaced (whole : IsWordRun run) : IsSingleSpaced run where
  eq_space c member blank := by simp [whole.2 c member] at blank
  first_ne first := whole.ne_space (List.mem_of_mem_head? first) rfl
  last_ne last := whole.ne_space (List.mem_of_mem_getLast? last) rfl
  apart := by
    refine List.Pairwise.isChain (List.pairwise_of_forall_mem_list ?_)
    rintro c member d - ⟨space, -⟩
    exact whole.ne_space member space

/-- One more word in front, with a space behind it, leaves the spaces single. -/
theorem IsSingleSpaced.word_append (spaced : IsSingleSpaced rest) (whole : IsWordRun run)
    (filled : rest ≠ []) : IsSingleSpaced (run ++ ' ' :: rest) where
  eq_space c member blank := by
    rcases List.mem_append.1 member with member | member
    · exact whole.isSingleSpaced.eq_space c member blank
    · rcases List.mem_cons.1 member with rfl | member
      · rfl
      · exact spaced.eq_space c member blank
  first_ne := by
    rw [List.head?_append_of_ne_nil _ whole.1]
    exact whole.isSingleSpaced.first_ne
  last_ne := by
    rw [List.getLast?_append_of_ne_nil _ (List.cons_ne_nil _ _),
      List.getLast?_cons_of_ne_nil filled]
    exact spaced.last_ne
  apart := by
    rw [List.isChain_append, List.isChain_cons]
    refine ⟨whole.isSingleSpaced.apart, ⟨?_, spaced.apart⟩, ?_⟩
    · rintro d first ⟨-, rfl⟩
      exact spaced.first_ne first
    · rintro c last d - ⟨rfl, -⟩
      exact whole.isSingleSpaced.last_ne last

end SingleSpaced

theorem toList_spaced_ne_nil {words : List String} (whole : ∀ word ∈ words, IsWord word)
    (more : words ≠ []) : (spaced words).toList ≠ [] := by
  intro empty
  have none : Text.words (spaced words) = [] := by
    rw [Text.words, empty, wordRuns_nil, List.map_nil]
  exact more ((words_spaced whole).symm.trans none)

/-- **Words with one space between any two have single spaces.** -/
theorem isSingleSpaced_spaced {words : List String} (whole : ∀ word ∈ words, IsWord word) :
    IsSingleSpaced (spaced words).toList := by
  induction words with
  | nil => exact ⟨by simp [spaced], by simp [spaced], by simp [spaced], by simp [spaced]⟩
  | cons word words ih =>
    obtain ⟨first, others⟩ := List.forall_mem_cons.1 whole
    by_cases more : words = []
    · subst more
      rw [spaced, String.intercalate_singleton]
      exact first.isSingleSpaced
    · have opened : (spaced (word :: words)).toList =
          word.toList ++ ' ' :: (spaced words).toList := by
        simp [spaced_cons more]
      rw [opened]
      exact (ih others).word_append first (toList_spaced_ne_nil others more)

end PermitFilter.Text
