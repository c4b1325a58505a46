import Mathlib.Data.List.Forall2
import PermitFilter.Proofs.Accounting
import PermitFilter.Proofs.Assembly
import PermitFilter.Proofs.FileText
import PermitFilter.Proofs.Layout

/-!
# Lines with their terminators

The terminators behind a line make no difference to what a list of lines comes to. They are
blanks, so the words of the line are the same without them, and a report on the line leaves
them out. So any runs of line feeds and carriage returns may stand behind the lines of a
list, and the lines of a file may be taken with or without what ends them
(`compile_terminators_kept`).

Only the events tell such lists apart, for they show the lines as they are given.
-/

set_option autoImplicit false

namespace PermitFilter

namespace Text

/-- A run of characters that end lines. -/
def IsTerminatorRun (run : String) : Prop :=
  ∀ c ∈ run.toList, c = '\n' ∨ c = '\r'

/-- A gap behind a text hides no word and adds none. -/
theorem wordRuns_append_gap {gap : List Char} (blanks : IsGap gap) (text : List Char) :
    wordRuns (text ++ gap) = wordRuns text := by
  cases gap with
  | nil => rw [List.append_nil]
  | cons c gap =>
    obtain ⟨blank, later⟩ := List.forall_mem_cons.1 blanks
    have none := wordRuns_gap_append later []
    rw [List.append_nil, wordRuns_nil] at none
    rw [wordRuns_append_blank blank, none, List.append_nil]

theorem IsTerminatorRun.isGap {run : String} (terminators : IsTerminatorRun run) :
    IsGap run.toList := by
  intro c member
  rcases terminators c member with rfl | rfl <;> decide

theorem IsTerminatorRun.words_append {run : String} (terminators : IsTerminatorRun run)
    (line : String) : words (line ++ run) = words line := by
  rw [words, String.toList_append, wordRuns_append_gap terminators.isGap, words]

/-- What is left of a line without its terminators is left of it with more of them. -/
theorem Strips.append {line text run : String} (strips : Strips line text)
    (terminators : IsTerminatorRun run) : Strips (line ++ run) text where
  exists_run := by
    obtain ⟨tail, whole, ending⟩ := strips.exists_run
    refine ⟨tail ++ run.toList, ?_, ?_⟩
    · rw [String.toList_append, whole, List.append_assoc]
    · intro c member
      rcases List.mem_append.1 member with member | member
      · exact ending c member
      · exact terminators c member
  last_ne := strips.last_ne

theorem isTerminatorRun_text (terminator : Terminator) : IsTerminatorRun terminator.text := by
  intro c member
  rw [Terminator.text, String.toList_ofList] at member
  exact isTerminator_iff.1 (Terminator.isTerminator_of_mem_chars member)

end Text

/-! ## Lines that read alike -/

/-- Lines that amount to the same and are shown alike in a report. -/
structure ReadsAlike (line other : String) : Prop where
  outcome_eq : Outcome.ofLine line = Outcome.ofLine other
  text_eq : Text.stripTerminators line = Text.stripTerminators other

theorem ReadsAlike.refl (line : String) : ReadsAlike line line :=
  ⟨rfl, rfl⟩

/-- A line reads alike with and without terminators behind it. -/
theorem ReadsAlike.append {run : String} (terminators : Text.IsTerminatorRun run) (line : String) :
    ReadsAlike (line ++ run) line where
  outcome_eq := by rw [Outcome.ofLine, terminators.words_append, Outcome.ofLine]
  text_eq := by
    have strips := (Text.strips_stripTerminators line).append terminators
    exact (Text.strips_iff.1 strips).symm

namespace Survey

/-- A survey without its events. -/
def silent (survey : Survey) : Survey :=
  { survey with events := [] }

variable {survey other : Survey} {line line' : String}

theorem silent_precededBy (same : survey.silent = other.silent) (number : Nat)
    (text : Text.stripTerminators line = Text.stripTerminators line') (outcome : Outcome) :
    (survey.precededBy number line outcome).silent =
      (other.precededBy number line' outcome).silent := by
  simp only [silent, Survey.mk.injEq, and_true] at same
  obtain ⟨lines, skipped, rules, malformed⟩ := same
  cases outcome <;> simp only [precededBy, silent, lines, skipped, rules, malformed, text]

/-- Lines that read alike are surveyed alike, but for the events. -/
theorem silent_ofLinesFrom {lines lines' : List String}
    (alike : List.Forall₂ ReadsAlike lines lines') (policy : Policy) (number : Nat) :
    (ofLinesFrom policy number lines).silent = (ofLinesFrom policy number lines').silent := by
  induction alike generalizing number with
  | nil => rfl
  | cons first _ ih =>
    rw [ofLinesFrom, ofLinesFrom]
    simp only [first.outcome_eq]
    -- either both end at this line or both go on
    split
    · exact silent_precededBy rfl number first.text_eq _
    · exact silent_precededBy (ih (number + 1)) number first.text_eq _

end Survey

/-- What a list comes to is read from the survey without its events. -/
theorem compile_result_eq_of_silent {policy : Policy} {lines lines' : List String}
    (same : (Survey.ofLines policy lines).silent = (Survey.ofLines policy lines').silent) :
    (compile policy lines).result = (compile policy lines').result := by
  have malformed := congrArg Survey.malformed same
  have rules := congrArg Survey.rules same
  cases found : (Survey.ofLines policy lines').malformed with
  | cons first others =>
    rw [compile_of_malformed found, compile_of_malformed (malformed.trans found)]
  | nil =>
    cases composed : Expression.ofRules? (Survey.ofLines policy lines').rules with
    | none =>
      have none := Expression.ofRules?_eq_none_iff.1 composed
      rw [compile_of_rules_eq_nil found none,
        compile_of_rules_eq_nil (malformed.trans found) (rules.trans none)]
    | some expression =>
      have compiled := congrArg (Survey.compiled · expression) same
      rw [compile_of_composed found composed,
        compile_of_composed (malformed.trans found) (rules ▸ composed)]
      exact congrArg Except.ok compiled

theorem compile_result_eq_of_readsAlike {lines lines' : List String}
    (alike : List.Forall₂ ReadsAlike lines lines') (policy : Policy) :
    (compile policy lines).result = (compile policy lines').result :=
  compile_result_eq_of_silent (Survey.silent_ofLinesFrom alike policy 1)

/-- The lines of a text read alike with their terminators. -/
theorem forall₂_readsAlike_pieces (assembly : Text.Assembly) :
    List.Forall₂ ReadsAlike assembly.pieces assembly.lines := by
  apply List.rel_append
  · rw [List.forall₂_map_left_iff, List.forall₂_map_right_iff, List.forall₂_same]
    intro ended _
    exact .append (Text.isTerminatorRun_text ended.terminator) ended.line
  · rw [List.forall₂_same]
    intro line _
    exact .refl line

/-- **Lines come to the same with and without terminators behind them**, whatever runs of
terminators these are. So the lines of a rule file may be taken with the terminators that
they have in its text. -/
theorem compile_terminators_kept (policy : Policy) :
    (∀ lines : List (String × String), (∀ entry ∈ lines, Text.IsTerminatorRun entry.2) →
      (compile policy (lines.map fun entry => entry.1 ++ entry.2)).result =
        (compile policy (lines.map Prod.fst)).result) ∧
    ∀ (tree : FileTree) (path text : String), tree.read path = .ok text.toUTF8 →
      ∃ assembly : Text.Assembly, assembly.text = text ∧
        RuleFile.lines tree path = .ok assembly.lines ∧
        (compile policy assembly.pieces).result = (compile policy assembly.lines).result := by
  refine ⟨?_, ?_⟩
  · intro lines terminators
    apply compile_result_eq_of_readsAlike
    rw [List.forall₂_map_left_iff, List.forall₂_map_right_iff, List.forall₂_same]
    intro entry member
    exact .append (terminators entry member) entry.1
  · intro tree path text found
    obtain ⟨assembly, rfl⟩ := Text.Assembly.exists_text_eq text
    refine ⟨assembly, rfl, ?_, ?_⟩
    · rw [RuleFile.lines, RuleFile.linesOf, decodeFile_eq_ok_iff.2 found, ← assembly.lines_text]
    · exact compile_result_eq_of_readsAlike (forall₂_readsAlike_pieces assembly) policy

/-- Terminators of several kinds, behind lines that end with blanks and terminators of their
own, and a file in which the lines have them. -/
theorem compile_terminators_kept_mixed :
    let lines := [("permit tcp n eq 1", "\r\r\n"), ("permit udp any \r ", "\n\r"), ("note\r", "")]
    let text := "permit tcp n eq 1\r\r\npermit udp any\rnote"
    let tree := FileTree.empty.putFile ["start", "rules"] text.toUTF8
    (∀ entry ∈ lines, Text.IsTerminatorRun entry.2) ∧
      (compile .collect (lines.map fun entry => entry.1 ++ entry.2)).result =
        .error (.malformedLines
          [{ number := 2, text := "permit udp any \r ", reason := .missingNetwork }]) ∧
      tree.read "rules" = .ok text.toUTF8 ∧
      ∃ assembly : Text.Assembly, assembly.text = text ∧
        (compile .collect assembly.pieces).result = (compile .collect assembly.lines).result := by
  intro lines text tree
  have terminators : ∀ entry ∈ lines, Text.IsTerminatorRun entry.2 := by
    simp [lines, Text.IsTerminatorRun]
  have found : tree.read "rules" = .ok text.toUTF8 := by decide +kernel
  obtain ⟨kept, keptInFiles⟩ := compile_terminators_kept .collect
  obtain ⟨assembly, whole, -, same⟩ := keptInFiles tree "rules" text found
  refine ⟨terminators, (kept lines terminators).trans ?_, found, assembly, whole, same⟩
  decide

end PermitFilter
