import Mathlib.Data.List.Pairwise
import PermitFilter.Compilation
import PermitFilter.Proofs.Trimming

/-!
# Accounting for lines

A survey goes through lines one by one and keeps four tallies in step. What it
finds is said here of the lines as a whole: how many there are, how many of them
are skipped, the rules among them, and the malformed ones under their numbers.

A policy may end the survey early, so the lines are those it examines
(`Survey.examined`): those at the beginning of the list, and all of it when malformed
lines are collected. The tallies are right of the examined lines under either policy
(`Survey.accounts_ofLinesFrom`).

When malformed lines are collected, no line of a list is lost, counted twice or
put under another number. A malformed line makes a failure that reports all
malformed lines, each once and in order. If there is none, the rules of the parsed
lines are composed in order, and the tally adds up; if nothing is parsed either,
there are no rules to compose (`compile_collect_accounts`).
-/

set_option autoImplicit false

namespace PermitFilter

/-! ## Surveys -/

/-- The rule an outcome comes with. -/
def Outcome.rule? : Outcome → Option Rule
  | .parsed rule => some rule
  | _ => none

/-- The reason an outcome comes with. -/
def Outcome.reason? : Outcome → Option Reason
  | .malformed reason => some reason
  | _ => none

/-- The report on a line under its number, if the line is malformed. -/
def MalformedLine.ofNumbered? (numbered : String × Nat) : Option MalformedLine :=
  (Outcome.ofLine numbered.1).reason?.map fun reason =>
    { number := numbered.2, text := Text.stripTerminators numbered.1, reason }

@[simp] theorem Outcome.rule?_skipped : skipped.rule? = none := rfl

@[simp] theorem Outcome.rule?_parsed (rule : Rule) : (parsed rule).rule? = some rule := rfl

@[simp] theorem Outcome.rule?_malformed (reason : Reason) : (malformed reason).rule? = none := rfl

@[simp] theorem Outcome.reason?_skipped : skipped.reason? = none := rfl

@[simp] theorem Outcome.reason?_parsed (rule : Rule) : (parsed rule).reason? = none := rfl

@[simp] theorem Outcome.reason?_malformed (reason : Reason) :
    (malformed reason).reason? = some reason := rfl

theorem Outcome.rule?_eq_some_iff {outcome : Outcome} {rule : Rule} :
    outcome.rule? = some rule ↔ outcome = .parsed rule := by
  cases outcome <;> simp

theorem Outcome.reason?_eq_some_iff {outcome : Outcome} {reason : Reason} :
    outcome.reason? = some reason ↔ outcome = .malformed reason := by
  cases outcome <;> simp

theorem MalformedLine.ofNumbered?_eq_some_iff {numbered : String × Nat} {entry : MalformedLine} :
    ofNumbered? numbered = some entry ↔
      Outcome.ofLine numbered.1 = .malformed entry.reason ∧ entry.number = numbered.2 ∧
        entry.text = Text.stripTerminators numbered.1 := by
  rw [ofNumbered?, Option.map_eq_some_iff]
  constructor
  · rintro ⟨reason, found, rfl⟩
    exact ⟨Outcome.reason?_eq_some_iff.1 found, rfl, rfl⟩
  · obtain ⟨number, text, reason⟩ := entry
    rintro ⟨malformed, rfl, rfl⟩
    exact ⟨reason, Outcome.reason?_eq_some_iff.2 malformed, rfl⟩

namespace Survey

/-! ## The lines examined -/

/-- The lines a policy examines: all of them, or those up to the one that ends
the survey. -/
def examined (policy : Policy) : List String → List String
  | [] => []
  | line :: later =>
    if endsAt policy (Outcome.ofLine line) then [line] else line :: examined policy later

@[simp]
theorem endsAt_collect (outcome : Outcome) : endsAt .collect outcome = false := by
  cases outcome <;> rfl

@[simp]
theorem examined_collect (lines : List String) : examined .collect lines = lines := by
  induction lines with
  | nil => rfl
  | cons line later ih => simp [examined, ih]

/-! ## The tallies -/

/-- A survey whose tallies are right of lines numbered from a number on. -/
structure Accounts (survey : Survey) (number : Nat) (lines : List String) : Prop where
  lines_eq : survey.lines = lines.length
  skipped_eq : survey.skipped = (lines.map Outcome.ofLine).count .skipped
  rules_eq : survey.rules = lines.filterMap fun line => (Outcome.ofLine line).rule?
  malformed_eq : survey.malformed = (lines.zipIdx number).filterMap MalformedLine.ofNumbered?

theorem accounts_empty (number : Nat) : empty.Accounts number [] where
  lines_eq := rfl
  skipped_eq := rfl
  rules_eq := rfl
  malformed_eq := rfl

/-- One more line in front keeps the tallies right. -/
theorem Accounts.precededBy {survey : Survey} {number : Nat} {later : List String}
    (accounts : survey.Accounts (number + 1) later) (line : String) :
    (survey.precededBy number line (Outcome.ofLine line)).Accounts number (line :: later) where
  lines_eq := by
    cases Outcome.ofLine line <;> simp [Survey.precededBy, accounts.lines_eq]
  skipped_eq := by
    cases outcome : Outcome.ofLine line <;>
      simp [Survey.precededBy, accounts.skipped_eq, outcome]
  rules_eq := by
    cases outcome : Outcome.ofLine line <;>
      simp [Survey.precededBy, accounts.rules_eq, outcome]
  malformed_eq := by
    cases outcome : Outcome.ofLine line <;>
      simp [Survey.precededBy, accounts.malformed_eq, outcome, MalformedLine.ofNumbered?]

/-- **The tallies of a survey are right of the lines examined.** -/
theorem accounts_ofLinesFrom (policy : Policy) (number : Nat) (lines : List String) :
    (ofLinesFrom policy number lines).Accounts number (examined policy lines) := by
  induction lines generalizing number with
  | nil => exact accounts_empty number
  | cons line later ih =>
    rw [ofLinesFrom, examined]
    split
    · exact (accounts_empty (number + 1)).precededBy line
    · exact (ih (number + 1)).precededBy line

end Survey

/-! ## What compiling makes of a survey -/

theorem compile_of_malformed {policy : Policy} {lines : List String} {first : MalformedLine}
    {others : List MalformedLine}
    (found : (Survey.ofLines policy lines).malformed = first :: others) :
    (compile policy lines).result = .error (policy.failure first others) := by
  simp only [compile, found]

theorem compile_of_rules_eq_nil {policy : Policy} {lines : List String}
    (sound : (Survey.ofLines policy lines).malformed = [])
    (none : (Survey.ofLines policy lines).rules = []) :
    (compile policy lines).result = .error .noRules := by
  simp only [compile, sound, Expression.ofRules?_eq_none_iff.2 none]

/-- The compiled list that a survey comes to, with the expression composed of its rules. -/
def Survey.compiled (survey : Survey) (expression : Expression) : Compiled where
  rules := survey.rules
  expression
  tally := { lines := survey.lines, skipped := survey.skipped, rules := survey.rules.length }

theorem compile_of_composed {policy : Policy} {lines : List String} {expression : Expression}
    (sound : (Survey.ofLines policy lines).malformed = [])
    (composed : Expression.ofRules? (Survey.ofLines policy lines).rules = some expression) :
    (compile policy lines).result = .ok ((Survey.ofLines policy lines).compiled expression) := by
  simp only [compile, sound, composed, Survey.compiled]

theorem compile_of_rules_ne_nil {policy : Policy} {lines : List String}
    (sound : (Survey.ofLines policy lines).malformed = [])
    (some : (Survey.ofLines policy lines).rules ≠ []) :
    ∃ expression, Expression.ofRules? (Survey.ofLines policy lines).rules = .some expression ∧
      (compile policy lines).result =
        .ok {
          rules := (Survey.ofLines policy lines).rules
          expression
          tally :=
            { lines := (Survey.ofLines policy lines).lines
              skipped := (Survey.ofLines policy lines).skipped
              rules := (Survey.ofLines policy lines).rules.length } } := by
  obtain ⟨expression, composed⟩ := Expression.exists_ofRules?_eq_some some
  exact ⟨expression, composed, compile_of_composed sound composed⟩

/-- The three ends of a compilation: a failure at malformed lines, a list without
rules, or the rules of the survey with the expression composed of them. -/
theorem compile_cases (policy : Policy) (lines : List String) :
    (∃ first others, (Survey.ofLines policy lines).malformed = first :: others ∧
      (compile policy lines).result = .error (policy.failure first others)) ∨
    ((Survey.ofLines policy lines).malformed = [] ∧
      (compile policy lines).result = .error .noRules) ∨
    ((Survey.ofLines policy lines).malformed = [] ∧
      ∃ compiled, (compile policy lines).result = .ok compiled ∧
        compiled.rules = (Survey.ofLines policy lines).rules ∧
        Expression.ofRules? compiled.rules = some compiled.expression) := by
  cases malformed : (Survey.ofLines policy lines).malformed with
  | cons first others => exact .inl ⟨first, others, rfl, compile_of_malformed malformed⟩
  | nil =>
    by_cases none : (Survey.ofLines policy lines).rules = []
    · exact .inr (.inl ⟨rfl, compile_of_rules_eq_nil malformed none⟩)
    · obtain ⟨expression, composed, result⟩ := compile_of_rules_ne_nil malformed none
      exact .inr (.inr ⟨rfl, _, result, rfl, composed⟩)

/-- Rules that were compiled are those of the lines examined, and the expression
is composed of them. -/
theorem compiled_of_compile {policy : Policy} {lines : List String} {compiled : Compiled}
    (done : (compile policy lines).result = .ok compiled) :
    compiled.rules = (Survey.ofLines policy lines).rules ∧
      Expression.ofRules? compiled.rules = some compiled.expression := by
  obtain ⟨first, others, -, failed⟩ | ⟨-, failed⟩ | ⟨-, found, result, composed⟩ :=
    compile_cases policy lines
  · simp [failed] at done
  · simp [failed] at done
  · obtain rfl := Except.ok.inj (result.symm.trans done)
    exact composed

/-! ## Lines under their numbers -/

theorem pairwise_zipIdx {α : Type} (list : List α) (number : Nat) :
    (list.zipIdx number).Pairwise (·.2 < ·.2) := by
  induction list generalizing number with
  | nil => exact .nil
  | cons a list ih =>
    refine .cons ?_ (ih (number + 1))
    intro later member
    exact List.le_snd_of_mem_zipIdx member

/-- Entries that report the malformed lines of a list: in the order of their
numbers, one for each malformed line and no others. -/
structure ReportsMalformed (lines : List String) (entries : List MalformedLine) : Prop where
  ordered : entries.Pairwise (·.number < ·.number)
  mem_iff : ∀ entry, entry ∈ entries ↔ ∃ place line, lines[place]? = some line ∧
    Outcome.ofLine line = .malformed entry.reason ∧ entry.number = place + 1 ∧
    Text.Strips line entry.text

theorem reportsMalformed_filterMap (lines : List String) :
    ReportsMalformed lines ((lines.zipIdx 1).filterMap MalformedLine.ofNumbered?) where
  ordered := by
    apply (pairwise_zipIdx lines 1).filterMap
    intro first second before entry found other found'
    have number := (MalformedLine.ofNumbered?_eq_some_iff.1 found).2.1
    have number' := (MalformedLine.ofNumbered?_eq_some_iff.1 found').2.1
    rwa [number, number']
  mem_iff entry := by
    rw [List.mem_filterMap]
    constructor
    · rintro ⟨⟨line, number⟩, member, found⟩
      obtain ⟨malformed, numbered, text⟩ := MalformedLine.ofNumbered?_eq_some_iff.1 found
      obtain ⟨counted, there⟩ := List.mk_mem_zipIdx_iff_le_and_getElem?_sub.1 member
      refine ⟨number - 1, line, there, malformed, ?_, Text.strips_iff.2 text⟩
      rw [numbered, Nat.sub_add_cancel counted]
    · rintro ⟨place, line, there, malformed, numbered, stripped⟩
      refine ⟨(line, place + 1), ?_, ?_⟩
      · exact List.mk_mem_zipIdx_iff_le_and_getElem?_sub.2 ⟨Nat.le_add_left 1 place, there⟩
      · exact MalformedLine.ofNumbered?_eq_some_iff.2
          ⟨malformed, numbered, Text.strips_iff.1 stripped⟩

/-- A compiled list that accounts for its lines. -/
structure Compiled.AccountsFor (compiled : Compiled) (lines : List String) : Prop where
  rules_eq : compiled.rules = lines.filterMap fun line => (Outcome.ofLine line).rule?
  text_eq : compiled.expression.text = orConnective.intercalate (compiled.rules.map Rule.text)
  clauses_eq : compiled.expression.clauses = compiled.rules.length
  tally_rules : compiled.tally.rules = compiled.rules.length
  tally_lines : compiled.tally.lines = lines.length
  tally_skipped : compiled.tally.skipped = (lines.map Outcome.ofLine).count .skipped
  lines_eq_add : compiled.tally.lines = compiled.tally.skipped + compiled.tally.rules

/-- Lines without a malformed one are skipped or state a rule. -/
theorem length_eq_skipped_add_rules {lines : List String}
    (sound : ∀ line ∈ lines, ∀ reason, Outcome.ofLine line ≠ .malformed reason) :
    lines.length = (lines.map Outcome.ofLine).count .skipped +
      (lines.filterMap fun line => (Outcome.ofLine line).rule?).length := by
  induction lines with
  | nil => rfl
  | cons line later ih =>
    have rest := ih fun line member => sound line (List.mem_cons_of_mem _ member)
    cases outcome : Outcome.ofLine line with
    | skipped =>
      simp only [List.map_cons, outcome, List.count_cons_self, List.filterMap_cons,
        Outcome.rule?_skipped, List.length_cons]
      omega
    | parsed rule =>
      have other : Outcome.parsed rule ≠ .skipped := by simp
      simp only [List.map_cons, outcome, List.count_cons_of_ne other, List.filterMap_cons,
        Outcome.rule?_parsed, List.length_cons]
      omega
    | malformed reason => exact absurd outcome (sound line (List.mem_cons_self ..) reason)

/-! ## Collecting -/

section Collect

variable {lines : List String}

theorem accounts_collect (lines : List String) :
    (Survey.ofLines .collect lines).Accounts 1 lines := by
  have accounts := Survey.accounts_ofLinesFrom .collect 1 lines
  rwa [Survey.examined_collect] at accounts

theorem malformed_collect_eq_nil_iff :
    (Survey.ofLines .collect lines).malformed = [] ↔
      ∀ line ∈ lines, ∀ reason, Outcome.ofLine line ≠ .malformed reason := by
  have reports := reportsMalformed_filterMap lines
  rw [(accounts_collect lines).malformed_eq, List.eq_nil_iff_forall_not_mem]
  constructor
  · intro none line member reason malformed
    obtain ⟨place, there⟩ := List.mem_iff_getElem?.1 member
    exact none { number := place + 1, text := Text.stripTerminators line, reason }
      ((reports.mem_iff _).2 ⟨place, line, there, malformed, rfl, Text.strips_iff.2 rfl⟩)
  · intro sound entry member
    obtain ⟨place, line, there, malformed, _⟩ := (reports.mem_iff entry).1 member
    exact sound line (List.mem_of_getElem? there) entry.reason malformed

theorem rules_collect_eq_nil_iff :
    (Survey.ofLines .collect lines).rules = [] ↔
      ∀ line ∈ lines, ∀ rule, Outcome.ofLine line ≠ .parsed rule := by
  rw [(accounts_collect lines).rules_eq, List.filterMap_eq_nil_iff]
  constructor
  · intro none line member rule parsed
    simpa [parsed] using none line member
  · intro unparsed line member
    cases outcome : Outcome.ofLine line with
    | skipped | malformed => rfl
    | parsed rule => exact absurd outcome (unparsed line member rule)

/-- **Every line is accounted for.** With malformed lines collected there are
three ends: a report of exactly the malformed lines, if there is one; else the
rules of all parsed lines, if there is one; else no rules. -/
theorem compile_collect_accounts (lines : List String) :
    ((∃ line ∈ lines, ∃ reason, Outcome.ofLine line = .malformed reason) →
      ∃ entries, (compile .collect lines).result = .error (.malformedLines entries) ∧
        ReportsMalformed lines entries) ∧
    ((∀ line ∈ lines, ∀ reason, Outcome.ofLine line ≠ .malformed reason) →
      (∃ line ∈ lines, ∃ rule, Outcome.ofLine line = .parsed rule) →
      ∃ compiled, (compile .collect lines).result = .ok compiled ∧ compiled.AccountsFor lines) ∧
    ((∀ line ∈ lines, Outcome.ofLine line = .skipped) →
      (compile .collect lines).result = .error .noRules) := by
  have accounts := accounts_collect lines
  refine ⟨?_, ?_, ?_⟩
  · rintro ⟨line, member, reason, malformed⟩
    cases found : (Survey.ofLines .collect lines).malformed with
    | nil => exact absurd malformed (malformed_collect_eq_nil_iff.1 found line member reason)
    | cons first others =>
      refine ⟨first :: others, compile_of_malformed found, ?_⟩
      rw [← found, accounts.malformed_eq]
      exact reportsMalformed_filterMap lines
  · rintro sound ⟨line, member, rule, parsed⟩
    have some : (Survey.ofLines .collect lines).rules ≠ [] := by
      intro none
      exact rules_collect_eq_nil_iff.1 none line member rule parsed
    obtain ⟨expression, composed, result⟩ :=
      compile_of_rules_ne_nil (malformed_collect_eq_nil_iff.2 sound) some
    refine ⟨_, result, ?_⟩
    constructor
    · exact accounts.rules_eq
    · exact Expression.text_of_ofRules? composed
    · exact Expression.clauses_of_ofRules? composed
    · rfl
    · exact accounts.lines_eq
    · exact accounts.skipped_eq
    · simp only [accounts.lines_eq, accounts.skipped_eq, accounts.rules_eq]
      exact length_eq_skipped_add_rules sound
  · intro skipped
    apply compile_of_rules_eq_nil
    · rw [malformed_collect_eq_nil_iff]
      intro line member reason
      simp [skipped line member]
    · rw [rules_collect_eq_nil_iff]
      intro line member rule
      simp [skipped line member]

end Collect

end PermitFilter
