import PermitFilter.Expression
import PermitFilter.Proofs.Accounting
import PermitFilter.Proofs.Layout
import PermitFilter.Proofs.RuleGrammar

/-!
# Words of an expression

A rule is well formed when its texts are words, it lists at least one port if it
lists any, and the word `any` does not stand among the ports behind the first.
Every rule that a line states is well formed (`wellFormed_of_ofLine`), and so is
every rule of a compiled list (`wellFormed_of_compile`).

The text of an expression is a list of words with one space between any two. The
words of a clause are fixed ones, the network, the protocol, and the words of its
ports; the closing parentheses belong to the last of them. Between two clauses, as
between two ports, stands the word `or`. When the rules are well formed the words of
the text are these very words (`words_text_of_ofRules?`).
-/

set_option autoImplicit false

namespace PermitFilter

/-! ## Well-formed rules -/

/-- Ports that can be written in a line: words, at least one, and behind the first
none that ends the list. -/
def Ports.WellFormed : Ports → Prop
  | .list ports => ports ≠ [] ∧ (∀ port ∈ ports, Text.IsWord port) ∧ anyKeyword ∉ ports.tail
  | .range low high => Text.IsWord low ∧ Text.IsWord high

/-- A rule that can be written in a line. -/
structure Rule.WellFormed (rule : Rule) : Prop where
  protocol : Text.IsWord rule.protocol
  network : Text.IsWord rule.network
  ports : rule.ports.WellFormed

instance decidablePortsWellFormed (ports : Ports) : Decidable ports.WellFormed :=
  match ports with
  | .list ports =>
    inferInstanceAs
      (Decidable (ports ≠ [] ∧ (∀ port ∈ ports, Text.IsWord port) ∧ anyKeyword ∉ ports.tail))
  | .range low high => inferInstanceAs (Decidable (Text.IsWord low ∧ Text.IsWord high))

instance decidableRuleWellFormed (rule : Rule) : Decidable rule.WellFormed :=
  decidable_of_iff
    (Text.IsWord rule.protocol ∧ Text.IsWord rule.network ∧ rule.ports.WellFormed)
    ⟨fun ⟨protocol, network, ports⟩ => ⟨protocol, network, ports⟩,
      fun wellFormed => ⟨wellFormed.protocol, wellFormed.network, wellFormed.ports⟩⟩

theorem withoutSecondAny_sublist (words : List String) :
    (withoutSecondAny words).Sublist words := by
  rw [withoutSecondAny]
  split
  · exact List.eraseIdx_sublist words 1
  · exact List.Sublist.refl words

/-- A rule read from words is well formed. -/
theorem Rule.Reads.wellFormed {words : List String} {rule : Rule}
    (reads : Rule.Reads words (.ok rule)) (whole : ∀ word ∈ words, Text.IsWord word) :
    rule.WellFormed := by
  obtain ⟨first, further, others, rfl, longest, ports⟩ | ⟨low, high, rest, rfl, ports⟩ :=
    Rule.reads_ok_iff.1 reads
  · refine ⟨whole _ (by simp), whole _ (by simp), ?_⟩
    rw [ports]
    refine ⟨List.cons_ne_nil first others, ?_, longest.without⟩
    intro port member
    rcases List.mem_cons.1 member with rfl | member
    · exact whole port (by simp)
    · have inside := longest.isBeginning.subset member
      exact whole port (by simp [inside])
  · refine ⟨whole _ (by simp), whole _ (by simp), ?_⟩
    rw [ports]
    exact ⟨whole low (by simp), whole high (by simp)⟩

/-- A line that is not skipped opens with `permit`, and the words behind it are read with
the result that the line amounts to. -/
theorem reads_of_ofLine {line : String} (result : Except Reason Rule)
    (amounts : Outcome.ofLine line = .ofResult result) :
    ∃ body, Text.words line = permitKeyword :: body ∧
      Rule.Reads (withoutSecondAny body) result := by
  rw [Outcome.ofLine] at amounts
  have states : Outcome.ofWords (Text.words line) ≠ .skipped := by
    rw [amounts]
    exact Outcome.ofResult_ne_skipped result
  obtain ⟨body, words⟩ := Outcome.exists_eq_permit_cons states
  rw [words] at amounts
  exact ⟨body, words, (Outcome.ofWords_permit_eq_iff result).1 amounts⟩

/-- **Every rule that a line states is well formed.** -/
theorem wellFormed_of_ofLine {line : String} {rule : Rule}
    (parsed : Outcome.ofLine line = .parsed rule) : rule.WellFormed := by
  obtain ⟨body, words, reads⟩ := reads_of_ofLine (.ok rule) parsed
  apply reads.wellFormed
  intro word member
  have inside := (withoutSecondAny_sublist body).subset member
  exact Text.isWord_of_mem_words (by rw [words]; exact List.mem_cons_of_mem _ inside)

/-- The rules of a compiled list are well formed. -/
theorem wellFormed_of_compile {policy : Policy} {lines : List String} {compiled : Compiled}
    (done : (compile policy lines).result = .ok compiled) :
    ∀ rule ∈ compiled.rules, rule.WellFormed := by
  intro rule member
  rw [(compiled_of_compile done).1, Survey.ofLines,
    (Survey.accounts_ofLinesFrom policy 1 lines).rules_eq] at member
  obtain ⟨line, _, parsed⟩ := List.mem_filterMap.1 member
  exact wellFormed_of_ofLine (Outcome.rule?_eq_some_iff.1 parsed)

/-! ## Words of clauses -/

/-- The word between alternatives. -/
def orWord : String := "or"

/-- The words from the first port of a list to the end of its clause. -/
def Ports.listWords : String → List String → List String
  | last, [] => [last ++ "))"]
  | port, next :: others => port :: orWord :: listWords next others

/-- The words of the port condition, up to the end of its clause. -/
def Ports.words : Ports → List String
  | .list [] => ["(port", "))"]
  | .list (first :: others) => "(port" :: listWords first others
  | .range low high => ["portrange", low ++ "-" ++ high ++ ")"]

/-- The words of a clause. -/
def Rule.words (rule : Rule) : List String :=
  "(net" :: rule.network :: "and" :: rule.protocol :: "and" :: rule.ports.words

/-- The words of clauses behind another one. -/
def Rule.laterWords : List Rule → List String
  | [] => []
  | rule :: rules => orWord :: (rule.words ++ laterWords rules)

/-! ## Texts of words -/

theorem Ports.listWords_ne_nil (first : String) (others : List String) :
    listWords first others ≠ [] := by
  cases others <;> simp [listWords]

theorem Ports.words_ne_nil (ports : Ports) : ports.words ≠ [] := by
  rcases ports with (_ | _) | _ <;> simp [words]

theorem orConnective_eq : orConnective = " " ++ (orWord ++ " ") := by
  decide

theorem Ports.spaced_listWords (first : String) (others : List String) :
    Text.spaced (listWords first others) = orConnective.intercalate (first :: others) ++ "))" := by
  induction others generalizing first with
  | nil => simp [listWords, Text.spaced]
  | cons next others ih =>
    have more := listWords_ne_nil next others
    rw [listWords, Text.spaced_cons (by simp), Text.spaced_cons more, ih,
      String.intercalate_cons_cons, orConnective_eq]
    simp only [String.append_assoc]

/-- The words of the ports spell their condition and the end of the clause. -/
theorem Ports.spaced_words (ports : Ports) : Text.spaced ports.words = ports.text ++ ")" := by
  match ports with
  | .list [] => decide
  | .list (first :: others) =>
    have opening : "(port " = "(port" ++ " " := by decide
    have closing : "))" = ")" ++ ")" := by decide
    rw [words, Text.spaced_cons (listWords_ne_nil first others), spaced_listWords, text, opening,
      closing]
    simp only [String.append_assoc]
  | .range low high =>
    have opening : "portrange " = "portrange" ++ " " := by decide
    rw [words, Text.spaced, String.intercalate_cons_cons, String.intercalate_singleton, text,
      opening]
    simp only [String.append_assoc]

/-- The words of a clause spell it. -/
theorem Rule.spaced_words (rule : Rule) : Text.spaced rule.words = rule.text := by
  have opening : "(net " = "(net" ++ " " := by decide
  have connective : " and " = " " ++ ("and" ++ " ") := by decide
  have ports := rule.ports.words_ne_nil
  simp only [words, Text.spaced_cons, ports, ne_eq, not_false_eq_true, reduceCtorEq,
    Ports.spaced_words, text, opening, connective, String.append_assoc]

theorem Rule.words_ne_nil (rule : Rule) : rule.words ≠ [] :=
  List.cons_ne_nil _ _

/-- The words of clauses spell the clauses with the connective between them. -/
theorem Rule.spaced_words_append_laterWords (rule : Rule) (rules : List Rule) :
    Text.spaced (rule.words ++ laterWords rules) =
      orConnective.intercalate (rule.text :: rules.map Rule.text) := by
  induction rules generalizing rule with
  | nil => simp [laterWords, spaced_words]
  | cons next rules ih =>
    have more : next.words ++ laterWords rules ≠ [] := by simp [next.words_ne_nil]
    rw [laterWords, Text.spaced, String.intercalate_append_of_ne_nil rule.words_ne_nil (by simp),
      ← Text.spaced, ← Text.spaced, Text.spaced_cons more, ih, spaced_words, List.map_cons,
      String.intercalate_cons_cons, orConnective_eq]
    simp only [String.append_assoc]

/-! ## Words of texts -/

theorem Ports.isWord_of_mem_listWords {first : String} {others : List String} {word : String}
    (whole : ∀ port ∈ first :: others, Text.IsWord port) (member : word ∈ listWords first others) :
    Text.IsWord word := by
  have closing : Text.IsWord "))" := by decide
  have connective : Text.IsWord orWord := by decide
  induction others generalizing first with
  | nil =>
    rw [listWords, List.mem_singleton] at member
    rw [member]
    exact (whole first (List.mem_cons_self ..)).append closing
  | cons next others ih =>
    simp only [listWords, List.mem_cons] at member
    rcases member with rfl | rfl | member
    · exact whole word (List.mem_cons_self ..)
    · exact connective
    · exact ih (fun port inside => whole port (List.mem_cons_of_mem _ inside)) member

theorem Ports.isWord_of_mem_words {ports : Ports} {word : String} (wellFormed : ports.WellFormed)
    (member : word ∈ ports.words) : Text.IsWord word := by
  match ports with
  | .list [] => exact absurd rfl wellFormed.1
  | .list (first :: others) =>
    rcases List.mem_cons.1 member with rfl | member
    · decide
    · exact isWord_of_mem_listWords wellFormed.2.1 member
  | .range low high =>
    have between : Text.IsWord "-" := by decide
    have closing : Text.IsWord ")" := by decide
    simp only [words, List.mem_cons, List.not_mem_nil, or_false] at member
    rcases member with rfl | rfl
    · decide
    · exact ((wellFormed.1.append between).append wellFormed.2).append closing

theorem Rule.isWord_of_mem_words {rule : Rule} {word : String} (wellFormed : rule.WellFormed)
    (member : word ∈ rule.words) : Text.IsWord word := by
  have connective : Text.IsWord "and" := by decide
  simp only [words, List.mem_cons] at member
  rcases member with rfl | rfl | rfl | rfl | rfl | member
  · decide
  · exact wellFormed.network
  · exact connective
  · exact wellFormed.protocol
  · exact connective
  · exact Ports.isWord_of_mem_words wellFormed.ports member

theorem Rule.isWord_of_mem_laterWords {rules : List Rule} {word : String}
    (wellFormed : ∀ rule ∈ rules, rule.WellFormed) (member : word ∈ laterWords rules) :
    Text.IsWord word := by
  induction rules with
  | nil => simp [laterWords] at member
  | cons rule rules ih =>
    rw [laterWords, List.mem_cons, List.mem_append] at member
    rcases member with rfl | member | member
    · decide
    · exact isWord_of_mem_words (wellFormed rule (List.mem_cons_self ..)) member
    · exact ih (fun rule inside => wellFormed rule (List.mem_cons_of_mem _ inside)) member

/-- The words of well-formed rules are words. -/
theorem Rule.isWord_of_mem_words_append_laterWords {rule : Rule} {rules : List Rule}
    (wellFormed : ∀ each ∈ rule :: rules, each.WellFormed) :
    ∀ word ∈ rule.words ++ laterWords rules, Text.IsWord word := by
  obtain ⟨first, later⟩ := List.forall_mem_cons.1 wellFormed
  intro word member
  rcases List.mem_append.1 member with member | member
  · exact isWord_of_mem_words first member
  · exact isWord_of_mem_laterWords later member

/-- The text of an expression is the words of its rules with one space between any
two. -/
theorem Expression.text_eq_spaced {rule : Rule} {rules : List Rule} {expression : Expression}
    (composed : ofRules? (rule :: rules) = some expression) :
    expression.text = Text.spaced (rule.words ++ Rule.laterWords rules) := by
  rw [text_of_ofRules? composed, List.map_cons, ← Rule.spaced_words_append_laterWords]

/-- **The words of the text of well-formed rules.** They are the words of the
clauses, with `or` between the clauses. -/
theorem words_text_of_ofRules? {rule : Rule} {rules : List Rule} {expression : Expression}
    (wellFormed : ∀ each ∈ rule :: rules, each.WellFormed)
    (composed : Expression.ofRules? (rule :: rules) = some expression) :
    Text.words expression.text = rule.words ++ Rule.laterWords rules := by
  rw [Expression.text_eq_spaced composed]
  exact Text.words_spaced (Rule.isWord_of_mem_words_append_laterWords wellFormed)

/-- The text of a compiled list is a list of words with one space between any two, and
the first of them opens a clause. -/
theorem exists_text_eq_spaced {policy : Policy} {lines : List String} {compiled : Compiled}
    (done : (compile policy lines).result = .ok compiled) :
    ∃ later, (∀ word ∈ "(net" :: later, Text.IsWord word) ∧
      compiled.expression.text = Text.spaced ("(net" :: later) := by
  obtain ⟨-, composed⟩ := compiled_of_compile done
  have wellFormed := wellFormed_of_compile done
  obtain ⟨rule, others, rules⟩ :=
    List.exists_cons_of_ne_nil (Expression.ne_nil_of_ofRules? composed)
  rw [rules] at composed wellFormed
  exact ⟨_, Rule.isWord_of_mem_words_append_laterWords wellFormed,
    Expression.text_eq_spaced composed⟩

end PermitFilter
