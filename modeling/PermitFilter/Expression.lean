/-!
# Composed expressions

The clauses of a list of rules are composed into one expression that matches
when any clause does. Nothing is composed of no rules.

The expression of some rules counts one clause for each (`clauses_of_ofRules?`),
and its text is the texts of the rules with the connective between them
(`text_of_ofRules?`).
-/

set_option autoImplicit false

namespace PermitFilter

/-! ## Rules -/

/-- The ports a rule permits. -/
inductive Ports where
  /-- The ports one by one, in the order they are written. -/
  | list (ports : List String)
  /-- Every port from `low` to `high`. -/
  | range (low high : String)
  deriving DecidableEq, Repr

/-- A permitted combination of protocol, network and ports. -/
structure Rule where
  protocol : String
  network : String
  ports : Ports
  deriving DecidableEq, Repr

/-- What stands between alternatives, between ports as between clauses. -/
def orConnective : String := " or "

/-- The port condition of a clause. -/
def Ports.text : Ports → String
  | .list ports => "(port " ++ orConnective.intercalate ports ++ ")"
  | .range low high => "portrange " ++ low ++ "-" ++ high

/-- The clause of a rule: network, protocol and ports must all match. -/
def Rule.text (rule : Rule) : String :=
  "(net " ++ rule.network ++ " and " ++ rule.protocol ++ " and " ++ rule.ports.text ++ ")"

/-! ## Expressions -/

/-- A filter expression composed of clauses. -/
structure Expression where
  text : String
  clauses : Nat
  deriving DecidableEq, Repr

namespace Expression

/-- The expression of one rule. -/
def ofRule (rule : Rule) : Expression where
  text := rule.text
  clauses := 1

/-- The expression with the clause of one more rule behind it. -/
def orRule (expression : Expression) (rule : Rule) : Expression where
  text := expression.text ++ orConnective ++ rule.text
  clauses := expression.clauses + 1

/-- The expression that matches when one of the rules does, if there is any. -/
def ofRules? : List Rule → Option Expression
  | [] => none
  | first :: others => some (others.foldl orRule (ofRule first))

theorem clauses_foldl_orRule (rules : List Rule) (expression : Expression) :
    (rules.foldl orRule expression).clauses = expression.clauses + rules.length := by
  induction rules generalizing expression with
  | nil => rfl
  | cons rule rules ih =>
    simp only [List.foldl_cons, ih, orRule, List.length_cons]
    omega

theorem text_foldl_orRule (rules : List Rule) (expression : Expression) :
    (rules.foldl orRule expression).text =
      orConnective.intercalate (expression.text :: rules.map Rule.text) := by
  induction rules generalizing expression with
  | nil => simp
  | cons rule rules ih =>
    rw [List.foldl_cons, ih, orRule, List.map_cons]
    cases rules <;> simp [String.append_assoc]

/-- There is an expression exactly when there is a rule. -/
theorem ofRules?_eq_none_iff {rules : List Rule} : ofRules? rules = none ↔ rules = [] := by
  cases rules <;> simp [ofRules?]

/-- What is composed has rules. -/
theorem ne_nil_of_ofRules? {rules : List Rule} {expression : Expression}
    (composed : ofRules? rules = some expression) : rules ≠ [] := by
  rintro rfl
  simp [ofRules?] at composed

/-- Any rules at all are composed. -/
theorem exists_ofRules?_eq_some {rules : List Rule} (filled : rules ≠ []) :
    ∃ expression, ofRules? rules = some expression :=
  Option.ne_none_iff_exists'.1 (mt ofRules?_eq_none_iff.1 filled)

/-- An expression has one clause for each rule. -/
theorem clauses_of_ofRules? {rules : List Rule} {expression : Expression}
    (composed : ofRules? rules = some expression) : expression.clauses = rules.length := by
  cases rules with
  | nil => simp [ofRules?] at composed
  | cons first others =>
    obtain rfl := Option.some.inj composed
    simp only [clauses_foldl_orRule, ofRule, List.length_cons]
    omega

/-- The text of an expression is the texts of its rules with the connective
between them. -/
theorem text_of_ofRules? {rules : List Rule} {expression : Expression}
    (composed : ofRules? rules = some expression) :
    expression.text = orConnective.intercalate (rules.map Rule.text) := by
  cases rules with
  | nil => simp [ofRules?] at composed
  | cons first others =>
    obtain rfl := Option.some.inj composed
    rw [text_foldl_orRule, ofRule, List.map_cons]

end Expression

end PermitFilter
