import PermitFilter.Proofs.AllOrNothing
import PermitFilter.Proofs.FileText

/-!
# Loading what was written

The text of an expression begins with the opening of a clause and ends with a closing
parenthesis, whatever the fields of its rules are. So there are no blanks at its ends,
and a filter loaded from a file it was written to holds the very text
(`load_of_writeBy`).
-/

set_option autoImplicit false

namespace PermitFilter

/-! ## The ends of an expression -/

/-- A text that begins and ends as a clause does. -/
def Text.IsEnclosed (text : String) : Prop :=
  ∃ inner, text = "(net " ++ inner ++ ")"

/-- A text that is enclosed has no blanks at its ends. -/
theorem Text.IsEnclosed.trims_self {text : String} (enclosed : IsEnclosed text) :
    Trims text text := by
  obtain ⟨inner, rfl⟩ := enclosed
  refine ⟨⟨[], [], by simp, ?_, ?_⟩, ?_, ?_⟩
  · exact fun _ nothing => absurd nothing List.not_mem_nil
  · exact fun _ nothing => absurd nothing List.not_mem_nil
  · intro c first
    obtain rfl : '(' = c := by simpa using first
    decide
  · intro c last
    have whole : ("(net " ++ inner ++ ")").toList = ("(net " ++ inner).toList ++ [')'] :=
      String.toList_append
    rw [whole, List.getLast?_concat] at last
    obtain rfl := Option.some.inj last
    decide

/-- Every clause is enclosed, whatever its fields are. -/
theorem Rule.isEnclosed_text (rule : Rule) : Text.IsEnclosed rule.text :=
  ⟨rule.network ++ (" and " ++ (rule.protocol ++ (" and " ++ rule.ports.text))), by
    simp only [text, String.append_assoc]⟩

theorem Expression.isEnclosed_orRule {expression : Expression}
    (enclosed : Text.IsEnclosed expression.text) (rule : Rule) :
    Text.IsEnclosed (expression.orRule rule).text := by
  obtain ⟨inner, opens⟩ := enclosed
  obtain ⟨inner', closes⟩ := rule.isEnclosed_text
  refine ⟨inner ++ (")" ++ (orConnective ++ ("(net " ++ inner'))), ?_⟩
  simp only [orRule, opens, closes, String.append_assoc]

theorem Expression.isEnclosed_foldl_orRule {expression : Expression}
    (enclosed : Text.IsEnclosed expression.text) (rules : List Rule) :
    Text.IsEnclosed (rules.foldl orRule expression).text := by
  induction rules generalizing expression with
  | nil => exact enclosed
  | cons rule rules ih => exact ih (isEnclosed_orRule enclosed rule)

/-- **The text of an expression is enclosed.** -/
theorem Expression.isEnclosed_of_ofRules? {rules : List Rule} {expression : Expression}
    (composed : ofRules? rules = some expression) : Text.IsEnclosed expression.text := by
  cases rules with
  | nil => simp [ofRules?] at composed
  | cons first others =>
    obtain rfl := Option.some.inj composed
    exact isEnclosed_foldl_orRule first.isEnclosed_text others

/-! ## Writing and loading -/

section Writing

variable {workshop : FileTree.Workshop}

/-- After an expression was written to a path, the path shows it. -/
theorem Expression.shows_of_writeBy (lawful : workshop.Lawful) {rules : List Rule}
    {expression : Expression} (composed : ofRules? rules = some expression)
    {tree written : FileTree} {path : String}
    (done : expression.writeBy workshop tree path = (.ok (), written)) :
    written.ShowsExpression path expression.text := by
  refine ⟨expression.text, ?_, (isEnclosed_of_ofRules? composed).trims_self⟩
  obtain ⟨fault, failed⟩ | ⟨target, left, succeeded, replaced⟩ :=
    expression.writeBy_cases lawful tree path
  · simp [failed] at done
  · obtain rfl : left = written := (Prod.mk.inj (succeeded.symm.trans done)).2
    rw [FileTree.shows_iff, decodeFile_eq_ok_iff]
    exact replaced.read_after

/-- **Loading undoes writing.** A filter loaded from a path to which an expression was
written holds its text, and finds no change when it is refreshed; after another
expression was written to the path, a refresh finds a change exactly if the texts
differ, and holds the other text. -/
theorem load_of_writeBy (lawful : workshop.Lawful) {rules rules' : List Rule}
    (filled : rules ≠ []) (filled' : rules' ≠ []) :
    ∃ expression expression', Expression.ofRules? rules = some expression ∧
      Expression.ofRules? rules' = some expression' ∧
      ∀ tree path written, expression.writeBy workshop tree path = (.ok (), written) →
        let filter : HeldFilter := { path, expression := expression.text }
        HeldFilter.load written path = .ok filter ∧
        filter.refresh written = (.ok false, filter) ∧
        ∀ tree' rewritten, expression'.writeBy workshop tree' path = (.ok (), rewritten) →
          filter.refresh rewritten =
            (.ok (decide (expression'.text ≠ expression.text)),
              { path, expression := expression'.text }) := by
  obtain ⟨expression, composed⟩ := Expression.exists_ofRules?_eq_some filled
  obtain ⟨expression', composed'⟩ := Expression.exists_ofRules?_eq_some filled'
  refine ⟨expression, expression', composed, composed', ?_⟩
  intro tree path written done filter
  have shows : written.ShowsExpression filter.path filter.expression :=
    Expression.shows_of_writeBy lawful composed done
  refine ⟨HeldFilter.load_eq_ok_iff.2 ⟨rfl, shows⟩, ?_, ?_⟩
  · rw [HeldFilter.refresh_of_shows shows, bne_self_eq_false]
  · intro tree' rewritten done'
    have shows' : rewritten.ShowsExpression filter.path expression'.text :=
      Expression.shows_of_writeBy lawful composed' done'
    have differs : (expression'.text != expression.text) =
        decide (expression'.text ≠ expression.text) := by
      simp [bne, beq_eq_decide]
    rw [HeldFilter.refresh_of_shows shows', differs]

/-- Rules may have fields of blanks and a list of no ports. The file of the first
expression is taken away here before the second is written. -/
theorem load_of_writeBy_blank_fields :
    let rules : List Rule :=
      [{ protocol := "\n", network := " ", ports := .list [] },
        { protocol := "", network := "\u3000", ports := .range "" " " }]
    let rules' : List Rule := [{ protocol := "", network := "", ports := .list [""] }]
    let text := "(net   and \n and (port )) or (net \u3000 and  and portrange - )"
    let text' := "(net  and  and (port ))"
    let written := (Expression.write ⟨text, 2⟩ .empty "filter").2
    let rewritten := (Expression.write ⟨text', 1⟩ .empty "filter").2
    let filter : HeldFilter := { path := "filter", expression := text }
    FileTree.Workshop.reliable.Lawful ∧ rules ≠ [] ∧ rules' ≠ [] ∧
      Expression.write ⟨text, 2⟩ .empty "filter" = (.ok (), written) ∧
      Expression.write ⟨text', 1⟩ .empty "filter" = (.ok (), rewritten) ∧
      HeldFilter.load written "filter" = .ok filter ∧
      filter.refresh rewritten = (.ok true, { path := "filter", expression := text' }) := by
  intro rules rules' text text' written rewritten filter
  have filled : rules ≠ [] := List.cons_ne_nil _ _
  have filled' : rules' ≠ [] := List.cons_ne_nil _ _
  have done : Expression.write ⟨text, 2⟩ .empty "filter" = (.ok (), written) := rfl
  have done' : Expression.write ⟨text', 1⟩ .empty "filter" = (.ok (), rewritten) := rfl
  obtain ⟨expression, expression', composed, composed', loads⟩ :=
    load_of_writeBy FileTree.reliable_lawful filled filled'
  obtain rfl : ⟨text, 2⟩ = expression := by
    have first : Expression.ofRules? rules = some ⟨text, 2⟩ := by decide
    exact Option.some.inj (first.symm.trans composed)
  obtain rfl : ⟨text', 1⟩ = expression' := by
    have second : Expression.ofRules? rules' = some ⟨text', 1⟩ := by decide
    exact Option.some.inj (second.symm.trans composed')
  obtain ⟨loaded, -, refreshes⟩ := loads .empty "filter" written done
  have differs : decide (text' ≠ text) = true := by decide
  refine ⟨FileTree.reliable_lawful, filled, filled', done, done', loaded, ?_⟩
  rw [refreshes .empty rewritten done', differs]

end Writing

end PermitFilter
