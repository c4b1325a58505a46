import PermitFilter.Proofs.Places

/-!
# Lists one behind the other

What two lists of lines come to, one behind the other, is known from what they come to by
themselves (`joins_compile_append`, `Joins.unique`). Compiled lists are put together: their
rules, their expressions with the connective between them, and their tallies. A list without
rules adds skipped lines and nothing else. Malformed lines of either list make a failure, and
those of the second list are reported under the numbers they have behind the first.

When malformed lines are collected this is read off the tallies of the survey, which are
sums over the lines. Stopping early follows, since it reports the first of the lines that
are collected.
-/

set_option autoImplicit false

namespace PermitFilter

/-! ## Putting together -/

/-- A malformed line under the number it has behind some other lines. -/
def MalformedLine.behind (count : Nat) (line : MalformedLine) : MalformedLine :=
  { line with number := line.number + count }

/-- The expression that matches when one of two does. -/
def Expression.or (first second : Expression) : Expression where
  text := first.text ++ orConnective ++ second.text
  clauses := first.clauses + second.clauses

/-- The tally of two lists, one behind the other. -/
def Tally.add (first second : Tally) : Tally where
  lines := first.lines + second.lines
  skipped := first.skipped + second.skipped
  rules := first.rules + second.rules

/-- Two compiled lists, one behind the other. -/
def Compiled.append (first second : Compiled) : Compiled where
  rules := first.rules ++ second.rules
  expression := first.expression.or second.expression
  tally := first.tally.add second.tally

/-- A compiled list with a number of further lines, all of them skipped. -/
def Compiled.addSkipped (compiled : Compiled) (count : Nat) : Compiled :=
  { compiled with tally := compiled.tally.add { lines := count, skipped := count, rules := 0 } }

/-- What a list of so many lines and another one come to by themselves, and what they come to
one behind the other. -/
inductive Joins (policy : Policy) (before after : Nat) :
    Except Failure Compiled → Except Failure Compiled → Except Failure Compiled → Prop where
  /-- Both are compiled. -/
  | both (first second : Compiled) :
      Joins policy before after (.ok first) (.ok second) (.ok (first.append second))
  /-- There are no rules in the second list. -/
  | first (compiled : Compiled) :
      Joins policy before after (.ok compiled) (.error .noRules) (.ok (compiled.addSkipped after))
  /-- There are no rules in the first list. -/
  | second (compiled : Compiled) :
      Joins policy before after (.error .noRules) (.ok compiled) (.ok (compiled.addSkipped before))
  /-- There are no rules in either. -/
  | neither : Joins policy before after (.error .noRules) (.error .noRules) (.error .noRules)
  /-- There are malformed lines: those of the first list, and those of the second under the
  numbers they have behind it. -/
  | malformed (first second : Except Failure Compiled) (line : MalformedLine)
      (others : List MalformedLine)
      (found : reported first ++ (reported second).map (.behind before) = line :: others) :
      Joins policy before after first second (.error (policy.failure line others))

/-- What two lists come to leaves one result for both, one behind the other. -/
theorem Joins.unique {policy : Policy} {before after : Nat}
    {first second joined joined' : Except Failure Compiled}
    (row : Joins policy before after first second joined)
    (row' : Joins policy before after first second joined') : joined = joined' := by
  cases row with
  | malformed _ _ line others found =>
    cases row' with
    | malformed _ _ line' others' found' =>
      obtain ⟨rfl, rfl⟩ := List.cons.inj (found.symm.trans found')
      rfl
    | _ => exact absurd found (List.cons_ne_nil line others).symm
  | _ =>
    cases row' with
    | malformed _ _ line others found => exact absurd found (List.cons_ne_nil line others).symm
    | _ => rfl

/-! ## Expressions -/

theorem Expression.ofRules?_append {rules rules' : List Rule} {first second : Expression}
    (composed : ofRules? rules = some first) (composed' : ofRules? rules' = some second) :
    ofRules? (rules ++ rules') = some (first.or second) := by
  have filled := ne_nil_of_ofRules? composed
  have filled' := ne_nil_of_ofRules? composed'
  obtain ⟨whole, together⟩ :=
    exists_ofRules?_eq_some (List.append_ne_nil_of_left_ne_nil filled rules')
  have text : whole.text = (first.or second).text := by
    rw [text_of_ofRules? together, List.map_append, String.intercalate_append_of_ne_nil
      (mt List.map_eq_nil_iff.1 filled) (mt List.map_eq_nil_iff.1 filled'), Expression.or,
      text_of_ofRules? composed, text_of_ofRules? composed']
  have clauses : whole.clauses = (first.or second).clauses := by
    rw [clauses_of_ofRules? together, List.length_append, Expression.or,
      clauses_of_ofRules? composed, clauses_of_ofRules? composed']
  obtain ⟨_, _⟩ := whole
  rw [together]
  exact congrArg some (congrArg₂ Expression.mk text clauses)

/-! ## Tallies -/

theorem rules_collect_append (before after : List String) :
    (Survey.ofLines .collect (before ++ after)).rules =
      (Survey.ofLines .collect before).rules ++ (Survey.ofLines .collect after).rules := by
  rw [(accounts_collect _).rules_eq, (accounts_collect before).rules_eq,
    (accounts_collect after).rules_eq, List.filterMap_append]

theorem skipped_collect_append (before after : List String) :
    (Survey.ofLines .collect (before ++ after)).skipped =
      (Survey.ofLines .collect before).skipped + (Survey.ofLines .collect after).skipped := by
  rw [(accounts_collect _).skipped_eq, (accounts_collect before).skipped_eq,
    (accounts_collect after).skipped_eq, List.map_append, List.count_append]

/-- Under a higher number a malformed line is reported as it stands behind other lines. -/
theorem MalformedLine.ofNumbered?_add (line : String) (number count : Nat) :
    ofNumbered? (line, number + count) = (ofNumbered? (line, number)).map (behind count) := by
  rw [ofNumbered?, ofNumbered?, Option.map_map]
  rfl

theorem malformed_collect_append (before after : List String) :
    (Survey.ofLines .collect (before ++ after)).malformed =
      (Survey.ofLines .collect before).malformed ++
        (Survey.ofLines .collect after).malformed.map (.behind before.length) := by
  have shifted : after.zipIdx (1 + before.length) =
      (after.zipIdx 1).map (Prod.map id (· + before.length)) := by
    rw [List.map_snd_add_zipIdx_eq_zipIdx, Nat.add_comm]
  rw [(accounts_collect _).malformed_eq, (accounts_collect before).malformed_eq,
    (accounts_collect after).malformed_eq, List.zipIdx_append, List.filterMap_append, shifted,
    List.filterMap_map, List.map_filterMap]
  congr 1
  apply List.filterMap_congr
  intro numbered _
  exact MalformedLine.ofNumbered?_add numbered.1 numbered.2 before.length

theorem lines_collect (lines : List String) :
    (Survey.ofLines .collect lines).lines = lines.length :=
  (accounts_collect lines).lines_eq

/-- In a list without malformed lines and rules all lines are skipped. -/
theorem skipped_collect_of_rules_eq_nil {lines : List String}
    (sound : (Survey.ofLines .collect lines).malformed = [])
    (none : (Survey.ofLines .collect lines).rules = []) :
    (Survey.ofLines .collect lines).skipped = lines.length := by
  have accounts := accounts_collect lines
  have total := length_eq_skipped_add_rules (malformed_collect_eq_nil_iff.1 sound)
  rw [accounts.rules_eq] at none
  rw [accounts.skipped_eq, total, none, List.length_nil, Nat.add_zero]

/-! ## Collecting -/

theorem compiled_collect_append (before after : List String) (first second : Expression) :
    (Survey.ofLines .collect (before ++ after)).compiled (first.or second) =
      ((Survey.ofLines .collect before).compiled first).append
        ((Survey.ofLines .collect after).compiled second) := by
  simp only [Survey.compiled, Compiled.append, Tally.add, rules_collect_append,
    skipped_collect_append, lines_collect, List.length_append]

/-- Skipped lines behind a list change its tally only. -/
theorem compiled_collect_append_skipped {after : List String}
    (sound : (Survey.ofLines .collect after).malformed = [])
    (none : (Survey.ofLines .collect after).rules = []) (before : List String)
    (expression : Expression) :
    (Survey.ofLines .collect (before ++ after)).compiled expression =
      ((Survey.ofLines .collect before).compiled expression).addSkipped after.length := by
  simp only [Survey.compiled, Compiled.addSkipped, Tally.add, rules_collect_append, none,
    skipped_collect_append, skipped_collect_of_rules_eq_nil sound none, lines_collect,
    List.length_append, List.append_nil, Nat.add_zero]

/-- Skipped lines in front of a list change its tally only. -/
theorem compiled_collect_skipped_append {before : List String}
    (sound : (Survey.ofLines .collect before).malformed = [])
    (none : (Survey.ofLines .collect before).rules = []) (after : List String)
    (expression : Expression) :
    (Survey.ofLines .collect (before ++ after)).compiled expression =
      ((Survey.ofLines .collect after).compiled expression).addSkipped before.length := by
  simp only [Survey.compiled, Compiled.addSkipped, Tally.add, rules_collect_append, none,
    skipped_collect_append, skipped_collect_of_rules_eq_nil sound none, lines_collect,
    List.length_append, List.nil_append, Nat.zero_add, Nat.add_comm]

/-- Without malformed lines, two lists are put together by their rules. -/
theorem joins_compile_collect_of_sound {before after : List String}
    (sound : (Survey.ofLines .collect before).malformed = [])
    (sound' : (Survey.ofLines .collect after).malformed = []) :
    Joins .collect before.length after.length (compile .collect before).result
      (compile .collect after).result (compile .collect (before ++ after)).result := by
  have sounds : (Survey.ofLines .collect (before ++ after)).malformed = [] := by
    rw [malformed_collect_append, sound, sound']
    rfl
  have rules := rules_collect_append before after
  -- a list without rules adds to the tally of the other only, so the rules of each decide
  cases composed : Expression.ofRules? (Survey.ofLines .collect before).rules with
  | none =>
    have none := Expression.ofRules?_eq_none_iff.1 composed
    rw [none, List.nil_append] at rules
    rw [compile_of_rules_eq_nil sound none]
    cases composed' : Expression.ofRules? (Survey.ofLines .collect after).rules with
    | none =>
      have none' := Expression.ofRules?_eq_none_iff.1 composed'
      rw [compile_of_rules_eq_nil sound' none', compile_of_rules_eq_nil sounds (rules.trans none')]
      exact .neither
    | some second =>
      rw [compile_of_composed sound' composed', compile_of_composed sounds (rules ▸ composed'),
        compiled_collect_skipped_append sound none]
      exact .second _
  | some first =>
    rw [compile_of_composed sound composed]
    cases composed' : Expression.ofRules? (Survey.ofLines .collect after).rules with
    | none =>
      have none' := Expression.ofRules?_eq_none_iff.1 composed'
      rw [none', List.append_nil] at rules
      rw [compile_of_rules_eq_nil sound' none', compile_of_composed sounds (rules ▸ composed),
        compiled_collect_append_skipped sound' none']
      exact .first _
    | some second =>
      have together := Expression.ofRules?_append composed composed'
      rw [← rules] at together
      rw [compile_of_composed sound' composed', compile_of_composed sounds together,
        compiled_collect_append]
      exact .both _ _

theorem joins_compile_collect_append (before after : List String) :
    Joins .collect before.length after.length (compile .collect before).result
      (compile .collect after).result (compile .collect (before ++ after)).result := by
  have together := malformed_collect_append before after
  cases found : (Survey.ofLines .collect (before ++ after)).malformed with
  | nil =>
    rw [found] at together
    obtain ⟨sound, sound'⟩ := List.append_eq_nil_iff.1 together.symm
    exact joins_compile_collect_of_sound sound (List.map_eq_nil_iff.1 sound')
  | cons line others =>
    rw [compile_of_malformed found]
    refine .malformed _ _ line others ?_
    rw [reported_collect, reported_collect, ← together, found]

/-! ## Stopping early -/

/-- What stopping early reports is the first of what is collected. -/
theorem PoliciesAgree.reported_eq {stopped collected : Except Failure Compiled}
    (agree : PoliciesAgree stopped collected) : reported stopped = (reported collected).take 1 := by
  cases agree <;> rfl

/-- Results that are put together when malformed lines are collected are put together when
the work stops early. -/
theorem Joins.of_policiesAgree {before after : Nat}
    {first second joined first' second' joined' : Except Failure Compiled}
    (joins : Joins .collect before after first' second' joined')
    (agree : PoliciesAgree first first') (agree' : PoliciesAgree second second')
    (agrees : PoliciesAgree joined joined') : Joins .failFast before after first second joined := by
  cases joins with
  | both compiled compiled' =>
    rw [(agree.eq_ok_iff compiled).2 rfl, (agree'.eq_ok_iff compiled').2 rfl,
      (agrees.eq_ok_iff _).2 rfl]
    exact .both compiled compiled'
  | first compiled =>
    rw [(agree.eq_ok_iff compiled).2 rfl, agree'.eq_noRules_iff.2 rfl, (agrees.eq_ok_iff _).2 rfl]
    exact .first compiled
  | second compiled =>
    rw [agree.eq_noRules_iff.2 rfl, (agree'.eq_ok_iff compiled).2 rfl, (agrees.eq_ok_iff _).2 rfl]
    exact .second compiled
  | neither =>
    rw [agree.eq_noRules_iff.2 rfl, agree'.eq_noRules_iff.2 rfl, agrees.eq_noRules_iff.2 rfl]
    exact .neither
  | malformed _ _ line others found =>
    cases agrees with
    | malformed line others =>
      -- each report is cut behind its first line; the first of both together is still there
      obtain ⟨others', found'⟩ : ∃ others',
          reported first ++ (reported second).map (.behind before) = line :: others' := by
        rw [agree.reported_eq, agree'.reported_eq, List.map_take]
        rcases List.append_eq_cons_iff.1 found with ⟨none, some⟩ | ⟨more, some, -⟩
        · rw [none, some]
          exact ⟨_, rfl⟩
        · rw [some]
          exact ⟨_, rfl⟩
      exact .malformed first second line others' found'

/-- **What two lists come to, one behind the other, is put together from what they come to
by themselves**, under either policy. -/
theorem joins_compile_append (policy : Policy) (before after : List String) :
    Joins policy before.length after.length (compile policy before).result
      (compile policy after).result (compile policy (before ++ after)).result := by
  cases policy with
  | collect => exact joins_compile_collect_append before after
  | failFast =>
    exact (joins_compile_collect_append before after).of_policiesAgree
      (policiesAgree_compile before) (policiesAgree_compile after)
      (policiesAgree_compile (before ++ after))

/-- Both lists are compiled: their clauses stand on the two sides of the connective. -/
example :
    let first := ["permit tcp a eq 1", "note"]
    let second := ["permit udp b range 2 3"]
    let compiled : Compiled :=
      { rules := [{ protocol := "tcp", network := "a", ports := .list ["1"] },
          { protocol := "udp", network := "b", ports := .range "2" "3" }]
        expression :=
          { text := "(net a and tcp and (port 1)) or (net b and udp and portrange 2-3)"
            clauses := 2 }
        tally := { lines := 3, skipped := 1, rules := 2 } }
    (compile .failFast (first ++ second)).result = .ok compiled := by
  decide

/-- The second list is reported on behind two lines. -/
example : (compile .collect (["permit", "note"] ++ ["permit udp"])).result =
    .error (.malformedLines
      [{ number := 1, text := "permit", reason := .missingProtocol },
        .behind 2 { number := 1, text := "permit udp", reason := .missingNetwork }]) := by
  decide

end PermitFilter
