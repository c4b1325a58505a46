import Mathlib.Data.List.Forall2
import PermitFilter.Proofs.ClauseWords

/-!
# Reading rules back from an expression

The text of an expression determines the rules it was composed of, up to the place
where the two bounds of a range are cut. The words of the rules may spell anything,
also the words of a clause.

The difficulty is that ports and clauses have the same word between them, so a
list of ports might seem to go on where a clause ends. It cannot: after the opening
of a clause a list of ports has `or` in every second place, and the clause has the
opening of its port condition in one of them (`listWords_append_ne_words_append`).
So the words of one clause end in the same place in both readings, and the rules
agree one after another (`text_eq_iff_agree`).
-/

set_option autoImplicit false

namespace PermitFilter

/-- Ports that are written alike: the same list, or bounds that read the same with
a dash between them. -/
def Ports.Agree : Ports → Ports → Prop
  | .list first, .list second => first = second
  | .range low high, .range low' high' => low ++ "-" ++ high = low' ++ "-" ++ high'
  | _, _ => False

/-- Rules that are written alike. -/
structure Rule.Agree (first second : Rule) : Prop where
  network : first.network = second.network
  protocol : first.protocol = second.protocol
  ports : first.ports.Agree second.ports

/-! ## A list of ports does not run into a clause -/

namespace Ports

/-- A word that ends a clause does not end with another character. -/
theorem append_closing_ne {word : String} (other : word.toList.getLast? ≠ some ')')
    (port : String) : port ++ "))" ≠ word := by
  rintro rfl
  apply other
  simp [String.toList_append]

/-- If a word among those of a list of ports does not end the clause, `or` follows
and the list goes on. -/
theorem exists_of_listWords_append_eq {first word next : String} {others tail rest : List String}
    (same : listWords first others ++ tail = word :: next :: rest)
    (other : word.toList.getLast? ≠ some ')') :
    next = orWord ∧ ∃ second further, listWords second further ++ tail = rest := by
  cases others with
  | nil =>
    simp only [listWords, List.singleton_append, List.cons.injEq] at same
    exact absurd same.1 (append_closing_ne other first)
  | cons second further =>
    simp only [listWords, List.cons_append, List.cons.injEq] at same
    obtain ⟨_, rfl, behind⟩ := same
    exact ⟨rfl, second, further, behind⟩

/-- A port condition opens with a word of its own. -/
theorem exists_words_eq_cons (ports : Ports) :
    ∃ opening more, ports.words = opening :: more ∧ opening ≠ orWord := by
  match ports with
  | .list [] => exact ⟨_, _, rfl, by decide⟩
  | .list (first :: others) => exact ⟨_, _, rfl, by decide⟩
  | .range low high => exact ⟨_, _, rfl, by decide⟩

/-- **A list of ports does not run into a clause.** The words of a clause are read
as ports up to its port condition; there `or` would have to stand. -/
theorem listWords_append_ne_words_append (first : String) (others tail : List String)
    (rule : Rule) (tail' : List String) :
    listWords first others ++ tail ≠ rule.words ++ tail' := by
  intro same
  obtain ⟨opening, more, condition, apart⟩ := rule.ports.exists_words_eq_cons
  rw [Rule.words, condition] at same
  obtain ⟨-, second, further, same⟩ := exists_of_listWords_append_eq same (by decide)
  obtain ⟨-, third, further, same⟩ := exists_of_listWords_append_eq same (by decide)
  obtain ⟨alike, -⟩ := exists_of_listWords_append_eq same (by decide)
  exact apart alike

end Ports

/-! ## One clause after another -/

theorem Rule.laterWords_eq_cons {rules : List Rule} {word : String} {words : List String}
    (same : laterWords rules = word :: words) :
    ∃ rule later, rules = rule :: later ∧ word = orWord ∧
      words = rule.words ++ laterWords later := by
  cases rules with
  | nil => simp [laterWords] at same
  | cons rule later =>
    simp only [laterWords, List.cons.injEq] at same
    exact ⟨rule, later, rfl, same.1.symm, same.2.symm⟩

/-- Two lists of ports with clauses behind them are the same ports with the same
words behind them. The induction is on one list; where it ends and the other goes
on, the other would run into a clause. -/
theorem Ports.listWords_append_inj {first first' : String} {others others' : List String}
    {rules rules' : List Rule}
    (same : listWords first others ++ Rule.laterWords rules =
      listWords first' others' ++ Rule.laterWords rules') :
    first :: others = first' :: others' ∧ Rule.laterWords rules = Rule.laterWords rules' := by
  induction others generalizing first first' others' with
  | nil =>
    cases others' with
    | nil =>
      simp only [listWords, List.singleton_append, List.cons.injEq] at same
      exact ⟨by rw [(String.append_left_inj "))").1 same.1], same.2⟩
    | cons next' others' =>
      simp only [listWords, List.cons_append, List.cons.injEq] at same
      obtain ⟨rule, later, _, _, behind⟩ := Rule.laterWords_eq_cons same.2
      exact absurd behind (listWords_append_ne_words_append next' others' _ rule _)
  | cons next others ih =>
    cases others' with
    | nil =>
      simp only [listWords, List.cons_append, List.cons.injEq] at same
      obtain ⟨rule, later, _, _, behind⟩ := Rule.laterWords_eq_cons same.2.symm
      exact absurd behind (listWords_append_ne_words_append next others _ rule _)
    | cons next' others' =>
      simp only [listWords, List.cons_append, List.cons.injEq, true_and] at same
      obtain ⟨rfl, rest⟩ := same
      obtain ⟨ports, behind⟩ := ih rest
      exact ⟨by rw [ports], behind⟩

/-- Two port conditions with clauses behind them are written alike, and so is what
stands behind them. -/
theorem Ports.agree_of_words_append_eq {ports ports' : Ports} {rules rules' : List Rule}
    (wellFormed : ports.WellFormed) (wellFormed' : ports'.WellFormed)
    (same : ports.words ++ Rule.laterWords rules = ports'.words ++ Rule.laterWords rules') :
    ports.Agree ports' ∧ Rule.laterWords rules = Rule.laterWords rules' := by
  match ports, ports' with
  | .list [], _ => exact absurd rfl wellFormed.1
  | _, .list [] => exact absurd rfl wellFormed'.1
  | .list (first :: others), .list (first' :: others') =>
    exact listWords_append_inj (List.cons.inj same).2
  | .list (first :: others), .range low high =>
    have opening : "(port" = "portrange" := (List.cons.inj same).1
    exact absurd opening (by decide)
  | .range low high, .list (first :: others) =>
    have opening : "portrange" = "(port" := (List.cons.inj same).1
    exact absurd opening (by decide)
  | .range low high, .range low' high' =>
    simp only [words, List.cons_append, List.nil_append, List.cons.injEq, true_and] at same
    exact ⟨(String.append_left_inj ")").1 same.1, same.2⟩

/-- Two clauses with clauses behind them are written alike, and so is what stands
behind them. -/
theorem Rule.agree_of_words_append_eq {rule rule' : Rule} {rules rules' : List Rule}
    (wellFormed : rule.WellFormed) (wellFormed' : rule'.WellFormed)
    (same : rule.words ++ laterWords rules = rule'.words ++ laterWords rules') :
    rule.Agree rule' ∧ laterWords rules = laterWords rules' := by
  simp only [words, List.cons_append, List.cons.injEq, true_and] at same
  obtain ⟨network, protocol, condition⟩ := same
  obtain ⟨ports, behind⟩ :=
    Ports.agree_of_words_append_eq wellFormed.ports wellFormed'.ports condition
  exact ⟨⟨network, protocol, ports⟩, behind⟩

/-- Lists of rules with the same words agree rule by rule. -/
theorem Rule.forall₂_agree_of_laterWords_eq {rules rules' : List Rule}
    (wellFormed : ∀ rule ∈ rules, rule.WellFormed) (wellFormed' : ∀ rule ∈ rules', rule.WellFormed)
    (same : laterWords rules = laterWords rules') : List.Forall₂ Rule.Agree rules rules' := by
  induction rules generalizing rules' with
  | nil =>
    cases rules' with
    | nil => exact .nil
    | cons rule' later' => simp [laterWords] at same
  | cons rule later ih =>
    rw [laterWords] at same
    obtain ⟨rule', later', rfl, -, behind⟩ := laterWords_eq_cons same.symm
    obtain ⟨agree, rest⟩ := agree_of_words_append_eq (wellFormed rule (List.mem_cons_self ..))
      (wellFormed' rule' (List.mem_cons_self ..)) behind
    exact .cons agree (ih (fun each member => wellFormed each (List.mem_cons_of_mem _ member))
      (fun each member => wellFormed' each (List.mem_cons_of_mem _ member)) rest)

/-! ## Expressions -/

theorem Ports.Agree.text_eq {first second : Ports} (agree : first.Agree second) :
    first.text = second.text := by
  match first, second, agree with
  | .list _, .list _, rfl => rfl
  | .range low high, .range low' high', bounds =>
    have same : low ++ "-" ++ high = low' ++ "-" ++ high' := bounds
    simp only [text, String.append_assoc] at same ⊢
    rw [same]

theorem Rule.Agree.text_eq {first second : Rule} (agree : first.Agree second) :
    first.text = second.text := by
  rw [text, text, agree.network, agree.protocol, agree.ports.text_eq]

/-- Rules that agree one by one have the same texts. -/
theorem Rule.map_text_eq_of_forall₂_agree {rules rules' : List Rule}
    (agree : List.Forall₂ Rule.Agree rules rules') : rules.map text = rules'.map text := by
  induction agree with
  | nil => rfl
  | cons first _ ih => rw [List.map_cons, List.map_cons, first.text_eq, ih]

/-- Expressions with the same text are composed of rules that agree one by one. -/
theorem forall₂_agree_of_text_eq {rules rules' : List Rule} {expression expression' : Expression}
    (wellFormed : ∀ rule ∈ rules, rule.WellFormed) (wellFormed' : ∀ rule ∈ rules', rule.WellFormed)
    (composed : Expression.ofRules? rules = some expression)
    (composed' : Expression.ofRules? rules' = some expression')
    (same : expression.text = expression'.text) : List.Forall₂ Rule.Agree rules rules' := by
  match rules, rules' with
  | [], _ => simp [Expression.ofRules?] at composed
  | _, [] => simp [Expression.ofRules?] at composed'
  | rule :: later, rule' :: later' =>
    have words := congrArg Text.words same
    rw [words_text_of_ofRules? wellFormed composed,
      words_text_of_ofRules? wellFormed' composed'] at words
    refine Rule.forall₂_agree_of_laterWords_eq wellFormed wellFormed' ?_
    rw [Rule.laterWords, words, Rule.laterWords]

/-- **An expression determines its rules.** Two compiled lists have the same text
exactly when their rules agree one by one, and then they have equally many. -/
theorem text_eq_iff_agree {policy policy' : Policy} {lines lines' : List String}
    {first second : Compiled} (done : (compile policy lines).result = .ok first)
    (done' : (compile policy' lines').result = .ok second) :
    (first.expression.text = second.expression.text ↔
      List.Forall₂ Rule.Agree first.rules second.rules) ∧
    (first.expression.text = second.expression.text →
      first.rules.length = second.rules.length ∧
        first.expression.clauses = second.expression.clauses) := by
  obtain ⟨-, composed⟩ := compiled_of_compile done
  obtain ⟨-, composed'⟩ := compiled_of_compile done'
  have decoded := forall₂_agree_of_text_eq (wellFormed_of_compile done)
    (wellFormed_of_compile done') composed composed'
  refine ⟨⟨decoded, fun agree => ?_⟩, fun same => ?_⟩
  · rw [Expression.text_of_ofRules? composed, Expression.text_of_ofRules? composed',
      Rule.map_text_eq_of_forall₂_agree agree]
  · have equallyMany := (decoded same).length_eq
    refine ⟨equallyMany, ?_⟩
    rw [Expression.clauses_of_ofRules? composed, Expression.clauses_of_ofRules? composed',
      equallyMany]

/-- Ports may spell a clause, and a dash between bounds may stand in either of
them. -/
theorem text_eq_iff_agree_dashes :
    let spelled := "permit or (net eq 80)) or (net"
    let listed : Rule :=
      { protocol := "or", network := "(net", ports := .list ["80))", "or", "(net"] }
    let expression : Expression :=
      { text := "(net (net and or and (port 80)) or or or (net)) or " ++
          "(net eq and tcp and portrange 1-2-3)"
        clauses := 2 }
    let first : Compiled :=
      { rules := [listed, { protocol := "tcp", network := "eq", ports := .range "1-2" "3" }]
        expression
        tally := { lines := 2, skipped := 0, rules := 2 } }
    let second : Compiled :=
      { rules := [listed, { protocol := "tcp", network := "eq", ports := .range "1" "2-3" }]
        expression
        tally := { lines := 3, skipped := 1, rules := 2 } }
    (compile .failFast [spelled, "permit tcp any eq range 1-2 3"]).result = .ok first ∧
      (compile .collect [spelled, "", "permit tcp eq range 1 2-3"]).result = .ok second ∧
      List.Forall₂ Rule.Agree first.rules second.rules := by
  intro spelled listed expression first second
  have done : (compile .failFast [spelled, "permit tcp any eq range 1-2 3"]).result =
      .ok first := by
    decide
  have done' : (compile .collect [spelled, "", "permit tcp eq range 1 2-3"]).result =
      .ok second := by
    decide
  exact ⟨done, done', (text_eq_iff_agree done done').1.1 rfl⟩

end PermitFilter
