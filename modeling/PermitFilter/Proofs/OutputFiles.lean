import PermitFilter.Proofs.ClauseWords
import PermitFilter.Proofs.LineLayout
import PermitFilter.Proofs.LoadingBack
import PermitFilter.Proofs.Policies

/-!
# Expression files are no rule files

The text of a compiled list is one line, in which single spaces are the only blanks,
whatever blanks and terminators stood between the words of the lines. Its first word
opens a clause, so it is no rule line.

An expression file taken for a rule file therefore has one line, which is skipped.
There are no rules to compile, and nothing is written (`compiled_holdsNoRules`). So a
rule file that was replaced by its own expression is safe from a second compilation.
-/

set_option autoImplicit false

namespace PermitFilter

/-! ## One line -/

/-- A text in which single spaces are the only blanks holds no terminator. -/
theorem Text.IsSingleSpaced.isLineRun {run : List Char} (spaced : IsSingleSpaced run) :
    IsLineRun run := by
  intro c member
  rw [← Bool.not_eq_true]
  intro ending
  have blank : isBlank c = true := by
    rcases isTerminator_iff.1 ending with rfl | rfl <;> decide
  rw [spaced.eq_space c member blank] at ending
  exact absurd ending (by decide)

/-- A text without terminators is its own only line, unless it is empty. -/
theorem Text.lines_eq_singleton {text : String} (filled : text ≠ "")
    (plain : IsLineRun text.toList) : lines text = [text] := by
  have run : text.toList ≠ [] := by simpa using filled
  rw [lines_eq_map_lineRuns, lineRuns_eq_singleton run plain, List.map_singleton,
    String.ofList_toList]

/-! ## No rules -/

/-- Lines that are all skipped hold no rules, under either policy. -/
theorem compile_of_skipped {lines : List String}
    (skipped : ∀ line ∈ lines, Outcome.ofLine line = .skipped) (policy : Policy) :
    (compile policy lines).result = .error .noRules := by
  have sound : ∀ line ∈ lines, ∀ reason, Outcome.ofLine line ≠ .malformed reason := by
    intro line member reason
    simp [skipped line member]
  have unparsed : ∀ line ∈ lines, ∀ rule, Outcome.ofLine line ≠ .parsed rule := by
    intro line member rule
    simp [skipped line member]
  have collected : (compile .collect lines).result = .error .noRules :=
    compile_of_rules_eq_nil (malformed_collect_eq_nil_iff.2 sound)
      (rules_collect_eq_nil_iff.2 unparsed)
  cases policy with
  | collect => exact collected
  | failFast => rwa [compile_policy_eq_of_sound sound]

/-- A file whose lines fail to compile is not written anywhere. -/
theorem RuleFile.compileBy_of_compile_eq_error {workshop : FileTree.Workshop} {policy : Policy}
    {tree : FileTree} {input text : String} {failure : Failure}
    (found : tree.read input = .ok text.toUTF8)
    (failed : (PermitFilter.compile policy (Text.lines text)).result = .error failure)
    (output : String) :
    (compileBy workshop policy tree input output).1.result = .error failure ∧
      (compileBy workshop policy tree input output).2 = tree := by
  have prepared : (prepare policy input output (tree.read input)).result = .error failure := by
    simp only [prepare, linesOf, decodeFile_eq_ok_iff.2 found, failed]
  simp only [compileBy_of_error prepared, prepared, and_self]

/-- After a file was compiled to a path, the expression is read from the path. -/
theorem RuleFile.read_of_compileBy {workshop : FileTree.Workshop} (lawful : workshop.Lawful)
    {policy : Policy} {tree : FileTree} {input output : String} {compiled : Compiled}
    (done : (compileBy workshop policy tree input output).1.result = .ok compiled) :
    (compileBy workshop policy tree input output).2.read output =
      .ok compiled.expression.text.toUTF8 := by
  obtain ⟨failure, failed, -⟩ | ⟨compiled', text, target, done', -, -, replaced⟩ :=
    compileBy_cases lawful policy tree input output
  · cases failed.symm.trans done
  · obtain rfl := Except.ok.inj (done'.symm.trans done)
    exact replaced.read_after

/-- A path to a file of one line that is no rule line. Taken for a rule file it holds no
rules, and the tree stays as it is, wherever the expression was to be written. -/
structure FileTree.HoldsNoRules (tree : FileTree) (path line : String) : Prop where
  lines_eq : RuleFile.lines tree path = .ok [line]
  skipped : Outcome.ofLine line = .skipped
  refused : ∀ workshop policy output,
    (RuleFile.compileBy workshop policy tree path output).1.result = .error .noRules ∧
      (RuleFile.compileBy workshop policy tree path output).2 = tree

/-- A file whose text is one line, and that line is skipped, holds no rules. -/
theorem FileTree.HoldsNoRules.of_read {tree : FileTree} {path line : String}
    (found : tree.read path = .ok line.toUTF8) (alone : Text.lines line = [line])
    (skipped : Outcome.ofLine line = .skipped) : tree.HoldsNoRules path line where
  lines_eq := by simp only [RuleFile.lines, RuleFile.linesOf, decodeFile_eq_ok_iff.2 found, alone]
  skipped := skipped
  refused workshop policy output := by
    apply RuleFile.compileBy_of_compile_eq_error found
    rw [alone]
    exact compile_of_skipped (List.forall_mem_singleton.2 skipped) policy

/-! ## Compiled lists -/

section Compiled

variable {policy : Policy} {lines : List String} {compiled : Compiled}

/-- The text of a compiled list is one line. -/
theorem lines_text_of_compile (done : (compile policy lines).result = .ok compiled) :
    Text.lines compiled.expression.text = [compiled.expression.text] := by
  obtain ⟨later, whole, text⟩ := exists_text_eq_spaced done
  have plain := (Text.isSingleSpaced_spaced whole).isLineRun
  have run := Text.toList_spaced_ne_nil whole (List.cons_ne_nil _ _)
  rw [text]
  exact Text.lines_eq_singleton (by simpa using run) plain

/-- The text of a compiled list opens with a clause, not with `permit`. -/
theorem skipped_text_of_compile (done : (compile policy lines).result = .ok compiled) :
    Outcome.ofLine compiled.expression.text = .skipped := by
  obtain ⟨later, whole, text⟩ := exists_text_eq_spaced done
  have other : "(net" ≠ permitKeyword := by decide
  rw [Outcome.ofLine, text, Text.words_spaced whole]
  exact Outcome.ofWords_of_head?_ne (by simp [other])

/-- A file with the text of a compiled list holds no rules. -/
theorem holdsNoRules_of_compile (done : (compile policy lines).result = .ok compiled)
    {tree : FileTree} {path : String}
    (found : tree.read path = .ok compiled.expression.text.toUTF8) :
    tree.HoldsNoRules path compiled.expression.text :=
  .of_read found (lines_text_of_compile done) (skipped_text_of_compile done)

/-- **An expression file is no rule file.** The text of a compiled list has no blanks but
single spaces, is its words with one space between any two, and begins and ends as a
clause does. A file with this text is one line and holds no rules, in particular the one
that the text was just written to, which may be the rule file itself. -/
theorem compiled_holdsNoRules {workshop : FileTree.Workshop} (lawful : workshop.Lawful)
    (done : (compile policy lines).result = .ok compiled) :
    Text.IsSingleSpaced compiled.expression.text.toList ∧
    Text.spaced (Text.words compiled.expression.text) = compiled.expression.text ∧
    Text.IsEnclosed compiled.expression.text ∧
    (∀ tree path, tree.read path = .ok compiled.expression.text.toUTF8 →
      FileTree.HoldsNoRules tree path compiled.expression.text) ∧
    ∀ policy tree input output,
      (RuleFile.compileBy workshop policy tree input output).1.result = .ok compiled →
        (RuleFile.compileBy workshop policy tree input output).2.HoldsNoRules output
          compiled.expression.text := by
  obtain ⟨later, whole, text⟩ := exists_text_eq_spaced done
  refine ⟨?_, ?_, ?_, ?_, ?_⟩
  · rw [text]
    exact Text.isSingleSpaced_spaced whole
  · rw [text, Text.words_spaced whole]
  · exact Expression.isEnclosed_of_ofRules? (compiled_of_compile done).2
  · exact fun tree path found => holdsNoRules_of_compile done found
  · intro policy tree input output written
    exact holdsNoRules_of_compile done (RuleFile.read_of_compileBy lawful written)

/-- A rule file with blanks of many kinds gives way to its own expression, and stays as
it is when it is compiled again. -/
theorem compiled_holdsNoRules_in_place :
    let text := "permit tcp\u3000any\tn\x0beq 1\u2028permit\x0b\r\npermit or) (net range 1 2"
    let tree := FileTree.empty.putFile ["start", "rules"] text.toUTF8
    let compiled : Compiled :=
      { rules :=
          [{ protocol := "tcp", network := "n", ports := .list ["1", "permit"] },
            { protocol := "or)", network := "(net", ports := .range "1" "2" }]
        expression :=
          { text := "(net n and tcp and (port 1 or permit)) or (net (net and or) and portrange 1-2)"
            clauses := 2 }
        tally := { lines := 2, skipped := 0, rules := 2 } }
    let done := RuleFile.compileBy .reliable .failFast tree "rules" "rules"
    FileTree.Workshop.reliable.Lawful ∧
      (compile .failFast (Text.lines text)).result = .ok compiled ∧
      done.1.result = .ok compiled ∧ Text.IsSingleSpaced compiled.expression.text.toList ∧
      done.2.HoldsNoRules "rules" compiled.expression.text := by
  intro text tree compiled done
  have compiles : (compile .failFast (Text.lines text)).result = .ok compiled := by decide
  have ready : (RuleFile.prepare .failFast "rules" "rules" (tree.read "rules")).result =
      .ok compiled :=
    RuleFile.prepare_result_eq_ok_iff.2 ⟨text, by decide +kernel, compiles⟩
  have written : (compiled.expression.writeBy .reliable tree "rules").1 = .ok () := by
    decide +kernel
  have succeeded : done.1.result = .ok compiled := by
    simp only [done, RuleFile.compileBy_of_ok ready, ready, written, Attempt.afterWriting]
  obtain ⟨spaced, -, -, -, holds⟩ := compiled_holdsNoRules FileTree.reliable_lawful compiles
  exact ⟨FileTree.reliable_lawful, compiles, succeeded, spaced,
    holds .failFast tree "rules" "rules" succeeded⟩

end Compiled

end PermitFilter
