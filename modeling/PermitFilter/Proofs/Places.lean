import PermitFilter.Proofs.AllOrNothing
import PermitFilter.Proofs.LineLayout
import PermitFilter.Proofs.Policies

/-!
# Places of malformed lines

The report on a malformed line of a rule file shows the line and a number. The line
stands in the text of the file as it is shown, as a whole line, and the number counts
the terminators in front of it, one more than there are; so the two together point to a
place in the file.

The reports are exact: with malformed lines collected, what is reported is every
malformed line of the text, and otherwise it is the first of them
(`mem_reported_iff_pointsInto`).
-/

set_option autoImplicit false

namespace PermitFilter

/-- The malformed lines that a failure reports. -/
def Failure.reported : Failure → List MalformedLine
  | .malformed line => [line]
  | .malformedLines lines => lines
  | .unreadable _ _ | .unwritable _ _ | .noRules => []

/-- The malformed lines that a result reports. -/
def reported : Except Failure Compiled → List MalformedLine
  | .ok _ => []
  | .error failure => failure.reported

/-- An entry that points to a malformed line of a text: the line stands there whole,
behind one terminator less than the number says. -/
structure MalformedLine.PointsInto (entry : MalformedLine) (text : String) : Prop where
  exists_place : ∃ count, Text.StandsBehind entry.text text count ∧ entry.number = count + 1
  malformed : Outcome.ofLine entry.text = .malformed entry.reason

/-! ## Lines of a text -/

/-- A line of a text is not shortened. -/
theorem strips_iff_eq_of_mem_lines {text line shown : String} (member : line ∈ Text.lines text) :
    Text.Strips line shown ↔ shown = line := by
  rw [Text.lines_eq_map_lineRuns] at member
  obtain ⟨run, inside, rfl⟩ := List.mem_map.1 member
  have plain := (Text.lineLayout_lineRuns text.toList).isLineRun_of_mem inside
  have whole : Text.Strips (String.ofList run) (String.ofList run) := by
    refine ⟨⟨[], by simp, fun _ nothing => absurd nothing List.not_mem_nil⟩, ?_⟩
    intro c last
    rw [String.toList_ofList] at last
    have inside := plain c (List.mem_of_mem_getLast? last)
    rwa [← Bool.not_eq_true, Text.isTerminator_iff, not_or] at inside
  rw [Text.strips_iff, ← Text.strips_iff.1 whole]

theorem ne_empty_of_malformed {line : String} {reason : Reason}
    (malformed : Outcome.ofLine line = .malformed reason) : line ≠ "" := by
  rintro rfl
  have skipped : Outcome.ofLine "" = .skipped := by decide
  simp [skipped] at malformed

/-- Reports on the lines of a text are the entries that point into it. -/
theorem mem_iff_pointsInto {text : String} {entries : List MalformedLine}
    (reports : ReportsMalformed (Text.lines text) entries) (entry : MalformedLine) :
    entry ∈ entries ↔ entry.PointsInto text := by
  rw [reports.mem_iff]
  constructor
  · rintro ⟨place, line, there, malformed, numbered, stripped⟩
    obtain rfl := (strips_iff_eq_of_mem_lines (List.mem_of_getElem? there)).1 stripped
    exact ⟨⟨place, Text.standsBehind_of_getElem?_lines there, numbered⟩, malformed⟩
  · rintro ⟨⟨count, stands, numbered⟩, malformed⟩
    have there := Text.getElem?_lines_of_standsBehind (ne_empty_of_malformed malformed) stands
    exact ⟨count, entry.text, there, malformed, numbered,
      (strips_iff_eq_of_mem_lines (List.mem_of_getElem? there)).2 rfl⟩

/-! ## Reports -/

/-- When malformed lines are collected, what the survey found is reported. -/
theorem reported_collect (lines : List String) :
    reported (compile .collect lines).result = (Survey.ofLines .collect lines).malformed := by
  obtain ⟨first, others, found, failed⟩ | ⟨none, failed⟩ | ⟨none, compiled, done, -⟩ :=
    compile_cases .collect lines
  · rw [failed, found]
    rfl
  · rw [failed, none]
    rfl
  · rw [done, none]
    rfl

theorem reportsMalformed_reported_collect (lines : List String) :
    ReportsMalformed lines (reported (compile .collect lines).result) := by
  rw [reported_collect, (accounts_collect lines).malformed_eq]
  exact reportsMalformed_filterMap lines

/-- Stopping early reports the entry with the least number of all. -/
theorem mem_reported_failFast_iff (lines : List String) (entry : MalformedLine) :
    entry ∈ reported (compile .failFast lines).result ↔
      entry ∈ reported (compile .collect lines).result ∧
        ∀ other ∈ reported (compile .collect lines).result, entry.number ≤ other.number := by
  have ordered := (reportsMalformed_reported_collect lines).ordered
  have agree := policiesAgree_compile lines
  generalize (compile .failFast lines).result = stopped at agree
  generalize (compile .collect lines).result = collected at agree ordered
  cases agree with
  | compiled | noRules => simp [reported, Failure.reported]
  | malformed first others =>
    have least : ∀ other ∈ others, first.number < other.number :=
      (List.pairwise_cons.1 ordered).1
    show entry ∈ [first] ↔ entry ∈ first :: others ∧
      ∀ other ∈ first :: others, entry.number ≤ other.number
    rw [List.mem_singleton]
    constructor
    · rintro rfl
      refine ⟨List.mem_cons_self .., ?_⟩
      intro other member
      rcases List.mem_cons.1 member with rfl | member
      · exact Nat.le_refl _
      · exact Nat.le_of_lt (least other member)
    · rintro ⟨member, le⟩
      rcases List.mem_cons.1 member with same | member
      · exact same
      · exact absurd (least entry member) (Nat.not_lt.2 (le first (List.mem_cons_self ..)))

/-- **A reported line is found where the report says.** -/
theorem mem_reported_iff_pointsInto {tree : FileTree} {path text : String}
    (found : tree.read path = .ok text.toUTF8) :
    RuleFile.lines tree path = .ok (Text.lines text) ∧
      ∀ policy entry, entry ∈ reported (compile policy (Text.lines text)).result ↔
        entry.PointsInto text ∧ (policy = .failFast →
          ∀ other : MalformedLine, other.PointsInto text → entry.number ≤ other.number) := by
  have reports := mem_iff_pointsInto (reportsMalformed_reported_collect (Text.lines text))
  refine ⟨?_, ?_⟩
  · rw [RuleFile.lines, RuleFile.linesOf, decodeFile_eq_ok_iff.2 found]
  · intro policy entry
    cases policy with
    | collect => simp [reports]
    | failFast => simp [mem_reported_failFast_iff, reports]

/-- In a file whose lines end in every way the fourth line is reported. In front of it
stand three terminators: a carriage return, another one with its line feed, and a line
feed that ends an empty line. -/
theorem mem_reported_iff_pointsInto_mixed :
    let text := "permit tcp n eq 1\r\r\n\npermit udp any\rnote"
    let tree := FileTree.empty.putFile ["start", "rules"] text.toUTF8
    let entry : MalformedLine := { number := 4, text := "permit udp any", reason := .missingNetwork }
    tree.read "rules" = .ok text.toUTF8 ∧
      entry ∈ reported (compile .failFast (Text.lines text)).result ∧ entry.PointsInto text := by
  intro text tree entry
  have found : tree.read "rules" = .ok text.toUTF8 := by decide +kernel
  have member : entry ∈ reported (compile .failFast (Text.lines text)).result := by decide
  obtain ⟨-, points⟩ := mem_reported_iff_pointsInto found
  exact ⟨found, member, ((points .failFast entry).1 member).1⟩

end PermitFilter
