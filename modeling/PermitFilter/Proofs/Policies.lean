import PermitFilter.Proofs.Accounting

/-!
# Stopping early and collecting

The two policies examine the same lines up to the first malformed one. There one of
them stops, and the other goes on; but a malformed line makes the compilation a failure
under both, and the failure names that line first.

Stopping early is therefore collecting over fewer lines
(`Survey.ofLinesFrom_eq_collect_examined`). The lines left out follow a malformed one,
so the two policies compile the same lists to the same expressions, and fail alike on
the others (`compile_policies_agree`).
-/

set_option autoImplicit false

namespace PermitFilter

namespace Survey

/-! ## The lines left out -/

/-- A survey under a policy is the survey of the lines examined that collects
malformed ones. -/
theorem ofLinesFrom_eq_collect_examined (policy : Policy) (number : Nat) (lines : List String) :
    ofLinesFrom policy number lines = ofLinesFrom .collect number (examined policy lines) := by
  induction lines generalizing number with
  | nil => rfl
  | cons line later ih =>
    rw [ofLinesFrom, examined]
    by_cases ending : endsAt policy (Outcome.ofLine line) = true
    · simp [ending, ofLinesFrom]
    · simp [ending, ofLinesFrom, ih]

theorem endsAt_eq_false_of_ne_malformed {policy : Policy} {outcome : Outcome}
    (sound : ∀ reason, outcome ≠ .malformed reason) : endsAt policy outcome = false := by
  cases outcome with
  | skipped | parsed => cases policy <;> rfl
  | malformed reason => exact absurd rfl (sound reason)

section Sound

variable {before : List String}
  (sound : ∀ line ∈ before, ∀ reason, Outcome.ofLine line ≠ .malformed reason)
include sound

/-- Lines that are not malformed are examined, and so is what follows them. -/
theorem examined_append_of_sound (policy : Policy) (after : List String) :
    examined policy (before ++ after) = before ++ examined policy after := by
  induction before with
  | nil => rfl
  | cons line later ih =>
    have goesOn : endsAt policy (Outcome.ofLine line) = false :=
      endsAt_eq_false_of_ne_malformed (sound line (List.mem_cons_self ..))
    have rest := ih fun line member => sound line (List.mem_cons_of_mem _ member)
    simp [examined, goesOn, rest]

theorem examined_of_sound (policy : Policy) : examined policy before = before := by
  have all := examined_append_of_sound sound policy []
  rwa [List.append_nil, examined, List.append_nil] at all

theorem filterMap_ofNumbered?_of_sound (number : Nat) :
    (before.zipIdx number).filterMap MalformedLine.ofNumbered? = [] := by
  rw [List.filterMap_eq_nil_iff]
  rintro ⟨line, place⟩ member
  have inside : line ∈ before := List.fst_mem_of_mem_zipIdx member
  rw [MalformedLine.ofNumbered?, Option.map_eq_none_iff, Option.eq_none_iff_forall_ne_some]
  intro reason found
  exact sound line inside reason (Outcome.reason?_eq_some_iff.1 found)

/-- The first malformed line is the first one reported, under either policy. -/
theorem exists_malformed_eq_cons (policy : Policy) {line : String} {reason : Reason}
    (malformed : Outcome.ofLine line = .malformed reason) (after : List String) :
    ∃ others, (ofLines policy (before ++ line :: after)).malformed =
      { number := before.length + 1, text := Text.stripTerminators line, reason } :: others := by
  have accounts := accounts_ofLinesFrom policy 1 (before ++ line :: after)
  obtain ⟨more, first⟩ : ∃ more, examined policy (line :: after) = line :: more := by
    rw [examined]
    split <;> exact ⟨_, rfl⟩
  have found : MalformedLine.ofNumbered? (line, 1 + before.length) =
      some { number := before.length + 1, text := Text.stripTerminators line, reason } :=
    MalformedLine.ofNumbered?_eq_some_iff.2 ⟨malformed, Nat.add_comm .., rfl⟩
  refine ⟨(more.zipIdx (1 + before.length + 1)).filterMap MalformedLine.ofNumbered?, ?_⟩
  rw [ofLines, accounts.malformed_eq, examined_append_of_sound sound, first, List.zipIdx_append,
    List.filterMap_append, filterMap_ofNumbered?_of_sound sound, List.nil_append, List.zipIdx_cons,
    List.filterMap_cons_some found]

end Sound

end Survey

/-! ## Results that agree -/

/-- What the two policies make of one list: the same expression, no rules under
both, or failures of which one reports the first malformed line of the other. -/
inductive PoliciesAgree : Except Failure Compiled → Except Failure Compiled → Prop where
  | compiled (compiled : Compiled) : PoliciesAgree (.ok compiled) (.ok compiled)
  | noRules : PoliciesAgree (.error .noRules) (.error .noRules)
  | malformed (first : MalformedLine) (others : List MalformedLine) :
      PoliciesAgree (.error (.malformed first)) (.error (.malformedLines (first :: others)))

namespace PoliciesAgree

variable {stopped collected : Except Failure Compiled}

theorem eq_ok_iff (agree : PoliciesAgree stopped collected) (compiled : Compiled) :
    stopped = .ok compiled ↔ collected = .ok compiled := by
  cases agree <;> simp

theorem eq_noRules_iff (agree : PoliciesAgree stopped collected) :
    stopped = .error .noRules ↔ collected = .error .noRules := by
  cases agree <;> simp

theorem exists_malformed_iff (agree : PoliciesAgree stopped collected) :
    (∃ first, stopped = .error (.malformed first)) ↔
      ∃ entries, collected = .error (.malformedLines entries) := by
  cases agree <;> simp

theorem head?_eq_some {first : MalformedLine} {entries : List MalformedLine}
    (agree : PoliciesAgree (.error (.malformed first)) (.error (.malformedLines entries))) :
    entries.head? = some first := by
  cases agree with
  | malformed first others => rfl

end PoliciesAgree

/-- A list is without malformed lines, or one of its lines is the first. -/
theorem sound_or_exists_first_malformed (lines : List String) :
    (∀ line ∈ lines, ∀ reason, Outcome.ofLine line ≠ .malformed reason) ∨
      ∃ before line after reason, lines = before ++ line :: after ∧
        (∀ earlier ∈ before, ∀ reason, Outcome.ofLine earlier ≠ .malformed reason) ∧
        Outcome.ofLine line = .malformed reason := by
  induction lines with
  | nil => exact .inl fun line member => absurd member (List.not_mem_nil)
  | cons line later ih =>
    cases outcome : Outcome.ofLine line with
    | malformed reason =>
      exact .inr ⟨[], line, later, reason, rfl, fun _ member => absurd member (List.not_mem_nil),
        outcome⟩
    | skipped | parsed =>
      have first : ∀ reason, Outcome.ofLine line ≠ .malformed reason := by simp [outcome]
      rcases ih with sound | ⟨before, bad, after, reason, rfl, sound, malformed⟩
      · exact .inl (List.forall_mem_cons.2 ⟨first, sound⟩)
      · exact .inr ⟨line :: before, bad, after, reason, rfl,
          List.forall_mem_cons.2 ⟨first, sound⟩, malformed⟩

section Compile

variable {lines before : List String}

/-- Lines that are not malformed come to the same under both policies. -/
theorem compile_policy_eq_of_sound
    (sound : ∀ line ∈ lines, ∀ reason, Outcome.ofLine line ≠ .malformed reason)
    (policy : Policy) : compile policy lines = compile .collect lines := by
  have same : Survey.ofLines policy lines = Survey.ofLines .collect lines := by
    rw [Survey.ofLines, Survey.ofLinesFrom_eq_collect_examined, Survey.examined_of_sound sound]
    rfl
  simp only [compile, same, malformed_collect_eq_nil_iff.2 sound]

/-- What stopping early comes to is decided at the first malformed line. -/
theorem compile_failFast_append_cons
    (sound : ∀ line ∈ before, ∀ reason, Outcome.ofLine line ≠ .malformed reason)
    {line : String} {reason : Reason} (malformed : Outcome.ofLine line = .malformed reason)
    (after : List String) :
    compile .failFast (before ++ line :: after) = compile .failFast (before ++ [line]) := by
  have ends : Survey.endsAt .failFast (Outcome.ofLine line) = true := by rw [malformed]; rfl
  have same : Survey.ofLines .failFast (before ++ line :: after) =
      Survey.ofLines .failFast (before ++ [line]) := by
    rw [Survey.ofLines, Survey.ofLines, Survey.ofLinesFrom_eq_collect_examined .failFast,
      Survey.ofLinesFrom_eq_collect_examined .failFast _ (before ++ [line]),
      Survey.examined_append_of_sound sound, Survey.examined_append_of_sound sound,
      Survey.examined, Survey.examined, if_pos ends, if_pos ends]
  simp only [compile, same]

theorem policiesAgree_compile (lines : List String) :
    PoliciesAgree (compile .failFast lines).result (compile .collect lines).result := by
  rcases sound_or_exists_first_malformed lines with
    sound | ⟨before, line, after, reason, rfl, sound, malformed⟩
  · rw [compile_policy_eq_of_sound sound]
    obtain ⟨first, others, found, -⟩ | ⟨-, failed⟩ | ⟨-, compiled, done, -⟩ :=
      compile_cases .collect lines
    · rw [malformed_collect_eq_nil_iff.2 sound] at found
      simp at found
    · rw [failed]
      exact .noRules
    · rw [done]
      exact .compiled compiled
  · obtain ⟨fewer, first⟩ := Survey.exists_malformed_eq_cons sound .failFast malformed after
    obtain ⟨others, all⟩ := Survey.exists_malformed_eq_cons sound .collect malformed after
    rw [compile_of_malformed first, compile_of_malformed all]
    exact .malformed _ others

end Compile

/-- **The two policies agree.** They compile a list to the same, find no rules in the
same lists, and where one reports a malformed line the other reports it first. What
stopping early comes to does not depend on the lines behind the first malformed one. -/
theorem compile_policies_agree (lines : List String) :
    (∀ compiled, (compile .failFast lines).result = .ok compiled ↔
      (compile .collect lines).result = .ok compiled) ∧
    ((compile .failFast lines).result = .error .noRules ↔
      (compile .collect lines).result = .error .noRules) ∧
    ((∃ first, (compile .failFast lines).result = .error (.malformed first)) ↔
      ∃ entries, (compile .collect lines).result = .error (.malformedLines entries)) ∧
    (∀ first entries, (compile .failFast lines).result = .error (.malformed first) →
      (compile .collect lines).result = .error (.malformedLines entries) →
        entries.head? = some first) ∧
    ∀ before line after reason, lines = before ++ line :: after →
      (∀ earlier ∈ before, ∀ reason, Outcome.ofLine earlier ≠ .malformed reason) →
      Outcome.ofLine line = .malformed reason →
        (compile .failFast lines).result = .error (.malformed
          { number := before.length + 1, text := Text.stripTerminators line, reason }) ∧
        ∀ after', compile .failFast (before ++ line :: after') = compile .failFast lines := by
  have agree := policiesAgree_compile lines
  refine ⟨agree.eq_ok_iff, agree.eq_noRules_iff, agree.exists_malformed_iff, ?_, ?_⟩
  · intro first entries stopped collected
    rw [stopped, collected] at agree
    exact agree.head?_eq_some
  · rintro before line after reason rfl sound malformed
    obtain ⟨others, found⟩ := Survey.exists_malformed_eq_cons sound .failFast malformed after
    refine ⟨compile_of_malformed found, ?_⟩
    intro after'
    rw [compile_failFast_append_cons sound malformed after',
      compile_failFast_append_cons sound malformed after]

end PermitFilter
