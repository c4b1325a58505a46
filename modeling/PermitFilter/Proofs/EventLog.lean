import PermitFilter.Proofs.Places

/-!
# The log of a compilation

While a list is compiled, log records tell what happens: that a line is examined, that it is
skipped or malformed, and at the end what was composed. The result is not read from the
records, but it agrees with them. Each line examined is told of in turn, under its number and
as it stands, all of them unless the work stops at the first malformed one; the warnings are
the numbers and reasons of the malformed lines that the result reports, and a tally is told
exactly if there is one, with as many lines as were told of and as many skipped
(`compile_events_agree`).

The records are spelled out here once more, with level, target, message and all their
fields.
-/

set_option autoImplicit false

namespace PermitFilter

/-! ## What is told -/

/-- The records that have a level. -/
def Log.atLevel (level : Level) (records : List Record) : List Record :=
  records.filter fun record => record.level = level

/-- The records on a line that is examined under its number. -/
def lineRecords (numbered : String × Nat) : List Log.Record :=
  { level := .debug, target := "acl2bpf::translate", message := "working with line"
    fields := [("line_number", .number numbered.2), ("line", .quoted numbered.1)] } ::
    match Outcome.ofLine numbered.1 with
    | .skipped =>
      [{ level := .trace, target := "acl2bpf::parser::line", message := "skipping non-permit line"
         fields := [("line", .quoted numbered.1)] }]
    | .parsed _ => []
    | .malformed reason =>
      [{ level := .warn, target := "acl2bpf::translate", message := "malformed rule line"
         fields := [("line_number", .number numbered.2), ("reason", .plain reason.message)] }]

/-- The record on a malformed line. -/
def MalformedLine.warning (entry : MalformedLine) : Log.Record where
  level := .warn
  target := "acl2bpf::translate"
  message := "malformed rule line"
  fields := [("line_number", .number entry.number), ("reason", .plain entry.reason.message)]

/-- The records on a result. -/
def resultRecords : Except Failure Compiled → List Log.Record
  | .error _ => []
  | .ok compiled =>
    [{ level := .info, target := "acl2bpf::translate", message := "Composed filter expression"
       fields :=
         [("lines", .number compiled.tally.lines), ("skipped", .number compiled.tally.skipped),
           ("rules", .number compiled.tally.rules)] }]

/-- The records of an attempt, in the order in which they are made. -/
def Attempt.records {α : Type} (attempt : Attempt α) : List Log.Record :=
  attempt.events.map Event.record

/-- The lines of a list that are examined under a policy. -/
inductive Examines : Policy → List String → List String → Prop where
  /-- All lines are examined when malformed ones are collected. -/
  | collected (lines : List String) : Examines .collect lines lines
  /-- All lines are examined when none is malformed. -/
  | sound (policy : Policy) {lines : List String}
      (sound : ∀ line ∈ lines, ∀ reason, Outcome.ofLine line ≠ .malformed reason) :
      Examines policy lines lines
  /-- The first malformed line is the last one examined when it ends the work. -/
  | stopped {before : List String} {line : String} {reason : Reason}
      (sound : ∀ earlier ∈ before, ∀ reason, Outcome.ofLine earlier ≠ .malformed reason)
      (malformed : Outcome.ofLine line = .malformed reason) (after : List String) :
      Examines .failFast (before ++ line :: after) (before ++ [line])

theorem examines_examined (policy : Policy) (lines : List String) :
    Examines policy lines (Survey.examined policy lines) := by
  cases policy with
  | collect =>
    rw [Survey.examined_collect]
    exact .collected lines
  | failFast =>
    rcases sound_or_exists_first_malformed lines with
      sound | ⟨before, line, after, reason, rfl, sound, malformed⟩
    · rw [Survey.examined_of_sound sound]
      exact .sound .failFast sound
    · have ends : Survey.endsAt .failFast (Outcome.ofLine line) = true := by rw [malformed]; rfl
      rw [Survey.examined_append_of_sound sound, Survey.examined, if_pos ends]
      exact .stopped sound malformed after

/-! ## Records of a survey -/

namespace Survey

/-- One more line in front is told of first. -/
theorem records_precededBy (later : Survey) (number : Nat) (line : String) :
    (later.precededBy number line (Outcome.ofLine line)).events.map Event.record =
      lineRecords (line, number) ++ later.events.map Event.record := by
  rw [lineRecords]
  cases Outcome.ofLine line <;> rfl

/-- **A survey tells of the lines examined, in order and each under its number.** -/
theorem records_ofLinesFrom (policy : Policy) (number : Nat) (lines : List String) :
    (ofLinesFrom policy number lines).events.map Event.record =
      ((examined policy lines).zipIdx number).flatMap lineRecords := by
  induction lines generalizing number with
  | nil => rfl
  | cons line later ih =>
    rw [ofLinesFrom, examined]
    split
    · rw [records_precededBy, List.zipIdx_singleton, List.flatMap_singleton]
      exact List.append_nil _
    · rw [records_precededBy, ih, List.zipIdx_cons, List.flatMap_cons]

/-- Stopping early, a survey finds one malformed line at most. -/
theorem length_malformed_failFast_le (number : Nat) (lines : List String) :
    (ofLinesFrom .failFast number lines).malformed.length ≤ 1 := by
  induction lines generalizing number with
  | nil => exact Nat.zero_le 1
  | cons line later ih =>
    rw [ofLinesFrom]
    cases outcome : Outcome.ofLine line with
    | malformed reason => simp [endsAt, precededBy, empty]
    | skipped | parsed => simpa [endsAt, precededBy] using ih (number + 1)

end Survey

/-! ## Records at a level -/

namespace Log

@[simp]
theorem atLevel_append (level : Level) (records records' : List Record) :
    atLevel level (records ++ records') = atLevel level records ++ atLevel level records' :=
  List.filter_append ..

theorem atLevel_flatMap {α : Type} (level : Level) (list : List α) (told : α → List Record) :
    atLevel level (list.flatMap told) = list.flatMap fun a => atLevel level (told a) :=
  List.filter_flatMap

end Log

section Lines

variable (lines : List String) (number : Nat)

/-- At the level of debugging every line is told of, once. -/
theorem length_atLevel_debug :
    (Log.atLevel .debug ((lines.zipIdx number).flatMap lineRecords)).length = lines.length := by
  have once : ∀ numbered, (Log.atLevel .debug (lineRecords numbered)).length = 1 := by
    intro numbered
    cases outcome : Outcome.ofLine numbered.1 <;> simp [Log.atLevel, lineRecords, outcome]
  simp only [Log.atLevel_flatMap, List.length_flatMap, once, List.map_const',
    List.sum_replicate_nat, List.length_zipIdx, Nat.mul_one]

/-- At the level of tracing the skipped lines are told of. -/
theorem length_atLevel_trace :
    (Log.atLevel .trace ((lines.zipIdx number).flatMap lineRecords)).length =
      (lines.map Outcome.ofLine).count .skipped := by
  induction lines generalizing number with
  | nil => rfl
  | cons line later ih =>
    have first : (Log.atLevel .trace (lineRecords (line, number))).length =
        if Outcome.ofLine line = .skipped then 1 else 0 := by
      cases outcome : Outcome.ofLine line <;> simp [Log.atLevel, lineRecords, outcome]
    rw [List.zipIdx_cons, List.flatMap_cons, Log.atLevel_append, List.length_append, first, ih,
      List.map_cons, List.count_cons, Nat.add_comm]
    simp only [beq_iff_eq]

/-- At the level of warnings the malformed lines are told of. -/
theorem atLevel_warn :
    Log.atLevel .warn ((lines.zipIdx number).flatMap lineRecords) =
      ((lines.zipIdx number).filterMap MalformedLine.ofNumbered?).map MalformedLine.warning := by
  have told : ∀ numbered, Log.atLevel .warn (lineRecords numbered) =
      ((MalformedLine.ofNumbered? numbered).map MalformedLine.warning).toList := by
    intro numbered
    cases outcome : Outcome.ofLine numbered.1 <;>
      simp [Log.atLevel, lineRecords, outcome, MalformedLine.ofNumbered?, MalformedLine.warning]
  rw [List.map_filterMap, List.filterMap_eq_flatMap_toList, Log.atLevel_flatMap]
  simp only [told]

/-- At the level of information no line is told of. -/
theorem atLevel_info : Log.atLevel .info ((lines.zipIdx number).flatMap lineRecords) = [] := by
  rw [Log.atLevel_flatMap, List.flatMap_eq_nil_iff]
  intro numbered _
  cases outcome : Outcome.ofLine numbered.1 <;> simp [Log.atLevel, lineRecords, outcome]

end Lines

/-- A result is told of at the level of information. -/
theorem atLevel_resultRecords (level : Log.Level) (result : Except Failure Compiled) :
    Log.atLevel level (resultRecords result) =
      if level = .info then resultRecords result else [] := by
  cases result with
  | error failure => simp [Log.atLevel, resultRecords]
  | ok compiled =>
    by_cases told : level = .info <;> simp [Log.atLevel, resultRecords, told, eq_comm]

/-! ## Records of a compilation -/

section Compile

variable (policy : Policy) (lines : List String)

/-- The records of a compilation are those of its survey and those on the result. -/
theorem records_compile :
    (compile policy lines).records =
      ((Survey.examined policy lines).zipIdx 1).flatMap lineRecords ++
        resultRecords (compile policy lines).result := by
  rw [← Survey.records_ofLinesFrom, ← Survey.ofLines, Attempt.records]
  simp only [compile]
  split
  · exact (List.append_nil _).symm
  · split
    · exact (List.append_nil _).symm
    · rw [List.map_append]
      rfl

/-- What a result reports is what the survey found. -/
theorem reported_eq_malformed :
    reported (compile policy lines).result = (Survey.ofLines policy lines).malformed := by
  cases policy with
  | collect => exact reported_collect lines
  | failFast =>
    have few := Survey.length_malformed_failFast_le 1 lines
    obtain ⟨first, others, found, failed⟩ | ⟨none, failed⟩ | ⟨none, compiled, done, -⟩ :=
      compile_cases .failFast lines
    · rw [← Survey.ofLines, found, List.length_cons] at few
      obtain rfl : others = [] := List.length_eq_zero_iff.1 (by omega)
      rw [failed, found]
      rfl
    · rw [failed, none]
      rfl
    · rw [done, none]
      rfl

end Compile

/-- The tally of a compiled list is that of the survey. -/
theorem tally_of_compile {policy : Policy} {lines : List String} {compiled : Compiled}
    (done : (compile policy lines).result = .ok compiled) :
    compiled.tally.lines = (Survey.ofLines policy lines).lines ∧
      compiled.tally.skipped = (Survey.ofLines policy lines).skipped := by
  obtain ⟨first, others, -, failed⟩ | ⟨-, failed⟩ | ⟨sound, other, -, rules, composed⟩ :=
    compile_cases policy lines
  · simp [failed] at done
  · simp [failed] at done
  · rw [rules] at composed
    have again := compile_of_composed sound composed
    obtain rfl := Except.ok.inj (again.symm.trans done)
    exact ⟨rfl, rfl⟩

/-- **The log of a compilation agrees with its result.** -/
theorem compile_events_agree (policy : Policy) (lines : List String) :
    let attempt := compile policy lines
    ∃ examined, Examines policy lines examined ∧
      attempt.records =
        (examined.zipIdx 1).flatMap lineRecords ++ resultRecords attempt.result ∧
      Log.atLevel .warn attempt.records =
        (reported attempt.result).map MalformedLine.warning ∧
      Log.atLevel .info attempt.records = resultRecords attempt.result ∧
      ∀ compiled, attempt.result = .ok compiled →
        compiled.tally.lines = (Log.atLevel .debug attempt.records).length ∧
        compiled.tally.skipped = (Log.atLevel .trace attempt.records).length := by
  intro attempt
  have records : attempt.records = _ := records_compile policy lines
  have accounts := Survey.accounts_ofLinesFrom policy 1 lines
  rw [← Survey.ofLines] at accounts
  refine ⟨Survey.examined policy lines, examines_examined policy lines, records, ?_, ?_, ?_⟩
  · rw [records, Log.atLevel_append, atLevel_warn, atLevel_resultRecords, if_neg (by decide),
      List.append_nil, reported_eq_malformed, accounts.malformed_eq]
  · rw [records, Log.atLevel_append, atLevel_info, atLevel_resultRecords, if_pos rfl,
      List.nil_append]
  · intro compiled done
    obtain ⟨counted, skipped⟩ := tally_of_compile done
    rw [records, Log.atLevel_append, Log.atLevel_append, atLevel_resultRecords,
      atLevel_resultRecords, if_neg (by decide), if_neg (by decide), List.append_nil,
      List.append_nil, length_atLevel_debug, length_atLevel_trace, counted, skipped,
      accounts.lines_eq, accounts.skipped_eq]
    exact ⟨rfl, rfl⟩

/-- Stopping early, the line behind the malformed one is not told of. -/
example : (compile .failFast ["note", "permit\n", "permit tcp"]).records =
    lineRecords ("note", 1) ++ lineRecords ("permit\n", 2) := by
  decide

end PermitFilter
