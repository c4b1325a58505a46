import PermitFilter.Proofs.ClauseWords
import PermitFilter.Proofs.Layout
import PermitFilter.Proofs.Places
import PermitFilter.Proofs.QuotedText

/-!
# The wording of reports

The report on a malformed line is a list of words with one space between any two, and
behind them the line in quotes. The word for an operator that is not expected comes from
the line as it is; it holds no blank, so it is a word of the report too, and no others can
be mistaken for it.

That has two consequences. A report stays on one line of text, so the report on several
malformed lines has one line for each, below the one that counts them
(`malformedLines_message_pieces`). And a report tells the number, the line and the reason:
two reports that read the same are the same (`MalformedLine.message_identifies`).
-/

set_option autoImplicit false

namespace PermitFilter

/-! ## Reasons of malformed lines -/

/-- A reason with which a line can be malformed: an operator that is not expected is a
word. -/
def Reason.WellFormed : Reason → Prop
  | .unexpectedOperator word => Text.IsWord word
  | .missingProtocol | .missingNetwork | .missingOperator | .missingPort _ => True

theorem wellFormed_of_ofLine_malformed {line : String} {reason : Reason}
    (malformed : Outcome.ofLine line = .malformed reason) : reason.WellFormed := by
  cases reason with
  | unexpectedOperator word =>
    obtain ⟨body, words, reads⟩ := reads_of_ofLine (.error (.unexpectedOperator word)) malformed
    have third := (Rule.reads_unexpectedOperator_iff.1 reads).1
    have inside := (withoutSecondAny_sublist body).subset (List.mem_of_getElem? third)
    exact Text.isWord_of_mem_words (by rw [words]; exact List.mem_cons_of_mem _ inside)
  | missingProtocol | missingNetwork | missingOperator | missingPort => trivial

/-- The reasons of the lines that are reported are well formed. -/
theorem wellFormed_of_mem_reported {policy : Policy} {lines : List String}
    {entry : MalformedLine} (member : entry ∈ reported (compile policy lines).result) :
    entry.reason.WellFormed := by
  have collected : entry ∈ reported (compile .collect lines).result := by
    cases policy with
    | collect => exact member
    | failFast => exact ((mem_reported_failFast_iff lines entry).1 member).1
  obtain ⟨_, _, _, malformed, _⟩ :=
    ((reportsMalformed_reported_collect lines).mem_iff entry).1 collected
  exact wellFormed_of_ofLine_malformed malformed

/-! ## Words of a report -/

/-- The words of a reason, with a colon behind the last. -/
def Reason.spelling : Reason → List String
  | .missingProtocol => ["missing", "protocol", "after", "`permit`:"]
  | .missingNetwork => ["missing", "network:"]
  | .missingOperator => ["missing", "port", "operator,", "expected", "`eq`", "or", "`range`:"]
  | .unexpectedOperator word =>
    ["unexpected", "port", "operator", "`" ++ word ++ "`,", "expected", "`eq`", "or", "`range`:"]
  | .missingPort operator => ["missing", "port", "after", "`" ++ operator.keyword ++ "`:"]

/-- The words of a report in front of the line in quotes. -/
def MalformedLine.spelling (entry : MalformedLine) : List String :=
  "malformed" :: "rule" :: "line" :: (toString entry.number ++ ":") :: entry.reason.spelling

theorem Reason.spelling_ne_nil (reason : Reason) : reason.spelling ≠ [] := by
  cases reason <;> exact List.cons_ne_nil _ _

/-- The words of a reason spell it. -/
theorem Reason.spaced_spelling (reason : Reason) :
    Text.spaced reason.spelling = reason.message ++ ":" := by
  cases reason with
  | missingProtocol | missingNetwork | missingOperator => decide
  | unexpectedOperator word =>
    have opening : "unexpected port operator `" =
        Text.spaced ["unexpected", "port", "operator"] ++ (" " ++ "`") := by decide
    have closing : "`, expected `eq` or `range`" ++ ":" =
        "`," ++ (" " ++ Text.spaced ["expected", "`eq`", "or", "`range`:"]) := by decide
    calc Text.spaced (unexpectedOperator word).spelling
      _ = Text.spaced ["unexpected", "port", "operator"] ++ (" " ++ "`") ++ word ++
            ("`," ++ (" " ++ Text.spaced ["expected", "`eq`", "or", "`range`:"])) := by
        simp only [spelling, Text.spaced, String.intercalate_cons_cons,
          String.intercalate_singleton, String.append_assoc]
      _ = "unexpected port operator `" ++ word ++ ("`, expected `eq` or `range`" ++ ":") := by
        rw [opening, closing]
      _ = (unexpectedOperator word).message ++ ":" := (String.append_assoc ..).symm
  | missingPort operator => cases operator <;> decide

/-- A report is its words and the line in quotes. -/
theorem MalformedLine.message_eq (entry : MalformedLine) :
    entry.message = Text.spaced entry.spelling ++ " " ++ Text.quoted entry.text := by
  have opening : "malformed rule line " =
      "malformed" ++ (" " ++ ("rule" ++ (" " ++ ("line" ++ " ")))) := by decide
  have colon : ": " = ":" ++ " " := by decide
  have more := entry.reason.spelling_ne_nil
  unfold message spelling
  simp only [Text.spaced_cons, more, ne_eq, not_false_eq_true, reduceCtorEq]
  simp only [opening, colon, Reason.spaced_spelling]
  simp only [String.append_assoc]

theorem Text.isBlank_of_isDigit {c : Char} (digit : c.isDigit = true) : isBlank c = false := by
  rw [Char.isDigit_iff_toNat] at digit
  have apart : ∀ range ∈ blankRanges, range.2 < '0'.toNat ∨ '9'.toNat < range.1 := by decide
  rw [← Bool.not_eq_true]
  intro blank
  obtain ⟨range, member, low, high⟩ := exists_mem_of_inRanges blank
  rcases apart range member with below | above <;> omega

theorem Text.isWord_toString (number : Nat) : Text.IsWord (toString number) := by
  rw [Nat.toString_eq_ofList_toDigits, IsWord, String.toList_ofList]
  refine ⟨Nat.toDigits_ne_nil, ?_⟩
  intro c member
  exact isBlank_of_isDigit (Nat.isDigit_of_mem_toDigits (by decide) (by decide) member)

theorem Reason.WellFormed.isWord_of_mem_spelling {reason : Reason}
    (wellFormed : reason.WellFormed) : ∀ word ∈ reason.spelling, Text.IsWord word := by
  cases reason with
  | missingProtocol | missingNetwork | missingOperator => decide
  | unexpectedOperator word =>
    have opening : Text.IsWord "`" := by decide
    have closing : Text.IsWord "`," := by decide
    have shown : Text.IsWord ("`" ++ word ++ "`,") := (opening.append wellFormed).append closing
    have front : ∀ word ∈ ["unexpected", "port", "operator"], Text.IsWord word := by decide
    have behind : ∀ word ∈ ["expected", "`eq`", "or", "`range`:"], Text.IsWord word := by decide
    exact List.forall_mem_append.2 ⟨front, List.forall_mem_cons.2 ⟨shown, behind⟩⟩
  | missingPort operator => cases operator <;> decide

theorem MalformedLine.isWord_of_mem_spelling {entry : MalformedLine}
    (wellFormed : entry.reason.WellFormed) : ∀ word ∈ entry.spelling, Text.IsWord word := by
  have front : ∀ word ∈ ["malformed", "rule", "line"], Text.IsWord word := by decide
  have colon : Text.IsWord ":" := by decide
  have number : Text.IsWord (toString entry.number ++ ":") :=
    (Text.isWord_toString entry.number).append colon
  exact List.forall_mem_append.2
    ⟨front, List.forall_mem_cons.2 ⟨number, wellFormed.isWord_of_mem_spelling⟩⟩

/-! ## Reports on several lines -/

/-- A text of words with one space between any two stands on one line. -/
theorem Text.isUnbroken_spaced {words : List String} (whole : ∀ word ∈ words, Text.IsWord word) :
    IsUnbroken (spaced words) :=
  (isSingleSpaced_spaced whole).eq_space

/-- **A report stands on one line.** -/
theorem MalformedLine.isUnbroken_message {entry : MalformedLine}
    (wellFormed : entry.reason.WellFormed) : Text.IsUnbroken entry.message := by
  have space : Text.IsUnbroken " " := by decide
  rw [message_eq]
  exact ((Text.isUnbroken_spaced (isWord_of_mem_spelling wellFormed)).append space).append
    (Text.isUnbroken_quoted entry.text)

/-- The pieces of a text that stand between its line feeds. -/
def Text.feedPieces (text : String) : List String :=
  (text.toList.splitOn '\n').map String.ofList

/-- Texts that stand on one line are the pieces of the text that has line feeds between
them. -/
theorem Text.feedPieces_intercalate {pieces : List String} (some : pieces ≠ [])
    (unbroken : ∀ piece ∈ pieces, IsUnbroken piece) :
    feedPieces ("\n".intercalate pieces) = pieces := by
  have free : ∀ run ∈ pieces.map String.toList, '\n' ∉ run := by
    intro run member inside
    obtain ⟨piece, within, rfl⟩ := List.mem_map.1 member
    have space := unbroken piece within '\n' inside (by decide)
    simp at space
  have feed : "\n".toList = ['\n'] := by decide
  rw [feedPieces, String.toList_intercalate, feed,
    List.splitOn_intercalate '\n' free (mt List.map_eq_nil_iff.1 some), List.map_map]
  simp [Function.comp_def]

/-- The pieces of the report on several malformed lines: one that counts them, and one for
each. -/
def reportPieces (entries : List MalformedLine) : List String :=
  (toString entries.length ++ " malformed rule lines:") ::
    entries.map fun entry => "  " ++ entry.message

/-- The report on several malformed lines is its pieces with a line feed between any
two. -/
theorem malformedLinesMessage_eq {entries : List MalformedLine} (some : entries ≠ []) :
    malformedLinesMessage entries = "\n".intercalate (reportPieces entries) := by
  have feed : " malformed rule lines:\n" = " malformed rule lines:" ++ "\n" := by decide
  rw [malformedLinesMessage, reportPieces,
    String.intercalate_cons_of_ne_nil (mt List.map_eq_nil_iff.1 some), feed]
  simp only [String.append_assoc]

theorem isUnbroken_of_mem_reportPieces {entries : List MalformedLine}
    (wellFormed : ∀ entry ∈ entries, entry.reason.WellFormed) :
    ∀ piece ∈ reportPieces entries, Text.IsUnbroken piece := by
  have counted : Text.IsUnbroken " malformed rule lines:" := by decide
  have indented : Text.IsUnbroken "  " := by decide
  intro piece member
  rcases List.mem_cons.1 member with rfl | member
  · have count := (Text.isWord_toString entries.length).isSingleSpaced
    exact Text.IsUnbroken.append count.eq_space counted
  · obtain ⟨entry, inside, rfl⟩ := List.mem_map.1 member
    exact indented.append (MalformedLine.isUnbroken_message (wellFormed entry inside))

/-- Between the lines of a text that stand on one line each, the only blanks are spaces and
the line feeds that part them. -/
theorem Text.eq_space_or_feed_of_mem_intercalate {pieces : List String} {c : Char}
    (unbroken : ∀ piece ∈ pieces, IsUnbroken piece)
    (member : c ∈ ("\n".intercalate pieces).toList) (blank : isBlank c = true) :
    c = ' ' ∨ c = '\n' := by
  induction pieces with
  | nil => simp at member
  | cons piece pieces ih =>
    obtain ⟨first, others⟩ := List.forall_mem_cons.1 unbroken
    by_cases more : pieces = []
    · subst more
      rw [String.intercalate_singleton] at member
      exact .inl (first c member blank)
    · rw [String.intercalate_cons_of_ne_nil more, String.toList_append, String.toList_append,
        List.mem_append, List.mem_append] at member
      rcases member with (member | member) | member
      · exact .inl (first c member blank)
      · exact .inr (List.mem_singleton.1 member)
      · exact ih others member

/-- **The report on malformed lines has one line of text for each,** below the one that
counts them, and no blanks but the spaces in these lines and the line feeds between them. -/
theorem malformedLines_message_pieces {lines : List String} {entries : List MalformedLine}
    (failed : (compile .collect lines).result = .error (.malformedLines entries)) :
    let text := (Failure.malformedLines entries).message
    Text.feedPieces text =
        (toString entries.length ++ " malformed rule lines:") ::
          entries.map (fun entry => "  " ++ entry.message) ∧
      ∀ c ∈ text.toList, Text.isBlank c = true → c = ' ' ∨ c = '\n' := by
  have wellFormed : ∀ entry ∈ entries, entry.reason.WellFormed := by
    intro entry member
    have collected : entry ∈ reported (compile .collect lines).result := by
      rw [failed]
      exact member
    exact wellFormed_of_mem_reported collected
  have some : entries ≠ [] := by
    obtain ⟨first, others, -, failed'⟩ | ⟨-, failed'⟩ | ⟨-, compiled, done, -⟩ :=
      compile_cases .collect lines
    · obtain rfl : first :: others = entries := by simpa [failed, Policy.failure] using failed'.symm
      exact List.cons_ne_nil first others
    · simp [failed] at failed'
    · simp [failed] at done
  intro text
  have whole : text = "\n".intercalate (reportPieces entries) := malformedLinesMessage_eq some
  have unbroken := isUnbroken_of_mem_reportPieces wellFormed
  rw [whole]
  exact ⟨Text.feedPieces_intercalate (List.cons_ne_nil _ _) unbroken,
    fun c member blank => Text.eq_space_or_feed_of_mem_intercalate unbroken member blank⟩

/-- Two of three lines are malformed. One holds a line separator, the other breaks twice and
names an operator that is not expected. -/
theorem malformedLines_message_pieces_hostile :
    let lines := ["permit\u2028tcp", "note", "permit udp n\n`gt`\r 1\r\n"]
    let entries : List MalformedLine :=
      [{ number := 1, text := "permit\u2028tcp", reason := .missingNetwork },
        { number := 3, text := "permit udp n\n`gt`\r 1", reason := .unexpectedOperator "`gt`" }]
    (compile .collect lines).result = .error (.malformedLines entries) ∧
      Text.feedPieces (Failure.malformedLines entries).message =
        ["2 malformed rule lines:",
          "  malformed rule line 1: missing network: \"permit\\u\x7b2028\x7dtcp\"",
          "  malformed rule line 3: unexpected port operator ``gt``, " ++
            "expected `eq` or `range`: \"permit udp n\\n`gt`\\r 1\""] := by
  intro lines entries
  have failed : (compile .collect lines).result = .error (.malformedLines entries) := by decide
  obtain ⟨pieces, -⟩ := malformedLines_message_pieces failed
  exact ⟨failed, pieces.trans (by decide)⟩

/-! ## Reports that read the same -/

theorem Operator.keyword_injective : Function.Injective keyword
  | .eq, .eq, _ => rfl
  | .eq, .range, same => absurd same keyword_ne
  | .range, .eq, same => absurd same.symm keyword_ne
  | .range, .range, _ => rfl

/-- No reason is spelt as another one begins. -/
theorem Reason.eq_of_isPrefix_spelling {reason reason' : Reason}
    (begins : reason.spelling <+: reason'.spelling) : reason = reason' := by
  cases reason with
  | missingPort operator =>
    cases reason' with
    | missingPort operator' =>
      have same : operator.keyword = operator'.keyword := by simpa [spelling] using begins
      rw [Operator.keyword_injective same]
    | _ => simp [spelling] at begins
  | unexpectedOperator word =>
    cases reason' with
    | unexpectedOperator word' =>
      have same : word = word' := by simpa [spelling] using begins
      rw [same]
    | _ => simp [spelling] at begins
  | missingProtocol | missingNetwork | missingOperator =>
    cases reason' with
    | missingProtocol | missingNetwork | missingOperator => simp_all [spelling]
    | _ => simp [spelling] at begins

theorem toString_injective {number number' : Nat} (same : toString number = toString number') :
    number = number' := by
  rw [Nat.toString_eq_ofList_toDigits, Nat.toString_eq_ofList_toDigits, String.ofList_inj] at same
  have read := congrArg (Nat.ofDigitChars 10 · 0) same
  simpa only [Nat.ofDigitChars_ten_toDigits] using read

namespace MalformedLine

variable {entry entry' : MalformedLine}

/-- No report begins as another one with a different number or a different reason. -/
theorem eq_of_isPrefix_spelling (begins : entry.spelling <+: entry'.spelling) :
    entry.number = entry'.number ∧ entry.reason = entry'.reason := by
  simp only [spelling, List.cons_prefix_cons, true_and] at begins
  obtain ⟨numbers, reasons⟩ := begins
  refine ⟨?_, Reason.eq_of_isPrefix_spelling reasons⟩
  exact toString_injective ((String.append_left_inj _).1 numbers)

theorem words_message (wellFormed : entry.reason.WellFormed) :
    Text.words entry.message = entry.spelling ++ Text.words (Text.quoted entry.text) := by
  rw [message_eq, Text.words_append_space_append,
    Text.words_spaced (isWord_of_mem_spelling wellFormed)]

/-- Reports with well-formed reasons that read the same are the same. -/
theorem eq_of_message_eq (wellFormed : entry.reason.WellFormed)
    (wellFormed' : entry'.reason.WellFormed) (same : entry.message = entry'.message) :
    entry = entry' := by
  have begins : entry.spelling <+: Text.words entry.message :=
    ⟨_, (words_message wellFormed).symm⟩
  have begins' : entry'.spelling <+: Text.words entry.message :=
    ⟨_, (same ▸ words_message wellFormed').symm⟩
  obtain ⟨numbers, reasons⟩ : entry.number = entry'.number ∧ entry.reason = entry'.reason := by
    rcases List.prefix_or_prefix_of_prefix begins begins' with first | second
    · exact eq_of_isPrefix_spelling first
    · exact (eq_of_isPrefix_spelling second).imp Eq.symm Eq.symm
  have spelt : entry.spelling = entry'.spelling := by rw [spelling, spelling, numbers, reasons]
  rw [message_eq, message_eq, spelt, String.append_right_inj] at same
  have texts : entry.text = entry'.text := Text.quoted_injective same
  cases entry
  cases entry'
  simp_all

/-- **A report tells which line it is about.** Two malformed lines that are reported in the
same words have the same number, the same text and the same reason, whatever lists they
come from; and the line itself is read back from its quotes. -/
theorem message_identifies {policy policy' : Policy} {lines lines' : List String}
    (member : entry ∈ reported (compile policy lines).result)
    (member' : entry' ∈ reported (compile policy' lines').result) :
    (entry.message = entry'.message →
      entry.number = entry'.number ∧ entry.text = entry'.text ∧ entry.reason = entry'.reason) ∧
    ∀ text, Text.unquoted? (Text.quoted text) = some text := by
  refine ⟨?_, Text.unquoted?_quoted⟩
  intro same
  obtain rfl := eq_of_message_eq (wellFormed_of_mem_reported member)
    (wellFormed_of_mem_reported member') same
  exact ⟨rfl, rfl, rfl⟩

/-- In one list the operator holds what stands behind an operator in a report, in the other
it is the line that holds it. -/
theorem message_identifies_lookalikes :
    let entry : MalformedLine :=
      { number := 1, text := "permit t n `,: \"", reason := .unexpectedOperator "`,:" }
    let entry' : MalformedLine :=
      { number := 1, text := "permit t n , `,: \"", reason := .unexpectedOperator "," }
    entry ∈ reported (compile .failFast ["permit t n `,: \""]).result ∧
      entry' ∈ reported (compile .collect ["permit t n , `,: \"\r", "permit"]).result ∧
      entry.message ≠ entry'.message ∧
      Text.unquoted? (Text.quoted entry.text) = some entry.text := by
  intro entry entry'
  have member : entry ∈ reported (compile .failFast ["permit t n `,: \""]).result := by decide
  have member' :
      entry' ∈ reported (compile .collect ["permit t n , `,: \"\r", "permit"]).result := by
    decide
  obtain ⟨identifies, read⟩ := message_identifies member member'
  refine ⟨member, member', ?_, read entry.text⟩
  intro same
  obtain ⟨-, texts, -⟩ := identifies same
  exact absurd texts (by decide)

end MalformedLine

end PermitFilter
