import PermitFilter.Proofs.ClauseWords
import PermitFilter.Proofs.Layout

/-!
# Lines that go on

A line goes on with a space and further text. What that can come to is known from what
the line amounts to by itself. A line that breaks off can be completed, and with words
that depend on the reason alone (`Reason.completion?`). One with another operator stays
malformed, for the same reason. One that states a rule goes on stating it, and can only
grow in ports (`Rule.GrowsTo`); where the word `any` has ended the list, not even in those.
One that is no rule line stays none, once there is a word in it
(`Outcome.continuations_of_line`).
-/

set_option autoImplicit false

namespace PermitFilter

/-! ## Words behind words -/

/-- Which word is left out behind the protocol is settled when two words are there, or
when `any` is not among those to come. -/
theorem withoutSecondAny_append {body more : List String}
    (settled : 2 ≤ body.length ∨ anyKeyword ∉ more) :
    withoutSecondAny (body ++ more) = withoutSecondAny body ++ more := by
  by_cases inside : 1 < body.length
  · rw [withoutSecondAny, withoutSecondAny, List.getElem?_append_left inside]
    split
    · exact List.eraseIdx_append_of_lt_length inside more
    · rfl
  · have free : anyKeyword ∉ more := settled.resolve_left inside
    have short : body.length ≤ 1 := Nat.le_of_not_lt inside
    have alone : body[1]? ≠ some anyKeyword := by
      rw [List.getElem?_eq_none short]
      simp
    have other : (body ++ more)[1]? ≠ some anyKeyword := by
      rw [List.getElem?_append_right short]
      intro found
      exact free (List.mem_of_getElem? found)
    rw [withoutSecondAny, withoutSecondAny, if_neg alone, if_neg other]

namespace IsLongestWithout

variable {stop : String} {words more beginning longer : List String}

/-- With more words behind, the longest beginning can only grow. -/
theorem isPrefix_append (short : IsLongestWithout stop words beginning)
    (long : IsLongestWithout stop (words ++ more) longer) : beginning <+: longer := by
  have start : beginning <+: words ++ more := short.isBeginning.trans (List.prefix_append _ _)
  exact List.prefix_of_prefix_length_le start long.isBeginning
    (long.longest beginning start short.without)

/-- Behind the word that ends it, more words change nothing. -/
theorem append_of_mem (longest : IsLongestWithout stop words beginning) (ended : stop ∈ words)
    (more : List String) : IsLongestWithout stop (words ++ more) beginning where
  isBeginning := longest.isBeginning.trans (List.prefix_append _ _)
  without := longest.without
  longest other start free := by
    have whole : words <+: words ++ more := List.prefix_append words more
    rcases List.prefix_or_prefix_of_prefix start whole with inside | beyond
    · exact longest.longest other inside free
    · exact absurd (beyond.subset ended) free

end IsLongestWithout

/-! ## Completions -/

/-- Words that complete a line which breaks off for a reason. -/
def Reason.completion? : Reason → Option (List String)
  | .missingProtocol => some ["tcp", "net", Operator.eq.keyword, "80"]
  | .missingNetwork => some ["net", Operator.eq.keyword, "80"]
  | .missingOperator => some [Operator.eq.keyword, "80"]
  | .missingPort .eq => some ["80"]
  | .missingPort .range => some ["80", "90"]
  | .unexpectedOperator _ => none

theorem Reason.completion?_spec {reason : Reason} {more : List String}
    (completes : reason.completion? = some more) :
    anyKeyword ∉ more ∧ ∀ word ∈ more, Text.IsWord word := by
  cases reason with
  | unexpectedOperator word => simp [completion?] at completes
  | missingPort operator => cases operator <;> obtain rfl := Option.some.inj completes <;> decide
  | missingProtocol | missingNetwork | missingOperator =>
    obtain rfl := Option.some.inj completes
    decide

/-- Only another operator is past completing. -/
theorem Reason.exists_completion {reason : Reason}
    (missing : ∀ word, reason ≠ .unexpectedOperator word) :
    ∃ more, reason.completion? = some more := by
  cases reason with
  | unexpectedOperator word => exact absurd rfl (missing word)
  | missingPort operator => cases operator <;> exact ⟨_, rfl⟩
  | missingProtocol | missingNetwork | missingOperator => exact ⟨_, rfl⟩

/-! ## Rules that grow -/

/-- Ports that go on as others: a list as one that it begins, bounds as themselves. -/
inductive Ports.GrowsTo : Ports → Ports → Prop where
  | list {ports others : List String} (start : ports <+: others) :
      GrowsTo (.list ports) (.list others)
  | range (low high : String) : GrowsTo (.range low high) (.range low high)

/-- A rule that differs from another in further ports at most. -/
structure Rule.GrowsTo (rule longer : Rule) : Prop where
  protocol : longer.protocol = rule.protocol
  network : longer.network = rule.network
  ports : rule.ports.GrowsTo longer.ports

namespace Rule.Reads

variable {words more : List String} {rule : Rule} {reason : Reason} {word : String}

/-- Words that break off are completed. -/
theorem exists_ok_of_completion (reads : Reads words (.error reason))
    (completes : reason.completion? = some more) : ∃ rule, Reads (words ++ more) (.ok rule) := by
  cases reads with
  | otherOperator => simp [Reason.completion?] at completes
  | noProtocol =>
    obtain rfl := Option.some.inj completes
    exact ⟨_, .ports _ _ _ _ _ _ rfl (isLongestWithout_takeWhile _ _)⟩
  | noNetwork protocol =>
    obtain rfl := Option.some.inj completes
    exact ⟨_, .ports protocol _ _ _ _ _ rfl (isLongestWithout_takeWhile _ _)⟩
  | noOperator protocol network =>
    obtain rfl := Option.some.inj completes
    exact ⟨_, .ports protocol network _ _ _ _ rfl (isLongestWithout_takeWhile _ _)⟩
  | noPort protocol network word lists =>
    obtain rfl := Option.some.inj completes
    exact ⟨_, .ports protocol network word _ _ _ lists (isLongestWithout_takeWhile _ _)⟩
  | noBound protocol network word bounds bounded short =>
    obtain rfl := Option.some.inj completes
    match bounds, short with
    | [], _ => exact ⟨_, .range protocol network word _ _ _ bounded⟩
    | [low], _ => exact ⟨_, .range protocol network word low _ _ bounded⟩

/-- Behind another operator nothing helps. -/
theorem append_unexpectedOperator (reads : Reads words (.error (.unexpectedOperator word)))
    (more : List String) : Reads (words ++ more) (.error (.unexpectedOperator word)) := by
  cases reads with
  | otherOperator protocol network _ rest noPorts noRange =>
    exact .otherOperator protocol network word (rest ++ more) noPorts noRange

/-- Words that state a rule go on stating it, and stay as they are once `any` stands behind
the first port. -/
theorem exists_ok_append (reads : Reads words (.ok rule)) (more : List String) :
    ∃ longer, Reads (words ++ more) (.ok longer) ∧ rule.GrowsTo longer ∧
      (anyKeyword ∈ words.drop 4 → longer = rule) := by
  cases reads with
  | ports protocol network word first words others lists longest =>
    have longest' := isLongestWithout_takeWhile anyKeyword (words ++ more)
    refine ⟨_, .ports protocol network word first _ _ lists longest', ⟨rfl, rfl, .list ?_⟩, ?_⟩
    · exact (List.prefix_cons_inj first).2 (longest.isPrefix_append longest')
    · intro ended
      rw [(longest.append_of_mem ended more).eq longest']
  | range protocol network word low high rest bounded =>
    exact ⟨_, .range protocol network word low high (rest ++ more) bounded,
      ⟨rfl, rfl, .range low high⟩, fun _ => rfl⟩

/-- Words that lack neither protocol nor network are past the place where `any` is left out. -/
theorem two_le_length {result : Except Reason Rule} (reads : Reads words result)
    (protocol : result ≠ .error .missingProtocol) (network : result ≠ .error .missingNetwork) :
    2 ≤ words.length := by
  cases reads with
  | noProtocol => exact absurd rfl protocol
  | noNetwork => exact absurd rfl network
  | _ => simp

end Rule.Reads

/-! ## Lines -/

namespace Outcome

variable {line more : String} {rule : Rule} {reason : Reason} {word : String}
  {body : List String}

theorem ofLine_append_space (line more : String) :
    ofLine (line ++ " " ++ more) = ofWords (Text.words line ++ Text.words more) := by
  rw [ofLine, Text.words_append_space_append]

/-- The words to come are read behind those of the line, once it is settled which word is
left out. -/
theorem ofLine_append_eq_of_reads (result : Except Reason Rule)
    (words : Text.words line = permitKeyword :: body)
    (settled : 2 ≤ body.length ∨ anyKeyword ∉ Text.words more)
    (reads : Rule.Reads (withoutSecondAny body ++ Text.words more) result) :
    ofLine (line ++ " " ++ more) = ofResult result := by
  rw [ofLine_append_space, words, List.cons_append, ofWords_permit_eq_iff,
    withoutSecondAny_append settled]
  exact reads

/-- A line that ends its ports: behind the first of them there is the word `any`. -/
def EndsPorts (line : String) : Prop :=
  ∃ body, Text.words line = permitKeyword :: body ∧ anyKeyword ∈ (withoutSecondAny body).drop 4

/-- A line that breaks off is completed by the words for its reason. -/
theorem exists_ofLine_append_of_completion {completion : List String}
    (broken : ofLine line = .malformed reason) (completes : reason.completion? = some completion) :
    ∃ rule, ofLine (line ++ " " ++ Text.spaced completion) = .parsed rule := by
  obtain ⟨free, whole⟩ := Reason.completion?_spec completes
  obtain ⟨body, words, reads⟩ := reads_of_ofLine (.error reason) broken
  obtain ⟨rule, reads'⟩ := reads.exists_ok_of_completion completes
  rw [← Text.words_spaced whole] at free reads'
  exact ⟨rule, ofLine_append_eq_of_reads (.ok rule) words (.inr free) reads'⟩

/-- A line with another operator stays malformed. -/
theorem ofLine_append_of_unexpectedOperator
    (other : ofLine line = .malformed (.unexpectedOperator word)) (more : String) :
    ofLine (line ++ " " ++ more) = .malformed (.unexpectedOperator word) := by
  obtain ⟨body, words, reads⟩ := reads_of_ofLine (.error _) other
  have long := (reads.two_le_length (by simp) (by simp)).trans
    (withoutSecondAny_sublist body).length_le
  exact ofLine_append_eq_of_reads (.error _) words (.inl long) (reads.append_unexpectedOperator _)

/-- A line that states a rule goes on stating it, with further ports at most, and with none
once it has ended its ports. -/
theorem exists_ofLine_append_of_parsed (parsed : ofLine line = .parsed rule) (more : String) :
    ∃ longer, ofLine (line ++ " " ++ more) = .parsed longer ∧ rule.GrowsTo longer ∧
      (EndsPorts line → longer = rule) := by
  obtain ⟨body, words, reads⟩ := reads_of_ofLine (.ok rule) parsed
  have long := (reads.two_le_length (by simp) (by simp)).trans
    (withoutSecondAny_sublist body).length_le
  obtain ⟨longer, reads', grows, same⟩ := reads.exists_ok_append (Text.words more)
  refine ⟨longer, ofLine_append_eq_of_reads (.ok longer) words (.inl long) reads', grows, ?_⟩
  rintro ⟨body', words', ended⟩
  obtain rfl : body' = body := List.tail_eq_of_cons_eq (words'.symm.trans words)
  exact same ended

/-- A line that is no rule line stays none, if there is a word in it. -/
theorem ofLine_append_of_skipped (skipped : ofLine line = .skipped)
    (filled : ¬Text.IsGap line.toList) (more : String) :
    ofLine (line ++ " " ++ more) = .skipped := by
  rw [← Text.words_eq_nil_iff] at filled
  rw [ofLine, ofWords_eq_skipped_iff] at skipped
  rw [ofLine_append_space, ofWords_eq_skipped_iff, List.head?_append_of_ne_nil _ filled]
  exact skipped

/-- **What a line amounts to tells what it can go on to be.** A line that breaks off can be
completed to a rule, and one with another operator cannot. A line that states a rule goes on
stating it with further ports at most, and one that is no rule line and not blank stays
none. -/
theorem continuations_of_line (line : String) :
    (∀ reason, ofLine line = .malformed reason → (∀ word, reason ≠ .unexpectedOperator word) →
      ∃ more rule, ofLine (line ++ " " ++ more) = .parsed rule) ∧
    (∀ word, ofLine line = .malformed (.unexpectedOperator word) →
      ∀ more, ofLine (line ++ " " ++ more) = .malformed (.unexpectedOperator word)) ∧
    (∀ rule, ofLine line = .parsed rule →
      ∀ more, ∃ longer, ofLine (line ++ " " ++ more) = .parsed longer ∧ rule.GrowsTo longer ∧
        (EndsPorts line → longer = rule)) ∧
    (ofLine line = .skipped → ¬Text.IsGap line.toList →
      ∀ more, ofLine (line ++ " " ++ more) = .skipped) := by
  refine ⟨?_, ?_, ?_, ?_⟩
  · intro reason broken missing
    obtain ⟨completion, completes⟩ := Reason.exists_completion missing
    exact ⟨_, exists_ofLine_append_of_completion broken completes⟩
  · intro word other
    exact ofLine_append_of_unexpectedOperator other
  · intro rule parsed
    exact exists_ofLine_append_of_parsed parsed
  · intro skipped filled
    exact ofLine_append_of_skipped skipped filled

/-- A line of each kind. The third has ended its ports, so no text adds any. -/
theorem continuations_of_line_each :
    (∃ more rule, ofLine ("permit udp any" ++ " " ++ more) = .parsed rule) ∧
      (∀ more, ofLine ("permit udp lan lt 5" ++ " " ++ more) =
        .malformed (.unexpectedOperator "lt")) ∧
      (∀ more, ofLine ("permit udp lan eq 5 any" ++ " " ++ more) =
        .parsed { protocol := "udp", network := "lan", ports := .list ["5"] }) ∧
      ∀ more, ofLine ("deny" ++ " " ++ more) = .skipped := by
  have broken : ofLine "permit udp any" = .malformed .missingNetwork := by decide
  have other : ofLine "permit udp lan lt 5" = .malformed (.unexpectedOperator "lt") := by decide
  have parsed : ofLine "permit udp lan eq 5 any" =
      .parsed { protocol := "udp", network := "lan", ports := .list ["5"] } := by decide
  have skipped : ofLine "deny" = .skipped := by decide
  have ended : EndsPorts "permit udp lan eq 5 any" :=
    ⟨["udp", "lan", "eq", "5", "any"], by decide, by decide⟩
  have filled : ¬Text.IsGap "deny".toList := by
    rw [← Text.words_eq_nil_iff]
    decide
  refine ⟨(continuations_of_line _).1 _ broken (by simp), (continuations_of_line _).2.1 _ other,
    ?_, (continuations_of_line _).2.2.2 skipped filled⟩
  intro more
  obtain ⟨longer, goesOn, -, same⟩ := (continuations_of_line _).2.2.1 _ parsed more
  rw [goesOn, same ended]

end Outcome

end PermitFilter
