import PermitFilter.Proofs.ClauseWords
import PermitFilter.Proofs.Layout

/-!
# Rules written as lines

A rule is written as `permit`, its protocol, the word `any`, its network, and its ports
behind their operator. A well-formed rule is read back from these words, whatever blanks
stand between them and around them (`Rule.WellFormed.ofLine_eq_parsed`). So the rules that
lines state are the well-formed ones (`Rule.written_read_back`).

The word `any` is there to be passed over. Without it the rule is still read back, unless
its network is that very word, which is then passed over in place of the one left out
(`Rule.WellFormed.ofLine_eq_parsed_iff`).
-/

set_option autoImplicit false

namespace PermitFilter

/-- The words of ports in a line, from their operator on. -/
def Ports.lineWords : Ports → List String
  | .list ports => Operator.eq.keyword :: ports
  | .range low high => [Operator.range.keyword, low, high]

namespace Rule

/-- The words of a line that states a rule. -/
def lineWords (rule : Rule) : List String :=
  permitKeyword :: rule.protocol :: anyKeyword :: rule.network :: rule.ports.lineWords

/-- The words of a line that states a rule without an `any` behind the protocol. -/
def bareLineWords (rule : Rule) : List String :=
  permitKeyword :: rule.protocol :: rule.network :: rule.ports.lineWords

end Rule

/-! ## The words of a rule -/

theorem isWord_permitKeyword : Text.IsWord permitKeyword := by
  decide

theorem isWord_anyKeyword : Text.IsWord anyKeyword := by
  decide

theorem Operator.isWord_keyword (operator : Operator) : Text.IsWord operator.keyword := by
  cases operator <;> decide

/-- Ports are opened by an operator, and an operator is not the word `any`. -/
theorem Ports.head?_lineWords_ne (ports : Ports) : ports.lineWords.head? ≠ some anyKeyword := by
  cases ports with
  | list ports | range low high =>
    rw [lineWords, List.head?_cons]
    decide

theorem Ports.WellFormed.isWord_of_mem_lineWords {ports : Ports} (wellFormed : ports.WellFormed) :
    ∀ word ∈ ports.lineWords, Text.IsWord word := by
  cases ports with
  | list ports =>
    obtain ⟨-, whole, -⟩ := wellFormed
    exact List.forall_mem_cons.2 ⟨Operator.isWord_keyword .eq, whole⟩
  | range low high =>
    obtain ⟨whole, whole'⟩ := wellFormed
    simp only [lineWords, List.forall_mem_cons]
    exact ⟨Operator.isWord_keyword .range, whole, whole', List.forall_mem_nil _⟩

theorem IsLongestWithout.self {stop : String} {words : List String} (without : stop ∉ words) :
    IsLongestWithout stop words words where
  isBeginning := List.prefix_rfl
  without := without
  longest _ start _ := start.length_le

namespace Rule

variable {rule : Rule} {line : String}

/-- The words of a well-formed rule state the rule. -/
theorem WellFormed.reads (wellFormed : rule.WellFormed) :
    Reads (rule.protocol :: rule.network :: rule.ports.lineWords) (.ok rule) := by
  obtain ⟨protocol, network, ports⟩ := rule
  cases ports with
  | list ports =>
    obtain ⟨filled, -, without⟩ := wellFormed.ports
    obtain ⟨first, others, rfl⟩ := List.exists_cons_of_ne_nil filled
    exact .ports protocol network _ first others others rfl (.self without)
  | range low high => exact .range protocol network _ low high [] rfl

theorem WellFormed.isWord_of_mem_lineWords (wellFormed : rule.WellFormed) :
    ∀ word ∈ rule.lineWords, Text.IsWord word := by
  simp only [lineWords, List.forall_mem_cons]
  exact ⟨isWord_permitKeyword, wellFormed.protocol, isWord_anyKeyword, wellFormed.network,
    wellFormed.ports.isWord_of_mem_lineWords⟩

/-- The second of the words that state a rule is its network. -/
theorem Reads.network_eq {words : List String} (reads : Reads words (.ok rule)) :
    words[1]? = some rule.network := by
  cases reads <;> rfl

/-! ## Reading back -/

/-- **A well-formed rule is read back from its words,** however they are laid out. -/
theorem WellFormed.ofLine_eq_parsed (wellFormed : rule.WellFormed)
    (laid : Text.LaysOut rule.lineWords line) : Outcome.ofLine line = .parsed rule := by
  rw [Outcome.ofLine, Text.laysOut_iff.1 laid, lineWords, Outcome.ofWords_permit_eq_parsed_iff,
    withoutSecondAny_any]
  exact wellFormed.reads

/-- Without the word `any` in front of its network, a rule is read back unless the network
is that word. -/
theorem WellFormed.ofLine_eq_parsed_iff (wellFormed : rule.WellFormed)
    (laid : Text.LaysOut rule.bareLineWords line) :
    Outcome.ofLine line = .parsed rule ↔ rule.network ≠ anyKeyword := by
  rw [Outcome.ofLine, Text.laysOut_iff.1 laid, bareLineWords, Outcome.ofWords_permit_eq_parsed_iff]
  constructor
  · intro reads passed
    -- the network is passed over, and the operator behind it is read as the network
    rw [passed, withoutSecondAny_any] at reads
    have second := reads.network_eq
    rw [List.getElem?_cons_succ, ← List.head?_eq_getElem?, passed] at second
    exact rule.ports.head?_lineWords_ne second
  · intro other
    rw [withoutSecondAny_of_ne (by simpa using other)]
    exact wellFormed.reads

/-- **The rules that lines state are the well-formed ones.** Each of them is read back from
every line that lays out its words. A line without the word `any` in front of the network
states the rule exactly if the network is another word. -/
theorem written_read_back (rule : Rule) :
    ((∃ line, Outcome.ofLine line = .parsed rule) ↔ rule.WellFormed) ∧
      (rule.WellFormed → ∀ line,
        (Text.LaysOut rule.lineWords line → Outcome.ofLine line = .parsed rule) ∧
          (Text.LaysOut rule.bareLineWords line →
            (Outcome.ofLine line = .parsed rule ↔ rule.network ≠ anyKeyword))) := by
  refine ⟨⟨?_, ?_⟩, ?_⟩
  · rintro ⟨line, parsed⟩
    exact wellFormed_of_ofLine parsed
  · intro wellFormed
    have laid := Text.laysOut_spaced wellFormed.isWord_of_mem_lineWords
    exact ⟨_, wellFormed.ofLine_eq_parsed laid⟩
  · intro wellFormed line
    exact ⟨wellFormed.ofLine_eq_parsed, wellFormed.ofLine_eq_parsed_iff⟩

/-- A rule of keywords. Without the word passed over its network is passed over instead. -/
theorem written_read_back_keywords :
    let rule : Rule := { protocol := "any", network := "any", ports := .list ["any", "eq"] }
    let line := "\u2003permit any\tany any\u2028eq\u00a0 any eq"
    let bareLine := "permit any any eq any\n\neq "
    rule.WellFormed ∧ Outcome.ofLine line = .parsed rule ∧
      Outcome.ofLine bareLine ≠ .parsed rule := by
  intro rule line bareLine
  have wellFormed : rule.WellFormed := by decide
  have laid : Text.LaysOut rule.lineWords line := Text.laysOut_iff.2 (by decide)
  have bareLaid : Text.LaysOut rule.bareLineWords bareLine := Text.laysOut_iff.2 (by decide)
  obtain ⟨-, readBack⟩ := written_read_back rule
  exact ⟨wellFormed, (readBack wellFormed line).1 laid,
    fun parsed => ((readBack wellFormed bareLine).2 bareLaid).1 parsed rfl⟩

end Rule

end PermitFilter
