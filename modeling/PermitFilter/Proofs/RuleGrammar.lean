import Mathlib.Data.List.TakeWhile
import PermitFilter.Proofs.Layout
import PermitFilter.RuleLine

/-!
# The grammar of rule lines

A `permit` line is read by a cursor that moves on word by word. Here the same is
said by a table: which lists of words state which rule, and which fail for which
reason. The table is read after the word `any` directly behind the protocol has
been left out once.

Each list of words has one row of the table (`Rule.Reads.unique`), and reading
finds it (`Rule.reads_read`). So every text amounts to what the table says of its
words (`ofLine_classifies`).
-/

set_option autoImplicit false

namespace PermitFilter

/-! ## Reading through the words left -/

namespace Cursor

theorem require_of_remaining_nil {ε : Type} {cursor : Cursor} (absent : ε)
    (nothing : cursor.remaining = []) : cursor.require absent = .error absent := by
  have found : cursor.current? = none := by rw [current?_eq_head?, nothing, List.head?_nil]
  simp [require, read, found]

theorem require_of_remaining_cons {ε : Type} {cursor : Cursor} (absent : ε) {word : String}
    {rest : List String} (left : cursor.remaining = word :: rest) :
    ∃ next, cursor.require absent = .ok (word, next) ∧ next.remaining = rest := by
  have found : cursor.current? = some word := by rw [current?_eq_head?, left, List.head?_cons]
  have moved := remaining_read cursor
  refine ⟨cursor.read.2, ?_, by rw [moved, left, List.tail_cons]⟩
  simp [require, read, found]

theorem readIf_of_remaining_cons {cursor : Cursor} {keyword : String} {rest : List String}
    (left : cursor.remaining = keyword :: rest) :
    ∃ next, cursor.readIf keyword = (true, next) ∧ next.remaining = rest := by
  have found : cursor.current? = some keyword := by rw [current?_eq_head?, left, List.head?_cons]
  exact ⟨cursor.read.2, by rw [readIf, if_pos found], by rw [remaining_read, left, List.tail_cons]⟩

theorem readIf_of_head?_ne {cursor : Cursor} {keyword : String}
    (other : cursor.remaining.head? ≠ some keyword) : cursor.readIf keyword = (false, cursor) := by
  rw [readIf, if_neg (by rwa [current?_eq_head?])]

end Cursor

/-! ## The table -/

/-- A list of words without its second, if that is `any`. -/
def withoutSecondAny (words : List String) : List String :=
  if words[1]? = some anyKeyword then words.eraseIdx 1 else words

/-- The longest beginning of a list of words in which a word does not occur. -/
structure IsLongestWithout (stop : String) (words beginning : List String) : Prop where
  isBeginning : beginning <+: words
  without : stop ∉ beginning
  longest : ∀ other, other <+: words → stop ∉ other → other.length ≤ beginning.length

/-- What a list of words behind `permit` amounts to: a rule, or the reason why
there is none. -/
inductive Rule.Reads : List String → Except Reason Rule → Prop where
  | noProtocol : Reads [] (.error .missingProtocol)
  | noNetwork (protocol : String) : Reads [protocol] (.error .missingNetwork)
  | noOperator (protocol network : String) : Reads [protocol, network] (.error .missingOperator)
  | otherOperator (protocol network word : String) (rest : List String)
      (noPorts : word ≠ Operator.eq.keyword) (noRange : word ≠ Operator.range.keyword) :
      Reads (protocol :: network :: word :: rest) (.error (.unexpectedOperator word))
  | noPort (protocol network word : String) (lists : word = Operator.eq.keyword) :
      Reads [protocol, network, word] (.error (.missingPort .eq))
  | noBound (protocol network word : String) (bounds : List String)
      (bounded : word = Operator.range.keyword) (short : bounds.length < 2) :
      Reads (protocol :: network :: word :: bounds) (.error (.missingPort .range))
  | ports (protocol network word first : String) (words others : List String)
      (lists : word = Operator.eq.keyword) (longest : IsLongestWithout anyKeyword words others) :
      Reads (protocol :: network :: word :: first :: words)
        (.ok { protocol, network, ports := .list (first :: others) })
  | range (protocol network word low high : String) (rest : List String)
      (bounded : word = Operator.range.keyword) :
      Reads (protocol :: network :: word :: low :: high :: rest)
        (.ok { protocol, network, ports := .range low high })

/-! ## The words in front of a word -/

/-- A list of words that are all kept is no longer than the words kept of a list
it begins. -/
theorem length_le_takeWhile {α : Type} {keep : α → Bool} {beginning list : List α}
    (start : beginning <+: list) (kept : ∀ a ∈ beginning, keep a = true) :
    beginning.length ≤ (list.takeWhile keep).length := by
  obtain ⟨rest, rfl⟩ := start
  rw [List.takeWhile_append_of_pos kept, List.length_append]
  exact Nat.le_add_right _ _

/-- The words in front of the first occurrence of a word are the longest
beginning without it. -/
theorem isLongestWithout_takeWhile (stop : String) (words : List String) :
    IsLongestWithout stop words (words.takeWhile (· ≠ stop)) where
  isBeginning := List.takeWhile_prefix _
  without := by
    intro member
    simpa using List.mem_takeWhile_imp member
  longest other start free := by
    apply length_le_takeWhile start
    intro word member
    simp only [ne_eq, decide_not, Bool.not_eq_true', decide_eq_false_iff_not]
    rintro rfl
    exact free member

theorem IsLongestWithout.eq {stop : String} {words first second : List String}
    (one : IsLongestWithout stop words first) (two : IsLongestWithout stop words second) :
    first = second := by
  have shorter := two.longest first one.isBeginning one.without
  have longer := one.longest second two.isBeginning two.without
  have start := List.prefix_of_prefix_length_le one.isBeginning two.isBeginning shorter
  exact start.eq_of_length_le longer

/-! ## Reading finds the row -/

theorem Operator.keyword_ne : Operator.eq.keyword ≠ Operator.range.keyword := by
  decide

namespace Rule.Reads

/-- **A list of words has one row.** -/
theorem unique {words : List String} {first second : Except Reason Rule}
    (one : Reads words first) (two : Reads words second) : first = second := by
  cases one with
  | noProtocol => cases two; rfl
  | noNetwork => cases two; rfl
  | noOperator => cases two; rfl
  | otherOperator _ _ _ _ noPorts noRange =>
    cases two with
    | otherOperator => rfl
    | noPort _ _ _ lists | ports _ _ _ _ _ _ lists => exact absurd lists noPorts
    | noBound _ _ _ _ bounded | range _ _ _ _ _ _ bounded => exact absurd bounded noRange
  | noPort _ _ _ lists =>
    cases two with
    | otherOperator _ _ _ _ noPorts => exact absurd lists noPorts
    | noPort => rfl
    | noBound _ _ _ _ bounded => exact absurd (lists.symm.trans bounded) Operator.keyword_ne
  | noBound _ _ _ _ bounded short =>
    cases two with
    | otherOperator _ _ _ _ _ noRange => exact absurd bounded noRange
    | noPort _ _ _ lists | ports _ _ _ _ _ _ lists =>
      exact absurd (lists.symm.trans bounded) Operator.keyword_ne
    | noBound => rfl
    | range => exact absurd short (by simp)
  | ports _ _ _ _ _ _ lists longest =>
    cases two with
    | otherOperator _ _ _ _ noPorts => exact absurd lists noPorts
    | noBound _ _ _ _ bounded | range _ _ _ _ _ _ bounded =>
      exact absurd (lists.symm.trans bounded) Operator.keyword_ne
    | ports _ _ _ _ _ _ _ longest' => rw [longest.eq longest']
  | range _ _ _ _ _ _ bounded =>
    cases two with
    | otherOperator _ _ _ _ _ noRange => exact absurd bounded noRange
    | noBound _ _ _ _ _ short => exact absurd short (by simp)
    | ports _ _ _ _ _ _ lists => exact absurd (lists.symm.trans bounded) Operator.keyword_ne
    | range => rfl

end Rule.Reads

/-! ## What reading comes to -/

theorem withoutSecondAny_any (protocol : String) (rest : List String) :
    withoutSecondAny (protocol :: anyKeyword :: rest) = protocol :: rest := by
  simp [withoutSecondAny]

theorem withoutSecondAny_of_ne {protocol : String} {rest : List String}
    (other : rest.head? ≠ some anyKeyword) :
    withoutSecondAny (protocol :: rest) = protocol :: rest := by
  rw [withoutSecondAny, if_neg]
  rwa [List.getElem?_cons_succ, ← List.head?_eq_getElem?]

/-- Behind the protocol the word `any` is passed over once. -/
theorem exists_readIf_any (protocol : String) (cursor : Cursor) :
    ∃ passed next, cursor.readIf anyKeyword = (passed, next) ∧
      withoutSecondAny (protocol :: cursor.remaining) = protocol :: next.remaining := by
  by_cases found : cursor.remaining.head? = some anyKeyword
  · obtain ⟨rest, left⟩ := List.head?_eq_some_iff.1 found
    obtain ⟨next, passed, behind⟩ := Cursor.readIf_of_remaining_cons left
    exact ⟨true, next, passed, by rw [left, withoutSecondAny_any, behind]⟩
  · exact ⟨false, cursor, Cursor.readIf_of_head?_ne found, withoutSecondAny_of_ne found⟩

/-- Behind `eq` there is one port, and further ports up to the word `any`. -/
theorem Rule.Reads.ports_read (protocol network : String) (cursor : Cursor) :
    Rule.Reads (protocol :: network :: Operator.eq.keyword :: cursor.remaining)
      ((Ports.read .eq cursor).map fun ports => { protocol, network, ports }) := by
  cases left : cursor.remaining with
  | nil =>
    have absent := Cursor.require_of_remaining_nil (Reason.missingPort .eq) left
    simp only [Ports.read, absent]
    exact .noPort protocol network _ rfl
  | cons first words =>
    obtain ⟨next, found, behind⟩ := Cursor.require_of_remaining_cons (Reason.missingPort .eq) left
    have longest := isLongestWithout_takeWhile anyKeyword words
    rw [← behind] at longest ⊢
    simp only [Ports.read, found]
    exact .ports protocol network _ first _ _ rfl longest

/-- Behind `range` there are two bounds. -/
theorem Rule.Reads.range_read (protocol network : String) (cursor : Cursor) :
    Rule.Reads (protocol :: network :: Operator.range.keyword :: cursor.remaining)
      ((Ports.read .range cursor).map fun ports => { protocol, network, ports }) := by
  cases left : cursor.remaining with
  | nil =>
    have absent := Cursor.require_of_remaining_nil (Reason.missingPort .range) left
    simp only [Ports.read, absent]
    exact .noBound protocol network _ [] rfl (by decide)
  | cons low words =>
    obtain ⟨next, found, behind⟩ :=
      Cursor.require_of_remaining_cons (Reason.missingPort .range) left
    cases words with
    | nil =>
      have absent := Cursor.require_of_remaining_nil (Reason.missingPort .range) behind
      simp only [Ports.read, found, absent, bind, Except.bind]
      exact .noBound protocol network _ [low] rfl (by simp)
    | cons high rest =>
      obtain ⟨last, found', _⟩ :=
        Cursor.require_of_remaining_cons (Reason.missingPort .range) behind
      simp only [Ports.read, found, found', bind, Except.bind]
      exact .range protocol network _ low high rest rfl

/-- **Reading a rule finds the row of the words left.** -/
theorem Rule.Reads.reads_read (cursor : Cursor) :
    Rule.Reads (withoutSecondAny cursor.remaining) (Rule.read cursor) := by
  cases left : cursor.remaining with
  | nil =>
    have absent := Cursor.require_of_remaining_nil Reason.missingProtocol left
    simp only [Rule.read, absent]
    exact .noProtocol
  | cons protocol words =>
    obtain ⟨afterProtocol, foundProtocol, rfl⟩ :=
      Cursor.require_of_remaining_cons Reason.missingProtocol left
    obtain ⟨passed, afterAny, passing, shifted⟩ := exists_readIf_any protocol afterProtocol
    rw [shifted]
    cases left : afterAny.remaining with
    | nil =>
      have absent := Cursor.require_of_remaining_nil Reason.missingNetwork left
      simp only [Rule.read, foundProtocol, passing, absent, bind, Except.bind]
      exact .noNetwork protocol
    | cons network words =>
      obtain ⟨afterNetwork, foundNetwork, rfl⟩ :=
        Cursor.require_of_remaining_cons Reason.missingNetwork left
      cases left : afterNetwork.remaining with
      | nil =>
        have absent := Cursor.require_of_remaining_nil Reason.missingOperator left
        simp only [Rule.read, foundProtocol, passing, foundNetwork, absent, bind, Except.bind]
        exact .noOperator protocol network
      | cons word words =>
        obtain ⟨afterOperator, foundOperator, rfl⟩ :=
          Cursor.require_of_remaining_cons Reason.missingOperator left
        simp only [Rule.read, foundProtocol, passing, foundNetwork, foundOperator, bind,
          Except.bind]
        by_cases lists : word = Operator.eq.keyword
        · subst lists
          exact .ports_read protocol network afterOperator
        by_cases bounded : word = Operator.range.keyword
        · subst bounded
          exact .range_read protocol network afterOperator
        · rw [Operator.ofWord?, if_neg lists, if_neg bounded]
          exact .otherOperator protocol network word _ lists bounded

/-! ## Reading the table backwards -/

namespace Rule

/-- A rule lists ports or bounds them. -/
theorem reads_ok_iff {words : List String} {rule : Rule} :
    Reads words (.ok rule) ↔
      (∃ first further others,
        words = rule.protocol :: rule.network :: Operator.eq.keyword :: first :: further ∧
          IsLongestWithout anyKeyword further others ∧ rule.ports = .list (first :: others)) ∨
      ∃ low high rest,
        words = rule.protocol :: rule.network :: Operator.range.keyword :: low :: high :: rest ∧
          rule.ports = .range low high := by
  constructor
  · intro reads
    cases reads with
    | ports _ _ _ first further others lists longest =>
      exact .inl ⟨first, further, others, by rw [lists], longest, rfl⟩
    | range _ _ _ low high rest bounded => exact .inr ⟨low, high, rest, by rw [bounded], rfl⟩
  · obtain ⟨protocol, network, ports⟩ := rule
    rintro (⟨first, further, others, rfl, longest, rfl⟩ | ⟨low, high, rest, rfl, rfl⟩)
    · exact .ports protocol network _ first further others rfl longest
    · exact .range protocol network _ low high rest rfl

theorem reads_missingProtocol_iff {words : List String} :
    Reads words (.error .missingProtocol) ↔ words = [] := by
  constructor
  · intro reads
    cases reads
    rfl
  · rintro rfl
    exact .noProtocol

theorem reads_missingNetwork_iff {words : List String} :
    Reads words (.error .missingNetwork) ↔ words.length = 1 := by
  constructor
  · intro reads
    cases reads
    rfl
  · intro one
    obtain ⟨protocol, rfl⟩ := List.length_eq_one_iff.1 one
    exact .noNetwork protocol

theorem reads_missingOperator_iff {words : List String} :
    Reads words (.error .missingOperator) ↔ words.length = 2 := by
  constructor
  · intro reads
    cases reads
    rfl
  · intro two
    match words, two with
    | [protocol, network], rfl => exact .noOperator protocol network

theorem reads_unexpectedOperator_iff {words : List String} {word : String} :
    Reads words (.error (.unexpectedOperator word)) ↔
      words[2]? = some word ∧ word ≠ Operator.eq.keyword ∧ word ≠ Operator.range.keyword := by
  constructor
  · intro reads
    cases reads with
    | otherOperator _ _ _ _ noPorts noRange => exact ⟨rfl, noPorts, noRange⟩
  · rintro ⟨third, noPorts, noRange⟩
    match words, third with
    | protocol :: network :: _ :: rest, rfl =>
      exact .otherOperator protocol network word rest noPorts noRange

theorem reads_missingPort_eq_iff {words : List String} :
    Reads words (.error (.missingPort .eq)) ↔
      ∃ protocol network, words = [protocol, network, Operator.eq.keyword] := by
  constructor
  · intro reads
    cases reads with
    | noPort protocol network _ lists => exact ⟨protocol, network, by rw [lists]⟩
  · rintro ⟨protocol, network, rfl⟩
    exact .noPort protocol network _ rfl

theorem reads_missingPort_range_iff {words : List String} :
    Reads words (.error (.missingPort .range)) ↔
      ∃ protocol network bounds,
        words = protocol :: network :: Operator.range.keyword :: bounds ∧ bounds.length < 2 := by
  constructor
  · intro reads
    cases reads with
    | noBound protocol network _ bounds bounded short =>
      exact ⟨protocol, network, bounds, by rw [bounded], short⟩
  · rintro ⟨protocol, network, bounds, rfl, short⟩
    exact .noBound protocol network _ bounds rfl short

end Rule

/-! ## Outcomes -/

namespace Outcome

theorem ofWords_of_head?_ne {words : List String} (other : words.head? ≠ some permitKeyword) :
    ofWords words = .skipped := by
  rw [ofWords, Cursor.readIf_of_head?_ne (by rwa [Cursor.remaining_ofWords])]

/-- The outcome of a `permit` line whose words behind `permit` are read with a result. -/
def ofResult : Except Reason Rule → Outcome
  | .ok rule => .parsed rule
  | .error reason => .malformed reason

theorem ofResult_ne_skipped (result : Except Reason Rule) : ofResult result ≠ .skipped := by
  cases result <;> simp [ofResult]

theorem ofResult_injective : Function.Injective ofResult := by
  intro first second same
  cases first <;> cases second <;> simp_all [ofResult]

/-- The words behind `permit` amount to what reading a rule from them gives. -/
theorem exists_ofWords_permit (body : List String) :
    ∃ result, Rule.Reads (withoutSecondAny body) result ∧
      ofWords (permitKeyword :: body) = ofResult result := by
  obtain ⟨cursor, opened, rfl⟩ := Cursor.readIf_of_remaining_cons
    (Cursor.remaining_ofWords (permitKeyword :: body))
  refine ⟨Rule.read cursor, .reads_read cursor, ?_⟩
  cases read : Rule.read cursor <;> simp only [ofWords, opened, read, ofResult]

theorem ofWords_permit_ne_skipped (body : List String) :
    ofWords (permitKeyword :: body) ≠ .skipped := by
  obtain ⟨result, _, same⟩ := exists_ofWords_permit body
  rw [same]
  exact ofResult_ne_skipped result

theorem ofWords_eq_skipped_iff {words : List String} :
    ofWords words = .skipped ↔ words.head? ≠ some permitKeyword := by
  refine ⟨?_, ofWords_of_head?_ne⟩
  intro skipped opened
  obtain ⟨body, rfl⟩ := List.head?_eq_some_iff.1 opened
  exact ofWords_permit_ne_skipped body skipped

theorem exists_eq_permit_cons {words : List String} (states : ofWords words ≠ .skipped) :
    ∃ body, words = permitKeyword :: body := by
  rw [ne_eq, ofWords_eq_skipped_iff, not_not] at states
  exact List.head?_eq_some_iff.1 states

theorem ofWords_permit_eq_iff {body : List String} (result : Except Reason Rule) :
    ofWords (permitKeyword :: body) = ofResult result ↔
      Rule.Reads (withoutSecondAny body) result := by
  obtain ⟨found, reads, same⟩ := exists_ofWords_permit body
  rw [same]
  constructor
  · intro equal
    rwa [← ofResult_injective equal]
  · intro row
    rw [reads.unique row]

theorem ofWords_permit_eq_parsed_iff {body : List String} {rule : Rule} :
    ofWords (permitKeyword :: body) = .parsed rule ↔
      Rule.Reads (withoutSecondAny body) (.ok rule) :=
  ofWords_permit_eq_iff (.ok rule)

theorem ofWords_permit_eq_malformed_iff {body : List String} {reason : Reason} :
    ofWords (permitKeyword :: body) = .malformed reason ↔
      Rule.Reads (withoutSecondAny body) (.error reason) :=
  ofWords_permit_eq_iff (.error reason)

/-- What an outcome says of the words behind `permit`, without the word `any`
that is left out: it is a rule for the words that state one, and otherwise the
reason at the first place that fails. -/
structure Classifies (outcome : Outcome) (body : List String) : Prop where
  ne_skipped : outcome ≠ .skipped
  parsed_iff : ∀ rule, outcome = .parsed rule ↔
    (∃ first further others,
      body = rule.protocol :: rule.network :: Operator.eq.keyword :: first :: further ∧
        IsLongestWithout anyKeyword further others ∧ rule.ports = .list (first :: others)) ∨
    ∃ low high rest,
      body = rule.protocol :: rule.network :: Operator.range.keyword :: low :: high :: rest ∧
        rule.ports = .range low high
  missingProtocol_iff : outcome = .malformed .missingProtocol ↔ body = []
  missingNetwork_iff : outcome = .malformed .missingNetwork ↔ body.length = 1
  missingOperator_iff : outcome = .malformed .missingOperator ↔ body.length = 2
  unexpectedOperator_iff : ∀ word, outcome = .malformed (.unexpectedOperator word) ↔
    body[2]? = some word ∧ word ≠ Operator.eq.keyword ∧ word ≠ Operator.range.keyword
  missingPort_eq_iff : outcome = .malformed (.missingPort .eq) ↔
    ∃ protocol network, body = [protocol, network, Operator.eq.keyword]
  missingPort_range_iff : outcome = .malformed (.missingPort .range) ↔
    ∃ protocol network bounds,
      body = protocol :: network :: Operator.range.keyword :: bounds ∧ bounds.length < 2

theorem ofWords_permit_classifies (body : List String) :
    (ofWords (permitKeyword :: body)).Classifies (withoutSecondAny body) where
  ne_skipped := ofWords_permit_ne_skipped body
  parsed_iff _ := ofWords_permit_eq_parsed_iff.trans Rule.reads_ok_iff
  missingProtocol_iff := ofWords_permit_eq_malformed_iff.trans Rule.reads_missingProtocol_iff
  missingNetwork_iff := ofWords_permit_eq_malformed_iff.trans Rule.reads_missingNetwork_iff
  missingOperator_iff := ofWords_permit_eq_malformed_iff.trans Rule.reads_missingOperator_iff
  unexpectedOperator_iff _ :=
    ofWords_permit_eq_malformed_iff.trans Rule.reads_unexpectedOperator_iff
  missingPort_eq_iff := ofWords_permit_eq_malformed_iff.trans Rule.reads_missingPort_eq_iff
  missingPort_range_iff :=
    ofWords_permit_eq_malformed_iff.trans Rule.reads_missingPort_range_iff

/-- **A line is classified by its words.** A line lays out one list of words. It
is skipped exactly when the first of them is not `permit`, and otherwise the words
behind `permit` are classified, without an `any` in second place. -/
theorem ofLine_classifies (line : String) :
    ∃ words, (∀ others, Text.LaysOut others line ↔ others = words) ∧
      (ofLine line = .skipped ↔ words.head? ≠ some permitKeyword) ∧
      ∀ body, words = permitKeyword :: body →
        (ofLine line).Classifies (withoutSecondAny body) := by
  refine ⟨Text.words line, fun others => Text.laysOut_iff.trans eq_comm, ?_, ?_⟩
  · constructor
    · intro skipped opened
      obtain ⟨body, words⟩ := List.head?_eq_some_iff.1 opened
      rw [ofLine, words] at skipped
      exact ofWords_permit_ne_skipped body skipped
    · intro other
      exact ofWords_of_head?_ne other
  · intro body words
    rw [ofLine, words]
    exact ofWords_permit_classifies body

/-- The word `any` is left out behind the protocol, a word among the first ports,
and the end of the list behind them. -/
example : ofLine "permit tcp any any eq any 80 any 9" =
    .parsed { protocol := "tcp", network := "any", ports := .list ["any", "80"] } := by
  decide

end Outcome

end PermitFilter
