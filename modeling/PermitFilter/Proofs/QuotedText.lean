import PermitFilter.Text.Quoted

/-!
# Reading quoted text

A text in quotes can be read back. What stands behind a backslash says which character is
meant, a letter for some and the code point for others, so taking the quotes and the
escapes away gives the text again, whatever quotes and backslashes are in it
(`unquoted?_quoted`).

A text in quotes also stays on its line. All blanks but the space are hidden, and hidden
characters are written by signs that are not (`isUnbroken_quoted`).
-/

set_option autoImplicit false

namespace PermitFilter.Text

/-! ## Digits in base sixteen -/

/-- The digits in base sixteen, each at the place of its value. -/
def sixteenDigits : List Char :=
  ['0', '1', '2', '3', '4', '5', '6', '7', '8', '9', 'a', 'b', 'c', 'd', 'e', 'f']

/-- The number that digits in base sixteen stand for. -/
def ofHexadecimal (digits : List Char) : Nat :=
  digits.foldl (fun number digit => 16 * number + sixteenDigits.idxOf digit) 0

theorem sixteenDigits_digitChar :
    ∀ value < 16, value.digitChar ∈ sixteenDigits ∧
      sixteenDigits.idxOf value.digitChar = value := by
  decide

/-- A number has its last digit behind the digits of the sixteenth part of it. -/
theorem hexadecimal_of_le {number : Nat} (le : 16 ≤ number) :
    hexadecimal number = hexadecimal (number / 16) ++ [(number % 16).digitChar] :=
  Nat.toDigits_of_base_le (by decide) le

theorem hexadecimal_of_lt {number : Nat} (lt : number < 16) :
    hexadecimal number = [number.digitChar] :=
  Nat.toDigits_of_lt_base lt

theorem mem_sixteenDigits {number : Nat} : ∀ digit ∈ hexadecimal number,
    digit ∈ sixteenDigits := by
  induction number using Nat.strongRecOn with
  | ind number ih =>
    intro digit member
    rcases Nat.lt_or_ge number 16 with lt | le
    · rw [hexadecimal_of_lt lt, List.mem_singleton] at member
      exact member ▸ (sixteenDigits_digitChar number lt).1
    · rw [hexadecimal_of_le le, List.mem_append, List.mem_singleton] at member
      rcases member with member | rfl
      · exact ih (number / 16) (by omega) digit member
      · exact (sixteenDigits_digitChar _ (Nat.mod_lt _ (by decide))).1

/-- The digits of a number stand for it. -/
theorem ofHexadecimal_hexadecimal (number : Nat) :
    ofHexadecimal (hexadecimal number) = number := by
  induction number using Nat.strongRecOn with
  | ind number ih =>
    rcases Nat.lt_or_ge number 16 with lt | le
    · rw [hexadecimal_of_lt lt, ofHexadecimal, List.foldl_cons, List.foldl_nil,
        (sixteenDigits_digitChar number lt).2]
      omega
    · have front : ofHexadecimal (hexadecimal (number / 16)) = number / 16 :=
        ih (number / 16) (by omega)
      rw [ofHexadecimal] at front
      rw [hexadecimal_of_le le, ofHexadecimal, List.foldl_append, front, List.foldl_cons,
        List.foldl_nil, (sixteenDigits_digitChar _ (Nat.mod_lt _ (by decide))).2]
      omega

/-! ## Escapes -/

/-- The signs that stand alone behind a backslash, each with the character that is meant. -/
def shortEscapes : List (Char × Char) :=
  [('"', '"'), ('\\', '\\'), ('0', '\x00'), ('t', '\t'), ('n', '\n'), ('r', '\r')]

/-- The three ways to write a character inside quotes. -/
inductive WrittenAs : Char → List Char → Prop where
  /-- By a sign behind a backslash. -/
  | sign {sign c : Char} (member : (sign, c) ∈ shortEscapes) : WrittenAs c ['\\', sign]
  /-- As it is. -/
  | plain {c : Char} (visible : isVisible c = true) (other : c ≠ '\\') : WrittenAs c [c]
  /-- By its code point. -/
  | code (c : Char) : WrittenAs c ('\\' :: 'u' :: '{' :: (hexadecimal c.toNat ++ ['}']))

theorem writtenAs_escaped (c : Char) : WrittenAs c (escaped c) := by
  unfold escaped
  iterate 6
    split
    next same => exact same.symm ▸ .sign (by decide)
  split
  · next other _ _ _ _ visible => exact .plain visible other
  · exact .code c

/-- A sign says which character is meant; it is not the letter in front of a code point,
and no blank. -/
theorem shortEscapes_spec : ∀ entry ∈ shortEscapes,
    shortEscapes.lookup entry.1 = some entry.2 ∧ entry.1 ≠ 'u' ∧ isBlank entry.1 = false := by
  decide

/-- The text that is written inside quotes. -/
def unescaped? : List Char → Option (List Char)
  | [] => some []
  | ['\\'] => none
  | '\\' :: 'u' :: '{' :: rest => do
    let later ← unescaped? (rest.dropWhile (· ≠ '}')).tail
    return Char.ofNat (ofHexadecimal (rest.takeWhile (· ≠ '}'))) :: later
  | '\\' :: sign :: rest => do
    let c ← shortEscapes.lookup sign
    let later ← unescaped? rest
    return c :: later
  | c :: rest => do
    let later ← unescaped? rest
    return c :: later
termination_by written => written.length
decreasing_by
  · have shorter := (List.dropWhile_sublist (fun c => decide (c ≠ '}')) (l := rest)).length_le
    simp only [List.length_tail, List.length_cons]
    omega
  · simp only [List.length_cons]
    omega
  · simp only [List.length_cons]
    omega

/-- The text that is shown in quotes. -/
def unquoted? (shown : String) : Option String :=
  match shown.toList with
  | '"' :: inner =>
    if inner.getLast? = some '"' then (unescaped? inner.dropLast).map String.ofList else none
  | _ => none

theorem unescaped?_code_append (number : Nat) (rest : List Char) :
    unescaped? ('\\' :: 'u' :: '{' :: (hexadecimal number ++ '}' :: rest)) =
      (unescaped? rest).map (Char.ofNat number :: ·) := by
  have open' : ∀ digit ∈ hexadecimal number, decide (digit ≠ '}') = true := by
    intro digit member
    have digits : sixteenDigits.all (fun digit => decide (digit ≠ '}')) = true := by decide
    exact List.all_eq_true.1 digits digit (mem_sixteenDigits digit member)
  rw [unescaped?, List.takeWhile_append_of_pos open', List.dropWhile_append_of_pos open',
    List.takeWhile_cons_of_neg (by simp), List.dropWhile_cons_of_neg (by simp), List.append_nil,
    ofHexadecimal_hexadecimal, List.tail_cons]
  cases unescaped? rest <;> rfl

/-- A written character is read back, and what stands behind it is read on its own. -/
theorem WrittenAs.unescaped?_append {c : Char} {written : List Char}
    (escapes : WrittenAs c written) (rest : List Char) :
    unescaped? (written ++ rest) = (unescaped? rest).map (c :: ·) := by
  cases escapes with
  | @sign sign c member =>
    obtain ⟨found, other, -⟩ := shortEscapes_spec _ member
    rw [List.cons_append, List.cons_append, List.nil_append, unescaped?]
    · rw [found]
      cases unescaped? rest <;> rfl
    · intro _ letter
      exact absurd letter other
  | plain visible other =>
    rw [List.cons_append, List.nil_append, unescaped?]
    · cases unescaped? rest <;> rfl
    all_goals simp [other]
  | code c =>
    have := unescaped?_code_append c.toNat rest
    rw [Char.ofNat_toNat] at this
    simpa using this

theorem unescaped?_flatMap_escaped (text : List Char) :
    unescaped? (text.flatMap escaped) = some text := by
  induction text with
  | nil => rw [List.flatMap_nil, unescaped?]
  | cons c text ih =>
    rw [List.flatMap_cons, (writtenAs_escaped c).unescaped?_append, ih, Option.map_some]

/-- **A quoted text is read back.** -/
theorem unquoted?_quoted (text : String) : unquoted? (quoted text) = some text := by
  simp only [unquoted?, quoted, String.toList_ofList, List.cons_append, List.getLast?_concat,
    List.dropLast_concat, unescaped?_flatMap_escaped, if_true, Option.map_some,
    String.ofList_toList]

theorem quoted_injective : Function.Injective quoted := by
  intro text text' same
  have read := unquoted?_quoted text
  rw [same, unquoted?_quoted] at read
  exact (Option.some.inj read).symm

/-! ## Blanks -/

/-- A code point between the ends of a range of an ordered table is found in the table. -/
theorem inRanges_of_mem {table : List (Nat × Nat)} {range : Nat × Nat} {code : Nat}
    (ordered : table.Pairwise fun first second => first.1 ≤ second.1) (member : range ∈ table)
    (low : range.1 ≤ code) (high : code ≤ range.2) : inRanges table code = true := by
  induction table with
  | nil => exact absurd member List.not_mem_nil
  | cons first later ih =>
    obtain ⟨least, rest⟩ := List.pairwise_cons.1 ordered
    have begun : ¬code < first.1 := by
      rcases List.mem_cons.1 member with rfl | member
      · omega
      · have := least range member
        omega
    rw [inRanges, if_neg begun, Bool.or_eq_true, decide_eq_true_iff]
    rcases List.mem_cons.1 member with rfl | member
    · exact .inl high
    · exact .inr (ih rest member)

/-- A blank other than the space is a control or a separator. -/
theorem inRanges_of_isBlank {c : Char} (blank : isBlank c = true) (other : c ≠ ' ') :
    inRanges controlRanges c.toNat = true ∨ inRanges separatorRanges c.toNat = true := by
  have covered : ∀ range ∈ blankRanges, range = (0x20, 0x20) ∨
      (∃ outer ∈ controlRanges, outer.1 ≤ range.1 ∧ range.2 ≤ outer.2) ∨
      ∃ outer ∈ separatorRanges, outer.1 ≤ range.1 ∧ range.2 ≤ outer.2 := by decide
  obtain ⟨range, member, low, high⟩ := exists_mem_of_inRanges blank
  rcases covered range member with
    rfl | ⟨outer, member, below, above⟩ | ⟨outer, member, below, above⟩
  · have space : c.toNat = ' '.toNat := Nat.le_antisymm high low
    exact absurd (Char.toNat_inj.1 space) other
  · exact .inl (inRanges_of_mem (by decide) member (by omega) (by omega))
  · exact .inr (inRanges_of_mem (by decide) member (by omega) (by omega))

/-- The only visible blank is the space. -/
theorem eq_space_of_isVisible {c : Char} (visible : isVisible c = true)
    (blank : isBlank c = true) : c = ' ' := by
  by_cases same : c = ' '
  · exact same
  · have hidden : isHidden c = true := by
      rcases inRanges_of_isBlank blank same with found | found <;> simp [isHidden, found]
    simp [isVisible, hidden] at visible

/-- A text that stands on one line: its only blanks are spaces. -/
def IsUnbroken (text : String) : Prop :=
  ∀ c ∈ text.toList, isBlank c = true → c = ' '

instance decidableIsUnbroken (text : String) : Decidable (IsUnbroken text) :=
  decidable_of_iff ((text.toList.all fun c => decide (isBlank c = true → c = ' ')) = true)
    (by simp only [IsUnbroken, List.all_eq_true, decide_eq_true_iff])

theorem IsUnbroken.append {front behind : String} (unbroken : IsUnbroken front)
    (unbroken' : IsUnbroken behind) : IsUnbroken (front ++ behind) := by
  intro c member blank
  rw [String.toList_append, List.mem_append] at member
  rcases member with member | member
  · exact unbroken c member blank
  · exact unbroken' c member blank

/-- What a character is written as holds no blank, unless it is the space. -/
theorem WrittenAs.eq_space {c d : Char} {written : List Char} (escapes : WrittenAs c written)
    (member : d ∈ written) (blank : isBlank d = true) : d = ' ' := by
  cases escapes with
  | @sign sign c known =>
    obtain ⟨-, -, plain⟩ := shortEscapes_spec _ known
    have signs : ∀ d ∈ ['\\', sign], isBlank d = false :=
      List.forall_mem_cons.2 ⟨by decide, List.forall_mem_singleton.2 plain⟩
    simp [signs d member] at blank
  | plain visible other =>
    obtain rfl := List.mem_singleton.1 member
    exact eq_space_of_isVisible visible blank
  | code c =>
    have signs : ('\\' :: 'u' :: '{' :: (sixteenDigits ++ ['}'])).all (!isBlank ·) = true := by
      decide
    have inside : d ∈ '\\' :: 'u' :: '{' :: (sixteenDigits ++ ['}']) := by
      grind [mem_sixteenDigits]
    have plain := List.all_eq_true.1 signs d inside
    simp [blank] at plain

/-- **A quoted text stands on one line.** -/
theorem isUnbroken_quoted (text : String) : IsUnbroken (quoted text) := by
  intro c member blank
  rw [quoted, String.toList_ofList, List.mem_append, List.mem_cons, List.mem_flatMap,
    List.mem_singleton] at member
  have quote : isBlank '"' = false := by decide
  rcases member with (rfl | ⟨d, -, member⟩) | rfl
  · simp [quote] at blank
  · exact (writtenAs_escaped d).eq_space member blank
  · simp [quote] at blank

end PermitFilter.Text
