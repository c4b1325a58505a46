import PermitFilter.Expression

/-!
# Clauses as the outer disjuncts of an expression

The depth of a run of characters is the number of parentheses it opens less the number it
closes. Where a text is read from left to right, the depth of what has been read says how
many parentheses the reader is inside of. A run nests within a limit when that number is
never negative, never above the limit and nothing at the end.

In the text of an expression the connective stands between clauses and, inside them,
between ports, and the texts of a rule may spell it too. A reader who counts parentheses
tells them apart: if the texts of the rules have no parentheses, the connective stands
outside of all parentheses between two clauses and nowhere else. Cut there, the text falls
into the clauses of its rules (`clauses_are_outer_pieces`).

The argument is about any separator without parentheses. It does not begin inside a clause,
where the depth is not zero, nor at the first character of one, which is a parenthesis; and
it does not begin inside another separator, since it would go on into the parenthesis behind
that one.
-/

set_option autoImplicit false

namespace PermitFilter.Text

/-! ## Nested parentheses -/

/-- The number of parentheses that a run opens less the number that it closes. -/
def depth (run : List Char) : Int :=
  (run.count '(' : Int) - (run.count ')' : Int)

/-- A run without parentheses. -/
def IsFlat (run : List Char) : Prop :=
  '(' ∉ run ∧ ')' ∉ run

instance decidableIsFlat (run : List Char) : Decidable (IsFlat run) :=
  inferInstanceAs (Decidable ('(' ∉ run ∧ ')' ∉ run))

/-- A run whose parentheses match and nest at most as deep as a limit. -/
structure NestsWithin (limit : Int) (run : List Char) : Prop where
  within : ∀ read, read <+: run → 0 ≤ depth read ∧ depth read ≤ limit
  closed : depth run = 0

/-- A run that is outside all parentheses at its two ends and nowhere else. -/
def OutsideAtEnds (run : List Char) : Prop :=
  ∀ read, read <+: run → (depth read = 0 ↔ read = [] ∨ read = run)

/-! ## Depth -/

section Depth

variable {run more : List Char}

@[simp]
theorem depth_nil : depth [] = 0 :=
  rfl

theorem depth_append (run more : List Char) : depth (run ++ more) = depth run + depth more := by
  simp only [depth, List.count_append]
  omega

theorem depth_open_cons (run : List Char) : depth ('(' :: run) = 1 + depth run := by
  rw [depth, depth, List.count_cons_self, List.count_cons_of_ne (by decide)]
  omega

theorem depth_enclose (run : List Char) : depth ('(' :: (run ++ [')'])) = depth run := by
  have closing : depth [')'] = -1 := by decide
  rw [depth_open_cons, depth_append, closing]
  omega

theorem IsFlat.depth_eq_zero (flat : IsFlat run) : depth run = 0 := by
  rw [depth, List.count_eq_zero_of_not_mem flat.1, List.count_eq_zero_of_not_mem flat.2]
  rfl

theorem isFlat_nil : IsFlat [] :=
  ⟨List.not_mem_nil, List.not_mem_nil⟩

theorem IsFlat.append (flat : IsFlat run) (flat' : IsFlat more) : IsFlat (run ++ more) := by
  simp [IsFlat, flat.1, flat.2, flat'.1, flat'.2]

theorem IsFlat.of_isPrefix (flat : IsFlat run) (start : more <+: run) : IsFlat more :=
  ⟨fun member => flat.1 (start.subset member), fun member => flat.2 (start.subset member)⟩

end Depth

/-! ## Runs one behind the other, and inside parentheses -/

/-- What has been read of two runs is read of the first, or the first and a part of the
second. -/
theorem isPrefix_append_cases {read run more : List Char} (start : read <+: run ++ more) :
    read <+: run ∨ ∃ further, read = run ++ further ∧ further <+: more := by
  rcases List.prefix_or_prefix_of_prefix start (List.prefix_append run more) with
    inside | ⟨further, rfl⟩
  · exact .inl inside
  · exact .inr ⟨further, rfl, (List.prefix_append_right_inj run).1 start⟩

namespace NestsWithin

variable {limit : Int} {run more : List Char}

theorem of_isFlat (flat : IsFlat run) (room : 0 ≤ limit) : NestsWithin limit run where
  within read start := by
    rw [(flat.of_isPrefix start).depth_eq_zero]
    exact ⟨Int.le_refl 0, room⟩
  closed := flat.depth_eq_zero

/-- Runs that nest within a limit do so one behind the other: nothing is left open between
them. -/
theorem append (nests : NestsWithin limit run) (nests' : NestsWithin limit more) :
    NestsWithin limit (run ++ more) where
  within read start := by
    rcases isPrefix_append_cases start with inside | ⟨further, rfl, start'⟩
    · exact nests.within read inside
    · rw [depth_append, nests.closed, Int.zero_add]
      exact nests'.within further start'
  closed := by rw [depth_append, nests.closed, nests'.closed, Int.zero_add]

/-- What has been read of a run in parentheses: nothing, a part of the run behind the
opening one, or all of it. -/
theorem isPrefix_enclose_cases {read : List Char} (start : read <+: '(' :: (run ++ [')'])) :
    read = [] ∨ (∃ inner, read = '(' :: inner ∧ inner <+: run) ∨ read = '(' :: (run ++ [')']) := by
  rcases List.prefix_cons_iff.1 start with rfl | ⟨inner, rfl, start'⟩
  · exact .inl rfl
  · rcases List.prefix_concat_iff.1 start' with rfl | inside
    · exact .inr (.inr rfl)
    · exact .inr (.inl ⟨inner, rfl, inside⟩)

/-- Parentheses around a run nest it one deeper. -/
theorem enclose (nests : NestsWithin limit run) :
    NestsWithin (limit + 1) ('(' :: (run ++ [')'])) where
  within read start := by
    have room := (nests.within [] List.nil_prefix).2
    rw [depth_nil] at room
    rcases isPrefix_enclose_cases start with rfl | ⟨inner, rfl, inside⟩ | rfl
    · rw [depth_nil]
      omega
    · have deeper := nests.within inner inside
      rw [depth_open_cons]
      omega
    · rw [depth_enclose, nests.closed]
      omega
  closed := by rw [depth_enclose, nests.closed]

/-- Inside the parentheses around a run nothing is outside of them. -/
theorem outsideAtEnds_enclose (nests : NestsWithin limit run) :
    OutsideAtEnds ('(' :: (run ++ [')'])) := by
  intro read start
  rcases isPrefix_enclose_cases start with rfl | ⟨inner, rfl, inside⟩ | rfl
  · simp
  · have nonneg := (nests.within inner inside).1
    have shorter := inside.length_le
    have deeper : depth ('(' :: inner) ≠ 0 := by
      rw [depth_open_cons]
      omega
    have part : '(' :: inner ≠ '(' :: (run ++ [')']) := by
      intro whole
      have lengths := congrArg List.length whole
      simp only [List.length_cons, List.length_append, List.length_nil] at lengths
      omega
    simp [deeper, part]
  · simp [depth_enclose, nests.closed]

end NestsWithin

end PermitFilter.Text

namespace PermitFilter

namespace Text

/-! ## Cutting outside parentheses -/

/-- The places of a run at which a separator stands outside all parentheses. -/
def outerPlaces (separator run : List Char) : List Nat :=
  (List.range run.length).filter fun place =>
    depth (run.take place) = 0 ∧ separator <+: run.drop place

/-- The pieces of a run from one place on. They are cut at the places given, where
separators of the same width stand. -/
def cutFrom (run : List Char) (width : Nat) : Nat → List Nat → List (List Char)
  | start, [] => [run.drop start]
  | start, place :: places =>
    (run.drop start).take (place - start) :: cutFrom run width (place + width) places

/-- The pieces of a text between the separators outside all parentheses. -/
def outerPieces (separator text : String) : List String :=
  (cutFrom text.toList separator.toList.length 0
    (outerPlaces separator.toList text.toList)).map String.ofList

/-- A run in parentheses, around one that nests within a limit. -/
def IsGroup (limit : Int) (run : List Char) : Prop :=
  ∃ inner, run = '(' :: (inner ++ [')']) ∧ NestsWithin limit inner

section Places

variable {separator before run : List Char} {limit : Int}

/-- A separator without parentheses does not reach as far as the next parenthesis. -/
theorem IsFlat.not_isPrefix {after : List Char} (flat : IsFlat separator) (before : List Char)
    (reaches : before.length < separator.length) : ¬separator <+: before ++ '(' :: after := by
  intro stands
  have up : before ++ ['('] <+: before ++ '(' :: after := by simp
  have inside : before ++ ['('] <+: separator := by
    apply List.prefix_of_prefix_length_le up stands
    rw [List.length_append]
    exact reaches
  exact flat.1 (inside.subset (by simp))

/-- Behind a run that closes its parentheses the places are those of what follows. -/
theorem outerPlaces_append (closed : depth before = 0) (after : List Char) :
    outerPlaces separator (before ++ after) =
      ((List.range before.length).filter fun place =>
        depth ((before ++ after).take place) = 0 ∧ separator <+: (before ++ after).drop place) ++
      (outerPlaces separator after).map (before.length + ·) := by
  have behind : ∀ place, depth ((before ++ after).take (before.length + place)) =
      depth (after.take place) := by
    intro place
    rw [List.take_length_add_append, depth_append, closed, Int.zero_add]
  rw [outerPlaces, List.length_append, List.range_add, List.filter_append, List.filter_map,
    outerPlaces]
  simp only [Function.comp_def, behind, List.drop_length_add_append]

/-- A separator does not begin inside a group. -/
theorem IsGroup.outerPlaces_append (group : IsGroup limit run) (flat : IsFlat separator)
    (filled : separator ≠ []) (after : List Char) :
    outerPlaces separator (run ++ after) =
      (outerPlaces separator after).map (run.length + ·) := by
  obtain ⟨inner, rfl, nests⟩ := group
  have closed : depth ('(' :: (inner ++ [')'])) = 0 := nests.enclose.closed
  rw [Text.outerPlaces_append closed, List.filter_eq_nil_iff.2, List.nil_append]
  intro place member found
  have inside := List.mem_range.1 member
  obtain ⟨outside, stands⟩ := of_decide_eq_true found
  rw [List.take_append_of_le_length (Nat.le_of_lt inside)] at outside
  -- only its ends are outside of a group, and at the first of them stands its parenthesis
  rcases (nests.outsideAtEnds_enclose _ (List.take_prefix place _)).1 outside with none | whole
  · obtain rfl : place = 0 := by simpa using none
    exact flat.not_isPrefix [] (List.length_pos_iff.2 filled) stands
  · have lengths := congrArg List.length whole
    rw [List.length_take_of_le (Nat.le_of_lt inside)] at lengths
    omega

/-- A separator stands at its own beginning, and no other begins before the group behind
it. -/
theorem outerPlaces_separator_append (flat : IsFlat separator) (filled : separator ≠ [])
    (after : List Char) :
    outerPlaces separator (separator ++ '(' :: after) =
      0 :: (outerPlaces separator ('(' :: after)).map (separator.length + ·) := by
  obtain ⟨width, long⟩ := Nat.exists_eq_add_one_of_ne_zero (mt List.length_eq_zero_iff.1 filled)
  -- begun later, a separator would go on into the parenthesis behind this one
  have later : ∀ place ∈ (List.range width).map Nat.succ,
      ¬separator <+: (separator ++ '(' :: after).drop place := by
    intro place member
    obtain ⟨earlier, below, rfl⟩ := List.mem_map.1 member
    have inside := List.mem_range.1 below
    rw [List.drop_append_of_le_length (by omega)]
    apply flat.not_isPrefix
    rw [List.length_drop]
    omega
  rw [outerPlaces_append flat.depth_eq_zero, long, List.range_succ_eq_map, List.filter_cons_of_pos,
    List.filter_eq_nil_iff.2, ← long]
  · rfl
  · intro place member found
    exact later place member (of_decide_eq_true found).2
  · simp

end Places

section Pieces

variable {separator : List Char} {limit : Int}

theorem length_cutFrom (run : List Char) (width start : Nat) (places : List Nat) :
    (cutFrom run width start places).length = places.length + 1 := by
  induction places generalizing start with
  | nil => rfl
  | cons place places ih => rw [cutFrom, List.length_cons, ih, List.length_cons]

/-- What stands in front of all places does not matter. -/
theorem cutFrom_append (before after : List Char) (width start : Nat) (places : List Nat) :
    cutFrom (before ++ after) width (before.length + start) (places.map (before.length + ·)) =
      cutFrom after width start places := by
  induction places generalizing start with
  | nil => rw [List.map_nil, cutFrom, cutFrom, List.drop_length_add_append]
  | cons place places ih =>
    rw [List.map_cons, cutFrom, cutFrom, List.drop_length_add_append, Nat.add_sub_add_left,
      Nat.add_assoc, ih]

/-- A group in front of a separator and another group is the first piece. -/
theorem IsGroup.cutFrom_outerPlaces_append {run : List Char} (group : IsGroup limit run)
    (flat : IsFlat separator) (filled : separator ≠ []) (after : List Char) :
    cutFrom (run ++ (separator ++ '(' :: after)) separator.length 0
        (outerPlaces separator (run ++ (separator ++ '(' :: after))) =
      run :: cutFrom ('(' :: after) separator.length 0
        (outerPlaces separator ('(' :: after)) := by
  have places : outerPlaces separator (run ++ (separator ++ '(' :: after)) =
      run.length ::
        (outerPlaces separator ('(' :: after)).map (run.length + separator.length + ·) := by
    rw [group.outerPlaces_append flat filled, outerPlaces_separator_append flat filled,
      List.map_cons, List.map_map, Nat.add_zero]
    simp only [Function.comp_def, Nat.add_assoc]
  have behind := cutFrom_append (run ++ separator) ('(' :: after) separator.length 0
    (outerPlaces separator ('(' :: after))
  rw [List.append_assoc, List.length_append, Nat.add_zero] at behind
  rw [places, cutFrom, behind, List.drop_zero, Nat.sub_zero, List.take_left]

/-- Groups written one behind the other begin with a parenthesis. -/
theorem exists_intercalate_eq_open_cons (separator : List Char) {group : List Char}
    {groups : List (List Char)} (grouped : ∀ run ∈ group :: groups, IsGroup limit run) :
    ∃ behind, separator.intercalate (group :: groups) = '(' :: behind := by
  obtain ⟨inner, rfl, -⟩ := grouped group (List.mem_cons_self ..)
  cases groups with
  | nil => exact ⟨_, List.intercalate_singleton⟩
  | cons => exact ⟨_, List.intercalate_cons_cons⟩

/-- **Groups with a separator between any two are the pieces between the separators outside
all parentheses.** The induction is on the groups; each is cut off in front of the next. -/
theorem cutFrom_outerPlaces_intercalate (flat : IsFlat separator) (filled : separator ≠ [])
    {groups : List (List Char)} (some : groups ≠ []) (grouped : ∀ run ∈ groups, IsGroup limit run) :
    cutFrom (separator.intercalate groups) separator.length 0
      (outerPlaces separator (separator.intercalate groups)) = groups := by
  induction groups with
  | nil => exact absurd rfl some
  | cons group groups ih =>
    obtain ⟨first, later⟩ := List.forall_mem_cons.1 grouped
    cases groups with
    | nil =>
      have places := first.outerPlaces_append flat filled []
      rw [List.append_nil] at places
      rw [List.intercalate_singleton, places]
      rfl
    | cons next groups =>
      have rest := ih (List.cons_ne_nil next groups) later
      obtain ⟨behind, opens⟩ := exists_intercalate_eq_open_cons separator later
      rw [opens] at rest
      rw [List.intercalate_cons_cons, List.append_assoc, opens,
        first.cutFrom_outerPlaces_append flat filled, rest]

end Pieces

/-! ## Runs with separators between them -/

section Intercalate

variable {separator : List Char} {runs : List (List Char)}

/-- What holds of runs, of the separator and of nothing holds with the separators between the
runs, if it is kept by writing one run behind the other. -/
theorem intercalate_of_append {holds : List Char → Prop} (nothing : holds [])
    (append : ∀ run more, holds run → holds more → holds (run ++ more)) (between : holds separator)
    (each : ∀ run ∈ runs, holds run) : holds (separator.intercalate runs) := by
  induction runs with
  | nil => exact nothing
  | cons run runs ih =>
    obtain ⟨first, later⟩ := List.forall_mem_cons.1 each
    cases runs with
    | nil => rwa [List.intercalate_singleton]
    | cons next runs =>
      rw [List.intercalate_cons_cons]
      exact append _ _ (append _ _ first between) (ih later)

theorem isFlat_intercalate (flat : IsFlat separator) (flats : ∀ run ∈ runs, IsFlat run) :
    IsFlat (separator.intercalate runs) :=
  intercalate_of_append isFlat_nil (fun _ _ => .append) flat flats

theorem nestsWithin_intercalate {limit : Int} (flat : IsFlat separator) (room : 0 ≤ limit)
    (nests : ∀ run ∈ runs, NestsWithin limit run) :
    NestsWithin limit (separator.intercalate runs) :=
  intercalate_of_append (.of_isFlat isFlat_nil room) (fun _ _ => .append) (.of_isFlat flat room)
    nests

end Intercalate

end Text

/-! ## Clauses -/

/-- The texts that ports are given by. -/
def Ports.fields : Ports → List String
  | .list ports => ports
  | .range low high => [low, high]

/-- The texts that a rule is made of. -/
def Rule.fields (rule : Rule) : List String :=
  rule.network :: rule.protocol :: rule.ports.fields

theorem isFlat_orConnective : Text.IsFlat orConnective.toList := by
  decide

/-- A port condition has parentheses of its own at most around its list. -/
theorem Ports.nestsWithin_text {ports : Ports}
    (flat : ∀ field ∈ ports.fields, Text.IsFlat field.toList) :
    Text.NestsWithin 1 ports.text.toList := by
  cases ports with
  | list ports =>
    have opening : Text.IsFlat "port ".toList := by decide
    have flats : ∀ run ∈ ports.map String.toList, Text.IsFlat run := by
      intro run member
      obtain ⟨port, inside, rfl⟩ := List.mem_map.1 member
      exact flat port inside
    have inner := opening.append (Text.isFlat_intercalate isFlat_orConnective flats)
    have written : (Ports.list ports).text.toList =
        '(' :: (("port ".toList ++ orConnective.toList.intercalate (ports.map String.toList)) ++
          [')']) := by
      simp [text, String.toList_intercalate]
    rw [written]
    exact (Text.NestsWithin.of_isFlat inner (Int.le_refl 0)).enclose
  | range low high =>
    obtain ⟨lowest, rest⟩ := List.forall_mem_cons.1 flat
    have highest := rest high (List.mem_singleton_self high)
    have opening : Text.IsFlat "portrange ".toList := by decide
    have between : Text.IsFlat "-".toList := by decide
    simp only [text, String.toList_append]
    exact .of_isFlat (((opening.append lowest).append between).append highest) (by decide)

theorem Rule.isGroup_text {rule : Rule}
    (flat : ∀ field ∈ rule.fields, Text.IsFlat field.toList) :
    Text.IsGroup 1 rule.text.toList := by
  obtain ⟨network, rest⟩ := List.forall_mem_cons.1 flat
  obtain ⟨protocol, ports⟩ := List.forall_mem_cons.1 rest
  have opening : Text.IsFlat "net ".toList := by decide
  have connective : Text.IsFlat " and ".toList := by decide
  have front := (((opening.append network).append connective).append protocol).append connective
  refine ⟨_, ?_, (Text.NestsWithin.of_isFlat front (by decide)).append
    (Ports.nestsWithin_text ports)⟩
  simp [text]

/-- **The clauses of an expression are its outer disjuncts.** If the texts of its rules have
no parentheses, those of the expression match and are nested twice at most. The connective
stands outside of them once less than there are clauses, and the text cut there falls into
the clauses of the rules, which are outside all parentheses at their ends only. -/
theorem clauses_are_outer_pieces {rules : List Rule} (filled : rules ≠ [])
    (flat : ∀ rule ∈ rules, ∀ field ∈ rule.fields, Text.IsFlat field.toList) :
    ∃ expression, Expression.ofRules? rules = some expression ∧
      Text.NestsWithin 2 expression.text.toList ∧
      (Text.outerPlaces orConnective.toList expression.text.toList).length + 1 =
        expression.clauses ∧
      Text.outerPieces orConnective expression.text = rules.map Rule.text ∧
      ∀ rule ∈ rules, Text.OutsideAtEnds rule.text.toList := by
  obtain ⟨expression, composed⟩ := Expression.exists_ofRules?_eq_some filled
  have groups : ∀ run ∈ rules.map fun rule => rule.text.toList, Text.IsGroup 1 run := by
    intro run member
    obtain ⟨rule, inside, rfl⟩ := List.mem_map.1 member
    exact Rule.isGroup_text (flat rule inside)
  have written : expression.text.toList =
      orConnective.toList.intercalate (rules.map fun rule => rule.text.toList) := by
    rw [Expression.text_of_ofRules? composed, String.toList_intercalate, List.map_map]
    rfl
  have cut := Text.cutFrom_outerPlaces_intercalate isFlat_orConnective (by decide)
    (mt List.map_eq_nil_iff.1 filled) groups
  rw [← written] at cut
  refine ⟨expression, composed, ?_, ?_, ?_, ?_⟩
  · rw [written]
    apply Text.nestsWithin_intercalate isFlat_orConnective (by decide)
    intro run member
    obtain ⟨inner, rfl, nests⟩ := groups run member
    exact nests.enclose
  · have count := congrArg List.length cut
    rwa [Text.length_cutFrom, List.length_map, ← Expression.clauses_of_ofRules? composed] at count
  · rw [Text.outerPieces, cut, List.map_map]
    simp [Function.comp_def]
  · intro rule member
    obtain ⟨inner, text, nests⟩ := Rule.isGroup_text (flat rule member)
    rw [text]
    exact nests.outsideAtEnds_enclose

/-- The connective inside the texts of rules and between ports, and a rule without ports. -/
theorem clauses_are_outer_pieces_spelled :
    let spelled : Rule := { protocol := " or ", network := "a or b", ports := .list [] }
    let listed : Rule := { protocol := " and ", network := "", ports := .list ["1", " or ", "2"] }
    let bounded : Rule := { protocol := "or", network := "or ", ports := .range " or" "or " }
    let rules := [spelled, listed, bounded]
    (∀ rule ∈ rules, ∀ field ∈ rule.fields, Text.IsFlat field.toList) ∧
      ∃ expression, Expression.ofRules? rules = some expression ∧ expression.clauses = 3 ∧
        (Text.outerPlaces orConnective.toList expression.text.toList).length = 2 ∧
        Text.outerPieces orConnective expression.text =
          ["(net a or b and  or  and (port ))", "(net  and  and  and (port 1 or  or  or 2))",
            "(net or  and or and portrange  or-or )"] := by
  intro spelled listed bounded rules
  have flat : ∀ rule ∈ rules, ∀ field ∈ rule.fields, Text.IsFlat field.toList := by decide
  obtain ⟨expression, composed, -, count, pieces, -⟩ :=
    clauses_are_outer_pieces (List.cons_ne_nil spelled [listed, bounded]) flat
  have clauses : expression.clauses = 3 := Expression.clauses_of_ofRules? composed
  refine ⟨flat, expression, composed, clauses, ?_, pieces⟩
  rw [clauses] at count
  exact Nat.succ.inj count

end PermitFilter
