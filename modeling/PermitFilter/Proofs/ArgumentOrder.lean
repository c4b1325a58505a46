import Mathlib.Data.List.TakeDrop
import PermitFilter.CommandLine

/-!
# Command lines in any order

A configuration can be spelt as a command line in many ways. The two paths keep their order,
but options and flags stand anywhere before, between and behind them, and an option has its
value behind an equals sign or as the next argument.

However it is spelt, a configuration is read back. What the command line says is not looked
up in the environment; an option it leaves out is taken from its variable, whatever that is
set to, and from the standard if the variable is not set (`configure_arguments`).

Reading goes item by item. A draft settles to another one when the value that waits in it is
judged; the arguments of an item then add the item to what the draft settles to
(`Draft.exists_takeAll_arguments`).
-/

set_option autoImplicit false

namespace PermitFilter.CommandLine

/-! ## Items -/

/-- The long name of an option. -/
def Setting.name : Setting → String
  | .logLevel => "log-level"
  | .logFormat => "log-format"

/-- The long name of a flag. -/
def Switch.name : Switch → String
  | .collectErrors => "collect-errors"
  | .summary => "summary"
  | .help => "help"
  | .version => "version"

/-- Where the value of an option stands. -/
inductive Form where
  /-- It is the next argument. -/
  | apart
  /-- It stands behind an equals sign. -/
  | attached
  deriving DecidableEq, Repr

/-- One thing that a command line says. -/
inductive Item where
  | path (text : String)
  | option (form : Form) (setting : Setting) (text : String)
  | flag (switch : Switch)
  deriving DecidableEq, Repr

namespace Item

/-- The arguments that say an item. -/
def arguments : Item → List String
  | .path text => [text]
  | .option .apart setting text => ["--" ++ setting.name, text]
  | .option .attached setting text => ["--" ++ setting.name ++ "=" ++ text]
  | .flag switch => ["--" ++ switch.name]

/-- The path that an item is. -/
def path? : Item → Option String
  | .path text => some text
  | .option _ _ _ | .flag _ => none

/-- The value that an item gives to an option. -/
def value? (setting : Setting) : Item → Option String
  | .option _ other text => if other = setting then some text else none
  | .path _ | .flag _ => none

end Item

/-- A text that is taken for a value where options may stand: it is not empty and does not
begin with a dash. -/
def IsPlain (text : String) : Prop :=
  ∃ c rest, text.toList = c :: rest ∧ c ≠ '-'

theorem IsPlain.ne_empty {text : String} (plain : IsPlain text) : text ≠ "" := by
  rintro rfl
  obtain ⟨c, rest, begins, -⟩ := plain
  simp at begins

/-- An item whose texts are taken for values. -/
def Item.IsPlain : Item → Prop
  | .path text | .option _ _ text => CommandLine.IsPlain text
  | .flag _ => True

/-! ## Arguments by their shape -/

theorem ofText_plain {text : String} (plain : IsPlain text) :
    Argument.ofText text = .value text := by
  obtain ⟨c, rest, begins, other⟩ := plain
  rw [Argument.ofText, begins]
  simp [other]

theorem ofText_setting (setting : Setting) :
    Argument.ofText ("--" ++ setting.name) = .long setting.name none := by
  cases setting <;> decide

theorem ofText_switch (switch : Switch) :
    Argument.ofText ("--" ++ switch.name) = .long switch.name none := by
  cases switch <;> decide

/-- What stands behind the first equals sign is the value, whatever signs are in it. -/
theorem ofText_attached (setting : Setting) (text : String) :
    Argument.ofText ("--" ++ setting.name ++ "=" ++ text) =
      .long setting.name (some text) := by
  have free : setting.name.toList.all (· != '=') = true := by cases setting <;> decide
  have plain : ∀ c ∈ setting.name.toList, (c != '=') = true := List.all_eq_true.1 free
  have cut : (setting.name.toList ++ '=' :: text.toList).span (· != '=') =
      (setting.name.toList, '=' :: text.toList) := by
    rw [List.span_eq_takeWhile_dropWhile, List.takeWhile_append_of_pos plain,
      List.dropWhile_append_of_pos plain]
    simp
  have shape : ("--" ++ setting.name ++ "=" ++ text).toList =
      '-' :: '-' :: (setting.name.toList ++ '=' :: text.toList) := by
    simp
  cases setting <;> simp_all [Argument.ofText, Setting.name]

theorem lookup_setting (setting : Setting) :
    longNames.lookup setting.name = some (.setting setting) := by
  cases setting <;> decide

theorem lookup_switch (switch : Switch) :
    longNames.lookup switch.name = some (.switch switch) := by
  cases switch <;> decide

namespace Draft

/-! ## Drafts with a value that waits -/

variable {draft settled next : Draft}

theorem place_eq_ok {place : Place} {text : String} (placed : draft.place place text = .ok next) :
    next.pending = draft.pending ∧ next.unfilled = draft.unfilled := by
  unfold Draft.place at placed
  split at placed
  · cases placed
  · cases place <;> cases placed <;> exact ⟨rfl, rfl⟩

theorem set_eq_ok {setting : Setting} {text : String} (given : draft.set setting text = .ok next) :
    next.pending = draft.pending ∧ next.unfilled = draft.unfilled := by
  cases setting with
  | logLevel =>
    rw [set] at given
    split at given
    · cases given
    · cases given
      exact ⟨rfl, rfl⟩
  | logFormat =>
    rw [set] at given
    split at given
    · cases given
    · split at given
      · cases given
      · cases given
        exact ⟨rfl, rfl⟩

theorem turn_eq_ok {switch : Switch} (turned : draft.turn switch = .ok next) :
    next.pending = draft.pending ∧ next.unfilled = draft.unfilled := by
  cases switch with
  | collectErrors | summary =>
    rw [turn] at turned
    split at turned
    · cases turned
    · cases turned
      exact ⟨rfl, rfl⟩
  | help | version => cases turned

/-- A draft that settles has no option that waits for its value, and the places left open
stay open. -/
theorem settle_eq_ok (settles : draft.settle = .ok settled) :
    settled.pending = none ∧ settled.unfilled = draft.unfilled ∧
      ∀ setting, draft.pending ≠ some (.setting setting none) := by
  unfold settle at settles
  split at settles
  · next none =>
    cases settles
    exact ⟨rfl, rfl, by simp [none]⟩
  · next place text waits =>
    obtain ⟨pending, unfilled⟩ := place_eq_ok settles
    exact ⟨pending, unfilled, by simp [waits]⟩
  · cases settles
  · next setting text waits =>
    obtain ⟨pending, unfilled⟩ := set_eq_ok settles
    exact ⟨pending, unfilled, by simp [waits]⟩

theorem settle_of_pending_none (none : draft.pending = none) : draft.settle = .ok draft := by
  obtain ⟨⟩ := draft
  cases none
  rfl

/-! ## Taking one argument -/

section Take

variable (settles : draft.settle = .ok settled)
include settles

theorem takeLong_switch (switch : Switch) :
    draft.takeLong switch.name none = settled.turn switch := by
  unfold takeLong
  rw [lookup_switch, settles]
  rfl

theorem takeLong_attached (setting : Setting) (text : String) :
    draft.takeLong setting.name (some text) = settled.set setting text := by
  unfold takeLong
  rw [lookup_setting, settles]
  rfl

theorem takeLong_apart (setting : Setting) :
    draft.takeLong setting.name none =
      .ok { settled with pending := some (.setting setting none) } := by
  unfold takeLong
  rw [lookup_setting, settles]
  rfl

/-- Where no option waits for its value, a value is the path for the next open place. -/
theorem takeValue_path {place : Place} {later : List Place}
    (still : settled.unfilled = place :: later) (text : String) :
    draft.takeValue text =
      .ok { settled with unfilled := later, pending := some (.path place text) } := by
  obtain ⟨-, unfilled, waits⟩ := settle_eq_ok settles
  have path : draft.takeValue text = draft.takePath text := by
    unfold takeValue
    split
    · next setting waiting => exact absurd waiting (waits setting)
    · rfl
  rw [path, takePath, ← unfilled, still, settles]
  rfl

end Take

/-- The draft with one more item, if the item may stand there. -/
def add (draft : Draft) : Item → Except Stop Draft
  | .path text =>
    match draft.unfilled with
    | [] => .error (.misuse .unknownArgument)
    | place :: later => { draft with unfilled := later }.place place text
  | .option _ setting text => draft.set setting text
  | .flag switch => draft.turn switch

/-- **The arguments of an item add it to what a draft settles to.** -/
theorem exists_takeAll_arguments {item : Item} (plain : item.IsPlain)
    (settles : draft.settle = .ok settled) (added : settled.add item = .ok next) :
    ∃ draft' : Draft, draft'.settle = .ok next ∧
      ∀ rest, draft.takeAll (item.arguments ++ rest) = draft'.takeAll rest := by
  obtain ⟨calm, -, -⟩ := settle_eq_ok settles
  cases item with
  | path text =>
    rw [add] at added
    split at added
    · cases added
    · next place later still =>
      refine ⟨{ settled with unfilled := later, pending := some (.path place text) }, ?_, ?_⟩
      · rw [← added, settle, ← calm]
      · intro rest
        rw [Item.arguments, List.singleton_append, takeAll, ofText_plain plain]
        simp only [takeValue_path settles still]
  | option form setting text =>
    cases form with
    | apart =>
      refine ⟨{ settled with pending := some (.setting setting (some text)) }, ?_, ?_⟩
      · rw [← added, settle, ← calm]
        rfl
      · intro rest
        rw [Item.arguments, List.cons_append, takeAll, ofText_setting]
        simp only [takeLong_apart settles, List.singleton_append, takeAll, ofText_plain plain]
        rfl
    | attached =>
      refine ⟨next, settle_of_pending_none ((set_eq_ok added).1.trans calm), ?_⟩
      intro rest
      rw [Item.arguments, List.singleton_append, takeAll, ofText_attached]
      simp only [takeLong_attached settles, show settled.set setting text = .ok next from added]
  | flag switch =>
    refine ⟨next, settle_of_pending_none ((turn_eq_ok added).1.trans calm), ?_⟩
    intro rest
    rw [Item.arguments, List.singleton_append, takeAll, ofText_switch]
    simp only [takeLong_switch settles, show settled.turn switch = .ok next from added]

/-- Items that may stand one behind the other are taken. -/
theorem takeAll_of_foldlM {items : List Item} (plain : ∀ item ∈ items, item.IsPlain)
    (settles : draft.settle = .ok settled) (added : items.foldlM add settled = .ok next) :
    draft.takeAll (items.flatMap Item.arguments) = .ok next := by
  induction items generalizing draft settled with
  | nil =>
    cases added
    exact settles
  | cons item items ih =>
    obtain ⟨first, others⟩ := List.forall_mem_cons.1 plain
    rw [List.foldlM_cons] at added
    cases one : settled.add item with
    | error stop => rw [one] at added; cases added
    | ok between =>
      rw [one] at added
      obtain ⟨draft', settles', taken⟩ := exists_takeAll_arguments first settles one
      rw [List.flatMap_cons, taken]
      exact ih others settles' added

end Draft

/-! ## Items that spell a configuration -/

/-- The word for the value that an option has in a configuration. -/
def Setting.value (configuration : Configuration) : Setting → String
  | .logLevel => configuration.logLevel
  | .logFormat => configuration.logFormat.name

/-- What the variable of an option is set to. -/
def Setting.variable (environment : Environment) : Setting → Option String
  | .logLevel => environment.logLevel
  | .logFormat => environment.logFormat

/-- The word for the value of an option that is given nowhere. -/
def Setting.standard : Setting → String
  | .logLevel => "info"
  | .logFormat => "text"

/-- Whether a flag is set in a configuration. -/
def Switch.isOn (configuration : Configuration) : Switch → Bool
  | .collectErrors => configuration.collectErrors
  | .summary => configuration.summary
  | .help | .version => false

/-- Items that spell a configuration, in any order but for the paths: the input in front of
the output, each of the options that are named once and in either form, and the flags that
are set. -/
structure Spells (configuration : Configuration) (named : Setting → Bool) (items : List Item) :
    Prop where
  paths_eq : items.filterMap Item.path? = [configuration.input, configuration.output]
  values_eq : ∀ setting : Setting, items.filterMap (Item.value? setting) =
    if named setting then [setting.value configuration] else []
  count_flag : ∀ switch : Switch,
    items.count (.flag switch) = (switch.isOn configuration).toNat

/-- What items have said so far. -/
def Draft.ofItems (items : List Item) : Draft where
  input := (items.filterMap Item.path?)[0]?
  output := (items.filterMap Item.path?)[1]?
  logLevel := (items.filterMap (Item.value? .logLevel)).head?
  logFormat := (items.filterMap (Item.value? .logFormat)).head?.bind logFormat?
  collectErrors := decide (.flag .collectErrors ∈ items)
  summary := decide (.flag .summary ∈ items)
  unfilled := [.input, .output].drop (items.filterMap Item.path?).length
  pending := none

theorem logFormat?_name (format : Log.Format) : logFormat? format.name = some format := by
  cases format <;> decide

theorem isPlain_name (format : Log.Format) : IsPlain format.name := by
  cases format
  · exact ⟨'t', ['e', 'x', 't'], rfl, by decide⟩
  · exact ⟨'j', ['s', 'o', 'n'], rfl, by decide⟩

namespace Spells

variable {configuration : Configuration} {named : Setting → Bool} {done rest items : List Item}

/-- No option is given twice, and none that is not named. -/
theorem option_first {form : Form} {setting : Setting} {text : String}
    (spells : Spells configuration named (done ++ .option form setting text :: rest)) :
    named setting = true ∧ done.filterMap (Item.value? setting) = [] ∧
      text = setting.value configuration := by
  have values := spells.values_eq setting
  have here : Item.value? setting (.option form setting text) = some text := if_pos rfl
  rw [List.filterMap_append, List.filterMap_cons_some here] at values
  split at values
  · next given =>
    rcases List.append_eq_cons_iff.1 values with ⟨none, same⟩ | ⟨later, -, same⟩
    · exact ⟨given, none, (List.cons.inj same).1⟩
    · simp at same
  · simp at values

/-- No flag is given twice, and none that asks for help or the version. -/
theorem flag_first {switch : Switch}
    (spells : Spells configuration named (done ++ .flag switch :: rest)) :
    .flag switch ∉ done ∧ switch.isOn configuration = true := by
  have count := spells.count_flag switch
  rw [List.count_append, List.count_cons_self] at count
  cases on : switch.isOn configuration with
  | false => simp [on] at count
  | true =>
    simp only [on, Bool.toNat_true] at count
    exact ⟨List.count_eq_zero.1 (by omega), rfl⟩

/-- There are two paths, the input first. -/
theorem path_place {text : String}
    (spells : Spells configuration named (done ++ .path text :: rest)) :
    (done.filterMap Item.path? = [] ∧ text = configuration.input) ∨
      (done.filterMap Item.path? = [configuration.input] ∧ text = configuration.output) := by
  have paths := spells.paths_eq
  have here : Item.path? (.path text) = some text := rfl
  rw [List.filterMap_append, List.filterMap_cons_some here] at paths
  rcases List.append_eq_cons_iff.1 paths with ⟨none, same⟩ | ⟨later, one, same⟩
  · exact .inl ⟨none, (List.cons.inj same).1⟩
  · rcases List.append_eq_cons_iff.1 same.symm with ⟨rfl, same⟩ | ⟨later, -, same⟩
    · exact .inr ⟨one, (List.cons.inj same).1.symm⟩
    · simp at same

/-- **Each item of a spelling may stand behind the ones in front of it.** -/
theorem add_ofItems {item : Item} (input : configuration.input ≠ "")
    (output : configuration.output ≠ "")
    (spells : Spells configuration named (done ++ item :: rest)) :
    (Draft.ofItems done).add item = .ok (Draft.ofItems (done ++ [item])) := by
  -- Only what the item itself gives must still be open, so each case reads one of the three
  -- conditions on a spelling.
  cases item with
  | path text =>
    rcases spells.path_place with ⟨before, rfl⟩ | ⟨before, rfl⟩
    · simp [Draft.add, Draft.ofItems, Draft.place, List.filterMap_append, Item.path?, Item.value?,
        before, input]
    · simp [Draft.add, Draft.ofItems, Draft.place, List.filterMap_append, Item.path?, Item.value?,
        before, output]
  | option form setting text =>
    obtain ⟨-, before, rfl⟩ := spells.option_first
    cases setting with
    | logLevel =>
      simp [Draft.add, Draft.ofItems, Draft.set, List.filterMap_append,
        List.filterMap_cons, Item.path?, Item.value?, before]
    | logFormat =>
      simp [Draft.add, Draft.ofItems, Draft.set, List.filterMap_append,
        List.filterMap_cons, Item.path?, Item.value?, before, Setting.value, logFormat?_name]
  | flag switch =>
    obtain ⟨before, on⟩ := spells.flag_first
    cases switch with
    | collectErrors | summary =>
      simp [Draft.add, Draft.ofItems, Draft.turn, List.filterMap_append,
        List.filterMap_cons, Item.path?, Item.value?, before]
    | help | version => cases on

/-- The items of a spelling are added one by one. -/
theorem foldlM_add (input : configuration.input ≠ "") (output : configuration.output ≠ "")
    (spells : Spells configuration named (done ++ rest)) :
    rest.foldlM Draft.add (Draft.ofItems done) = .ok (Draft.ofItems (done ++ rest)) := by
  -- The condition is on all items, so an item taken goes over to the ones that are done.
  induction rest generalizing done with
  | nil =>
    rw [List.append_nil]
    rfl
  | cons item rest ih =>
    have again : Spells configuration named ((done ++ [item]) ++ rest) := by
      simpa using spells
    have taken := ih again
    rw [List.append_assoc, List.singleton_append] at taken
    rw [List.foldlM_cons, spells.add_ofItems input output]
    exact taken

/-- A spelling holds no text that would be taken for an option. -/
theorem isPlain_of_mem (input : IsPlain configuration.input)
    (output : IsPlain configuration.output)
    (level : named .logLevel = true → IsPlain configuration.logLevel)
    (spells : Spells configuration named items) : ∀ item ∈ items, item.IsPlain := by
  intro item held
  obtain ⟨done, rest, rfl⟩ := List.append_of_mem held
  cases item with
  | path text =>
    rcases spells.path_place with ⟨-, rfl⟩ | ⟨-, rfl⟩
    · exact input
    · exact output
  | option form setting text =>
    obtain ⟨given, -, rfl⟩ := spells.option_first
    cases setting with
    | logLevel => exact level given
    | logFormat => exact isPlain_name configuration.logFormat
  | flag switch => trivial

/-- What a spelling has said at its end. -/
theorem ofItems_eq (spells : Spells configuration named items) :
    Draft.ofItems items =
      { input := some configuration.input
        output := some configuration.output
        logLevel := if named .logLevel then some configuration.logLevel else none
        logFormat := if named .logFormat then some configuration.logFormat else none
        collectErrors := configuration.collectErrors
        summary := configuration.summary
        unfilled := []
        pending := none } := by
  have flagged : ∀ switch : Switch,
      decide (Item.flag switch ∈ items) = switch.isOn configuration := by
    intro switch
    have count := spells.count_flag switch
    cases on : switch.isOn configuration with
    | true =>
      rw [on, Bool.toNat_true] at count
      exact decide_eq_true (List.count_pos_iff.1 (by omega))
    | false =>
      rw [on, Bool.toNat_false] at count
      exact decide_eq_false (List.count_eq_zero.1 count)
  unfold Draft.ofItems
  rw [spells.paths_eq, spells.values_eq, spells.values_eq, flagged, flagged]
  cases named .logLevel <;> cases named .logFormat <;>
    simp [Setting.value, Switch.isOn, logFormat?_name]

end Spells

/-! ## What a spelling is read as -/

variable {configuration : Configuration} {environment : Environment} {named : Setting → Bool}
  {items : List Item}

/-- A spelling is read to its end. -/
theorem configure_items (input : IsPlain configuration.input)
    (output : IsPlain configuration.output)
    (level : named .logLevel = true → IsPlain configuration.logLevel)
    (spells : Spells configuration named items) (environment : Environment) :
    configure (items.flatMap Item.arguments) environment =
      (Draft.ofItems items).configuration environment := by
  have added : items.foldlM Draft.add (Draft.ofItems []) = .ok (Draft.ofItems items) :=
    Spells.foldlM_add input.ne_empty output.ne_empty spells
  have taken := Draft.takeAll_of_foldlM (spells.isPlain_of_mem input output level)
    (Draft.settle_of_pending_none rfl) added
  unfold configure
  rw [show Draft.empty = Draft.ofItems [] from rfl, taken]
  rfl

/-- The word that decides on an option: what a configuration says, if the option is given, and
else what its variable is set to, or the standard if it is not set. -/
def Setting.word (configuration : Configuration) (environment : Environment)
    (named : Setting → Bool) (setting : Setting) : String :=
  if named setting then setting.value configuration
  else (setting.variable environment).getD setting.standard

theorem logFormat?_eq_some {word : String} {format : Log.Format} :
    logFormat? word = some format ↔ format.name = word := by
  constructor
  · intro read
    unfold logFormat? at read
    split at read
    · next same =>
      cases read
      exact same.symm
    · split at read
      · next same =>
        cases read
        exact same.symm
      · cases read
  · rintro rfl
    exact logFormat?_name format

theorem chosenLogLevel_ofItems (spells : Spells configuration named items)
    (environment : Environment) :
    (Draft.ofItems items).chosenLogLevel environment =
      Setting.word configuration environment named .logLevel := by
  rw [spells.ofItems_eq, Draft.chosenLogLevel, Setting.word]
  cases named .logLevel with
  | true => rfl
  | false =>
    cases level : environment.logLevel with
    | none => simp [level, Setting.variable, Setting.standard, Configuration.standardLogLevel]
    | some text => simp [level, Setting.variable]

theorem chosenLogFormat_ofItems (spells : Spells configuration named items)
    (environment : Environment) :
    (Draft.ofItems items).chosenLogFormat environment =
      match logFormat? (Setting.word configuration environment named .logFormat) with
      | none => .error (.misuse .invalidValue)
      | some format => .ok format := by
  rw [spells.ofItems_eq, Draft.chosenLogFormat, Setting.word]
  cases named .logFormat with
  | true => simp [Setting.value, logFormat?_name]
  | false =>
    cases format : environment.logFormat with
    | none =>
      simp only [format, Setting.variable]
      rfl
    | some text =>
      simp only [format, Setting.variable]
      cases read : logFormat? text <;> simp [read]

theorem chosenCollectErrors_ofItems
    (collects : configuration.collectErrors = true ∨ environment.collectErrors = none ∨
      environment.collectErrors = some "false")
    (spells : Spells configuration named items) :
    (Draft.ofItems items).chosenCollectErrors environment = .ok configuration.collectErrors := by
  rw [spells.ofItems_eq, Draft.chosenCollectErrors]
  cases on : configuration.collectErrors with
  | true => rfl
  | false =>
    rcases collects with bad | unset | denied
    · rw [on] at bad
      cases bad
    · rw [unset]
    · rw [denied]
      rfl

/-- A spelling is read as the configuration with the words that decide on its options. -/
theorem configure_of_spells (input : IsPlain configuration.input)
    (output : IsPlain configuration.output)
    (level : named .logLevel = true → IsPlain configuration.logLevel)
    (spells : Spells configuration named items)
    (collects : configuration.collectErrors = true ∨ environment.collectErrors = none ∨
      environment.collectErrors = some "false") :
    configure (items.flatMap Item.arguments) environment =
      match logFormat? (Setting.word configuration environment named .logFormat) with
      | none => .error (.misuse .invalidValue)
      | some logFormat =>
        let logLevel := Setting.word configuration environment named .logLevel
        .ok { configuration with logLevel, logFormat } := by
  have chosen := chosenLogFormat_ofItems spells environment
  rw [configure_items input output level spells, Draft.configuration]
  cases word : logFormat? (Setting.word configuration environment named .logFormat) with
  | none =>
    rw [word] at chosen
    rw [chosen]
    rfl
  | some format =>
    rw [word] at chosen
    rw [chosen, chosenCollectErrors_ofItems collects spells,
      chosenLogLevel_ofItems spells environment, spells.ofItems_eq]
    rfl

/-- **However a configuration is spelt, it is read back.** The items stand in any order in
which the input is in front of the output, with the value of an option in either form. What
the command line says holds whatever the variables of the options are set to. An option that
is left out is read from its variable, if that is set, and else it has its standard; a variable
that names no log format is an invalid value. Nothing else of the configuration depends on
these options. -/
theorem configure_arguments (input : IsPlain configuration.input)
    (output : IsPlain configuration.output)
    (level : named .logLevel = true → IsPlain configuration.logLevel)
    (spells : Spells configuration named items)
    (collects : configuration.collectErrors = true ∨ environment.collectErrors = none ∨
      environment.collectErrors = some "false") :
    ((∀ setting, named setting = true) →
      configure (items.flatMap Item.arguments) environment = .ok configuration) ∧
    (∀ format : Log.Format,
      format.name = Setting.word configuration environment named .logFormat →
        configure (items.flatMap Item.arguments) environment =
          .ok { configuration with
            logLevel := Setting.word configuration environment named .logLevel
            logFormat := format }) ∧
    ((∀ format : Log.Format,
      format.name ≠ Setting.word configuration environment named .logFormat) →
        configure (items.flatMap Item.arguments) environment =
          .error (.misuse .invalidValue)) := by
  rw [configure_of_spells input output level spells collects]
  refine ⟨?_, ?_, ?_⟩
  · intro all
    have format : Setting.word configuration environment named .logFormat =
        configuration.logFormat.name := if_pos (all .logFormat)
    have level : Setting.word configuration environment named .logLevel =
        configuration.logLevel := if_pos (all .logLevel)
    rw [format, level, logFormat?_name]
  · intro format same
    rw [logFormat?_eq_some.2 same]
  · intro other
    cases word : logFormat? (Setting.word configuration environment named .logFormat) with
    | none => rfl
    | some format => exact absurd (logFormat?_eq_some.1 word) (other format)

/-- A level with an equals sign in it, the flags around the paths, a format from the
environment, and a variable for the flag that would be invalid alone. -/
theorem configure_arguments_scattered :
    configure ["--collect-errors", "rules", "--log-level", "net=debug", "filter", "--summary"]
        { logLevel := some "warn", logFormat := some "json", collectErrors := some "yes" } =
      .ok {
        input := "rules", output := "filter", logLevel := "net=debug", logFormat := .json
        collectErrors := true, summary := true } := by
  have spells : Spells
      { input := "rules", output := "filter", logLevel := "net=debug", logFormat := .text
        collectErrors := true, summary := true }
      (fun setting => setting == .logLevel)
      [.flag .collectErrors, .path "rules", .option .apart .logLevel "net=debug",
        .path "filter", .flag .summary] := by
    refine ⟨rfl, ?_, ?_⟩
    · intro setting
      cases setting <;> rfl
    · intro switch
      cases switch <;> rfl
  exact (configure_arguments ⟨'r', "ules".toList, rfl, by decide⟩
    ⟨'f', "ilter".toList, rfl, by decide⟩ (fun _ => ⟨'n', "et=debug".toList, rfl, by decide⟩)
    spells (.inl rfl)).2.1 .json rfl

/-- A variable that is set to the empty text is set: the level is the empty text then, and not
the standard one, and for the format the empty text is an invalid value. -/
theorem configure_empty_variable :
    configure ["a", "b"] { Environment.empty with logLevel := some "" } =
        .ok { Configuration.standard with input := "a", output := "b", logLevel := "" } ∧
      configure ["a", "b"] { Environment.empty with logLevel := some "" } ≠
        .ok { Configuration.standard with input := "a", output := "b", logLevel := "info" } ∧
      configure ["a", "b"] { Environment.empty with logFormat := some "" } =
        .error (.misuse .invalidValue) := by
  decide

end PermitFilter.CommandLine
