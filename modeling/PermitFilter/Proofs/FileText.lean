import PermitFilter.Proofs.Trimming
import PermitFilter.RuleFile
import PermitFilter.Workspace

/-!
# What paths show

A path shows a text when it leads to a file that holds the bytes of the text. It shows
none for one of four reasons: the way is barred, nothing is there, a directory is there,
or a file whose bytes encode no text. One of these five is the case, and reading the
text of the path comes to the same (`FileTree.shows_iff`).

A filter is loaded when its path shows a text, and then it holds that text without the
blanks at its ends (`HeldFilter.load_eq_ok_iff`). Reading it again answers whether that
text is another one now, and brings the filter up to date; if the path shows no text it
says so and leaves the filter (`HeldFilter.refreshes_refresh`).
-/

set_option autoImplicit false

namespace PermitFilter

/-! ## Texts -/

/-- Bytes decode to a text exactly when they encode it. -/
theorem fromUTF8?_eq_some_iff {bytes : ByteArray} {text : String} :
    String.fromUTF8? bytes = some text ↔ bytes = text.toUTF8 := by
  unfold String.fromUTF8?
  split
  · rw [Option.some.injEq]
    constructor <;> rintro rfl <;> rfl
  · rename_i invalid
    simp only [reduceCtorEq, false_iff]
    rintro rfl
    exact invalid text.isValidUTF8

/-- A file has a text exactly when it holds the bytes of that text. -/
theorem decodeFile_eq_ok_iff {content : Except Fault ByteArray} {text : String} :
    decodeFile content = .ok text ↔ content = .ok text.toUTF8 := by
  cases content with
  | error fault => simp [decodeFile]
  | ok bytes =>
    rw [Except.ok.injEq, ← fromUTF8?_eq_some_iff]
    cases decoded : String.fromUTF8? bytes <;> simp [decodeFile, decoded]

namespace FileTree

/-- What a path shows to a reader of text. -/
inductive Shows (tree : FileTree) (path : String) : Except Fault String → Prop where
  | text {location : Location} {text : String} (leads : tree.locate path = .ok location)
      (holds : tree.get? location = some (.file text.toUTF8)) : Shows tree path (.ok text)
  | noText {location : Location} {bytes : ByteArray} (leads : tree.locate path = .ok location)
      (holds : tree.get? location = some (.file bytes))
      (other : ∀ text : String, bytes ≠ text.toUTF8) : Shows tree path (.error .invalidText)
  | missing {location : Location} (leads : tree.locate path = .ok location)
      (holds : tree.get? location = none) : Shows tree path (.error .notFound)
  | directory {location : Location} (leads : tree.locate path = .ok location)
      (holds : tree.get? location = some .directory) : Shows tree path (.error .isADirectory)
  | barred {fault : Fault} (barred : tree.locate path = .error fault) :
      Shows tree path (.error fault)

/-- What a path shows is what is read from it. -/
theorem Shows.decodeFile_read_eq {tree : FileTree} {path : String} {content : Except Fault String}
    (shows : tree.Shows path content) : decodeFile (tree.read path) = content := by
  cases shows with
  | text leads holds => simp [decodeFile_eq_ok_iff, read, leads, holds]
  | missing leads holds | directory leads holds => simp [decodeFile, read, leads, holds]
  | barred barred => simp [decodeFile, read, barred]
  | @noText location bytes leads holds other =>
    have undecoded : String.fromUTF8? bytes = none := by
      rw [Option.eq_none_iff_forall_ne_some]
      intro text decoded
      exact other text (fromUTF8?_eq_some_iff.1 decoded)
    simp [decodeFile, read, leads, holds, undecoded]

/-- Every path shows something. -/
theorem exists_shows (tree : FileTree) (path : String) : ∃ content, tree.Shows path content := by
  cases leads : tree.locate path with
  | error fault => exact ⟨_, .barred leads⟩
  | ok location =>
    cases holds : tree.get? location with
    | none => exact ⟨_, .missing leads holds⟩
    | some entry =>
      cases entry with
      | directory => exact ⟨_, .directory leads holds⟩
      | file bytes =>
        by_cases encodes : ∃ text : String, bytes = text.toUTF8
        · obtain ⟨text, rfl⟩ := encodes
          exact ⟨_, .text leads holds⟩
        · exact ⟨_, .noText leads holds (not_exists.1 encodes)⟩

/-- **A path shows one thing, the one that is read.** -/
theorem shows_iff {tree : FileTree} {path : String} {content : Except Fault String} :
    tree.Shows path content ↔ decodeFile (tree.read path) = content := by
  constructor
  · exact Shows.decodeFile_read_eq
  · rintro rfl
    obtain ⟨content, shows⟩ := tree.exists_shows path
    rwa [shows.decodeFile_read_eq]

end FileTree

/-! ## Filters -/

/-- A path that shows an expression: a text that is the expression but for the blanks at
its ends. -/
def FileTree.ShowsExpression (tree : FileTree) (path expression : String) : Prop :=
  ∃ text, tree.Shows path (.ok text) ∧ Text.Trims text expression

section Reading

variable {tree : FileTree} {path : String}

theorem readExpression_eq_ok_iff {expression : String} :
    readExpression tree path = .ok expression ↔ tree.ShowsExpression path expression := by
  simp only [readExpression, FileTree.ShowsExpression, FileTree.shows_iff, Text.trims_iff]
  cases decodeFile (tree.read path) with
  | error fault => simp
  | ok text => simp [eq_comm]

theorem readExpression_eq_error_iff {failure : Failure} :
    readExpression tree path = .error failure ↔
      ∃ fault, tree.Shows path (.error fault) ∧ failure = .unreadable path fault := by
  simp only [readExpression, FileTree.shows_iff]
  cases decodeFile (tree.read path) with
  | error fault => simp [eq_comm]
  | ok text => simp

end Reading

namespace HeldFilter

/-- **A filter is loaded with the expression its path shows.** -/
theorem load_eq_ok_iff {tree : FileTree} {path : String} {filter : HeldFilter} :
    load tree path = .ok filter ↔
      filter.path = path ∧ tree.ShowsExpression path filter.expression := by
  rw [← readExpression_eq_ok_iff, load]
  obtain ⟨held, expression⟩ := filter
  cases readExpression tree path with
  | error failure => simp
  | ok text => simp [eq_comm]

/-- What reading a filter again comes to in a tree: an answer, and the filter that is
held from then on. -/
structure Refreshes (filter : HeldFilter) (tree : FileTree) (answer : Except Failure Bool)
    (refreshed : HeldFilter) : Prop where
  path_eq : refreshed.path = filter.path
  changed_iff : answer = .ok true ↔
    ∃ shown, tree.ShowsExpression filter.path shown ∧ shown ≠ filter.expression
  unchanged_iff : answer = .ok false ↔ tree.ShowsExpression filter.path filter.expression
  /-- After either answer the expression held is the one the path shows. -/
  current : ∀ changed, answer = .ok changed →
    tree.ShowsExpression filter.path refreshed.expression
  failed_iff : ∀ failure, answer = .error failure ↔
    ∃ fault, tree.Shows filter.path (.error fault) ∧ failure = .unreadable filter.path fault
  kept : ∀ failure, answer = .error failure → refreshed = filter

theorem refresh_of_shows {filter : HeldFilter} {tree : FileTree} {expression : String}
    (shows : tree.ShowsExpression filter.path expression) :
    filter.refresh tree = (.ok (expression != filter.expression), { filter with expression }) := by
  simp only [refresh, readExpression_eq_ok_iff.2 shows]

/-- **Reading a filter again is faithful to its file.** -/
theorem refreshes_refresh (filter : HeldFilter) (tree : FileTree) :
    filter.Refreshes tree (filter.refresh tree).1 (filter.refresh tree).2 := by
  cases reading : readExpression tree filter.path with
  | error failure =>
    have refreshed : filter.refresh tree = (.error failure, filter) := by
      simp only [refresh, reading]
    rw [refreshed]
    constructor <;>
      simp [← readExpression_eq_ok_iff, ← readExpression_eq_error_iff, reading]
  | ok expression =>
    rw [refresh_of_shows (readExpression_eq_ok_iff.1 reading)]
    constructor <;>
      simp [← readExpression_eq_ok_iff, ← readExpression_eq_error_iff, reading]

end HeldFilter

end PermitFilter
