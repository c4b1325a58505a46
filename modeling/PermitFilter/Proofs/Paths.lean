import Mathlib.Data.List.DropRight
import PermitFilter.FileTree.Access

/-!
# Where paths lead after a file is filled

Following a path only asks which locations are directories. So a path that leads
somewhere still leads there when files have been filled or emptied, as long as the
directories and the start are the same (`locate_eq_ok_of_directories`).

The location that a file can be moved to under a path is the location the path
leads to, and there is room for it (`locate_of_moveTarget`).
-/

set_option autoImplicit false

namespace PermitFilter.FileTree

/-! ## The same directories -/

/-- Filling a location that is no directory with a file leaves the directories. -/
theorem get?_fill_file_eq_directory_iff {tree : FileTree} {location : Location}
    (other : tree.get? location ≠ some .directory) (content : ByteArray) (place : Location) :
    (tree.fill location (.file content)).get? place = some .directory ↔
      tree.get? place = some .directory := by
  by_cases room : tree.HasRoom location
  · by_cases same : place = location
    · subst same
      simp [get?_fill_self room, other]
    · rw [get?_fill_of_ne same]
  · rw [fill_of_not_hasRoom room]

/-- A step enters exactly the directory it leads to. -/
theorem enter_eq_ok_iff {tree : FileTree} {directory target : Location} {step : String} :
    tree.enter directory step = .ok target ↔
      Path.isNameTooLong step = false ∧ target = Path.stepFrom directory step ∧
        tree.get? target = some .directory := by
  constructor
  · intro entered
    rw [enter] at entered
    split at entered
    · simp at entered
    · rename_i short
      split at entered
      · simp at entered
      · simp at entered
      · rename_i found
        obtain rfl := Except.ok.inj entered
        exact ⟨eq_false_of_ne_true short, rfl, found⟩
  · rintro ⟨short, rfl, found⟩
    simp [enter, short, found]

theorem enterAll_eq_ok_of_directories {tree tree' : FileTree}
    (directories : ∀ place, tree.get? place = some .directory → tree'.get? place = some .directory)
    {steps : List String} {start target : Location}
    (entered : tree.enterAll start steps = .ok target) :
    tree'.enterAll start steps = .ok target := by
  induction steps generalizing start with
  | nil => exact entered
  | cons step later ih =>
    rw [enterAll] at entered ⊢
    cases first : tree.enter start step with
    | error fault => simp [first] at entered
    | ok next =>
      obtain ⟨short, leads, found⟩ := enter_eq_ok_iff.1 first
      rw [enter_eq_ok_iff.2 ⟨short, leads, directories next found⟩]
      rw [first] at entered
      exact ih entered

/-- Steps into directories end in a directory. -/
theorem get?_of_enterAll {tree : FileTree} {steps : List String} {start target : Location}
    (begins : tree.get? start = some .directory)
    (entered : tree.enterAll start steps = .ok target) :
    tree.get? target = some .directory := by
  induction steps generalizing start with
  | nil => rwa [← Except.ok.inj entered]
  | cons step later ih =>
    rw [enterAll] at entered
    cases first : tree.enter start step with
    | error fault => simp [first] at entered
    | ok next =>
      rw [first] at entered
      exact ih (enter_eq_ok_iff.1 first).2.2 entered

/-- A path begins in a directory. -/
theorem get?_origin (tree : FileTree) (path : String) :
    tree.get? (tree.origin path) = some .directory := by
  unfold origin
  split
  · exact tree.get?_root
  · exact tree.started

/-- A new file is made in a directory. -/
theorem get?_of_enterForNewFile {tree : FileTree} {path : String} {directory : Location}
    (entered : tree.enterForNewFile path = .ok directory) :
    tree.get? directory = some .directory := by
  unfold enterForNewFile at entered
  split at entered
  · simp at entered
  split at entered
  · simp at entered
  · exact get?_of_enterAll (tree.get?_origin path) entered

/-- A path that can be followed enters directories with all steps but the last. -/
theorem locate_eq_ok_iff {tree : FileTree} {path : String} {target : Location} :
    tree.locate path = .ok target ↔
      (Path.isExpressible path = true ∧ path ≠ "" ∧ Path.isTooLong path = false) ∧
        ∃ directory,
          tree.enterAll (tree.origin path) (Path.steps path).dropLast = .ok directory ∧
          Path.isNameTooLong ((Path.steps path).getLastD "") = false ∧
          target = Path.stepFrom directory ((Path.steps path).getLastD "") := by
  constructor
  · intro found
    unfold locate at found
    split at found
    · simp at found
    split at found
    · simp at found
    split at found
    · simp at found
    rename_i expressible filled short
    cases entered : tree.enterAll (tree.origin path) (Path.steps path).dropLast with
    | error fault => simp [entered] at found
    | ok directory =>
      simp only [entered] at found
      split at found
      · simp at found
      · rename_i named
        exact ⟨⟨by simpa using expressible, filled, by simpa using short⟩, directory, rfl,
          by simpa using named, (Except.ok.inj found).symm⟩
  · rintro ⟨⟨expressible, filled, short⟩, directory, entered, named, rfl⟩
    simp only [locate, expressible, Bool.not_true, Bool.false_eq_true, if_false, filled, short,
      entered, named]

/-- A path leads to the same place in a tree with the same start and all the directories. -/
theorem locate_eq_ok_of_directories {tree tree' : FileTree} (starts : tree'.start = tree.start)
    (directories : ∀ place, tree.get? place = some .directory → tree'.get? place = some .directory)
    {path : String} {target : Location} (found : tree.locate path = .ok target) :
    tree'.locate path = .ok target := by
  obtain ⟨usable, directory, entered, named⟩ := locate_eq_ok_iff.1 found
  have origins : tree'.origin path = tree.origin path := by rw [origin, origin, starts]
  rw [← origins] at entered
  exact locate_eq_ok_iff.2
    ⟨usable, directory, enterAll_eq_ok_of_directories directories entered, named⟩

/-! ## Targets of a move -/

/-- A step that names something leads to that name. -/
theorem stepFrom_of_named (directory : Location) {step : String}
    (named : (Path.isIdle step || Path.isUpward step) = false) :
    Path.stepFrom directory step = directory ++ [step] := by
  obtain ⟨busy, upward⟩ := Bool.or_eq_false_iff.1 named
  simp [Path.stepFrom, busy, upward]

/-- Without a slash at its end a path keeps all its steps. -/
theorem dropWhile_reverse_eq_self {steps : List String} (last : steps.getLastD "" ≠ "") :
    (steps.reverse.dropWhile (· == "")).reverse = steps := by
  rw [← List.rdropWhile, List.rdropWhile_eq_self_iff]
  intro filled
  rw [List.getLastD_eq_getLast?, List.getLast?_eq_some_getLast filled] at last
  simpa using last

/-- The location a file can be moved to under a path is the one the path leads to,
and there is room for the file. -/
theorem locate_of_moveTarget {tree : FileTree} {path : String} {target : Location}
    (movable : tree.moveTarget path = .ok target) :
    tree.locate path = .ok target ∧ tree.HasRoom target := by
  unfold moveTarget at movable
  split at movable
  · simp at movable
  split at movable
  · simp at movable
  split at movable
  · simp at movable
  rename_i expressible filled short
  cases entered : tree.enterAll (tree.origin path)
      (((Path.steps path).reverse.dropWhile (· == "")).reverse).dropLast with
  | error fault => simp only [entered, reduceCtorEq] at movable
  | ok directory =>
    simp only [entered] at movable
    split at movable
    · simp at movable
    split at movable
    · simp at movable
    split at movable
    · simp at movable
    rename_i named fits last
    rw [beq_iff_eq] at last
    rw [dropWhile_reverse_eq_self last] at entered named fits movable
    have leads := stepFrom_of_named directory (eq_false_of_ne_true named)
    split at movable
    · simp at movable
    · rename_i other
      obtain rfl := Except.ok.inj movable
      have inside := get?_of_enterAll (tree.get?_origin path) entered
      refine ⟨locate_eq_ok_iff.2 ⟨⟨by simpa using expressible, filled, by simpa using short⟩,
        directory, entered, eq_false_of_ne_true fits, leads.symm⟩, ?_, other⟩
      rwa [List.dropLast_concat]

end PermitFilter.FileTree
