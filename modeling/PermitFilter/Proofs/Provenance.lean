import Mathlib.Logic.Function.Basic
import PermitFilter.Proofs.FileText
import PermitFilter.Workspace

/-!
# Where held filters come from

The provenance of a held filter is the path it was loaded with, and the files as they
were when it was last read with success. Loading gives a filter a provenance, and a
refresh that succeeds brings its files up to date. A copy begins with the provenance of
its source, and from then on has one of its own.

Whatever steps are taken in a workspace, every filter held is the expression that its
provenance shows (`Tracks.runBy`). With it stands what a load and a refresh answer in a
workspace that was reached so: they go by the files of that moment, and they touch
neither the files nor the other filters (`runBy_held_filters_faithful`).
-/

set_option autoImplicit false

namespace PermitFilter

/-- Where a held filter comes from. -/
structure Provenance where
  /-- The path it was loaded with. -/
  path : String
  /-- The files when it was last read with success. -/
  tree : FileTree

/-- A filter that is held as its provenance shows it. -/
structure HeldFilter.ComesFrom (filter : HeldFilter) (provenance : Provenance) : Prop where
  path_eq : filter.path = provenance.path
  shows : provenance.tree.ShowsExpression provenance.path filter.expression

/-- The provenances of the filters held under names. -/
abbrev Provenances := String → Option Provenance

/-- The provenances after a step, by what was answered to it. -/
def Provenances.after (known : Provenances) (tree : FileTree) :
    Workspace.Step → Workspace.Answer → Provenances
  | .load path name, .loaded (.ok _) => Function.update known name (some { path, tree })
  | .copy source name, .loaded (.ok _) => Function.update known name (known source)
  | .refresh name, .refreshed (.ok _) _ =>
    Function.update known name ((known name).map fun provenance => { provenance with tree })
  | _, _ => known

namespace Workspace

/-- The provenances after steps that are taken in order. -/
def provenancesBy (workshop : FileTree.Workshop) : Workspace → Provenances → List Step → Provenances
  | _, known, [] => known
  | workspace, known, step :: steps =>
    let (answer, next) := workspace.stepBy workshop step
    next.provenancesBy workshop (known.after workspace.tree step answer) steps

/-- The name whose filter a step loads, copies to or refreshes. -/
def Step.target? : Step → Option String
  | .load _ name | .copy _ name | .refresh name => some name
  | .putFile _ _ | .makeDirectory _ | .remove _ | .list | .readLines _ | .writeRules _ _
  | .compile _ _ _ => none

/-! ## Filters under names -/

section Hold

variable {workspace : Workspace} {name other : String} {filter : HeldFilter}

theorem filter?_hold_self : (workspace.hold name filter).filter? name = some filter :=
  List.lookup_cons_self

theorem lookup_filter_of_ne {filters : List (String × HeldFilter)} (apart : other ≠ name) :
    (filters.filter fun held => held.1 != name).lookup other = filters.lookup other := by
  induction filters with
  | nil => rfl
  | cons held filters ih =>
    obtain ⟨key, filter⟩ := held
    have drops : (other == name) = false := by simpa using apart
    by_cases same : key = name
    · simp [same, drops, List.lookup_cons, ih]
    · simp [same, List.lookup_cons, ih]

theorem filter?_hold_of_ne (apart : other ≠ name) :
    (workspace.hold name filter).filter? other = workspace.filter? other := by
  have first : (other == name) = false := by simpa using apart
  rw [filter?, hold, List.lookup_cons, first, lookup_filter_of_ne apart]
  rfl

end Hold

/-! ## One step -/

section Step

variable {workshop : FileTree.Workshop} {workspace : Workspace} {step : Step} {name : String}

/-- A step about no filter leaves the filters. -/
theorem filters_stepBy (none : step.target? = none) :
    (workspace.stepBy workshop step).2.filters = workspace.filters := by
  cases step with
  | load | copy | refresh => simp [Step.target?] at none
  | putFile | makeDirectory | remove | list | readLines | compile => rfl
  | writeRules path rules =>
    rw [stepBy]
    split <;> rfl

/-- A step about a filter leaves the workspace, or holds a filter under its name. -/
theorem stepBy_eq_self_or_hold (workshop : FileTree.Workshop) (workspace : Workspace)
    (about : step.target? = some name) :
    (workspace.stepBy workshop step).2 = workspace ∨
      ∃ filter, (workspace.stepBy workshop step).2 = workspace.hold name filter := by
  cases step with
  | putFile | makeDirectory | remove | list | readLines | compile | writeRules =>
    simp [Step.target?] at about
  | load _ target | copy _ target | refresh target =>
    obtain rfl : target = name := Option.some.inj about
    rw [stepBy]
    split
    · exact .inl rfl
    · exact .inr ⟨_, rfl⟩

/-- A step changes no filter but the one it is about. -/
theorem filter?_stepBy_of_target?_ne (apart : step.target? ≠ some name) :
    (workspace.stepBy workshop step).2.filter? name = workspace.filter? name := by
  cases about : step.target? with
  | none => rw [filter?, filters_stepBy about, filter?]
  | some target =>
    have other : name ≠ target := by
      rintro rfl
      exact apart about
    obtain same | ⟨filter, held⟩ := stepBy_eq_self_or_hold workshop workspace about
    · rw [same]
    · rw [held, filter?_hold_of_ne other]

/-- A load succeeds exactly if the path shows an expression. -/
theorem stepBy_load_eq_ok_iff {path : String} {filter : HeldFilter} :
    (workspace.stepBy workshop (.load path name)).1 = .loaded (.ok filter) ↔
      filter.path = path ∧ workspace.tree.ShowsExpression path filter.expression := by
  rw [← HeldFilter.load_eq_ok_iff]
  cases loaded : HeldFilter.load workspace.tree path <;> simp [stepBy, loaded]

/-- A step about a filter leaves the files. -/
theorem tree_stepBy_of_target? (about : step.target? = some name) :
    (workspace.stepBy workshop step).2.tree = workspace.tree := by
  obtain same | ⟨filter, held⟩ := stepBy_eq_self_or_hold workshop workspace about
  · rw [same]
  · rw [held]
    rfl

end Step

/-! ## Provenances -/

/-- Provenances of all the filters held, and of no others. -/
def Tracks (workspace : Workspace) (known : Provenances) : Prop :=
  ∀ name, Option.Rel HeldFilter.ComesFrom (workspace.filter? name) (known name)

section Tracks

variable {workspace : Workspace} {known : Provenances}

theorem tracks_ofTree (tree : FileTree) : (ofTree tree).Tracks fun _ => none :=
  fun _ => .none

/-- Holding a filter with a provenance tracks it under its name. -/
theorem Tracks.hold {name : String} {filter : HeldFilter} {provenance : Provenance}
    (tracks : workspace.Tracks known) (comes : filter.ComesFrom provenance) :
    (workspace.hold name filter).Tracks (Function.update known name (some provenance)) := by
  intro other
  by_cases same : other = name
  · subst same
    rw [filter?_hold_self, Function.update_self]
    exact .some comes
  · rw [filter?_hold_of_ne same, Function.update_of_ne same]
    exact tracks other

theorem Tracks.exists_provenance {name : String} {filter : HeldFilter}
    (tracks : workspace.Tracks known) (held : workspace.filter? name = some filter) :
    ∃ provenance, known name = some provenance ∧ filter.ComesFrom provenance := by
  have related := tracks name
  rw [held] at related
  generalize known name = found at related
  cases related with
  | @some _ provenance comes => exact ⟨provenance, rfl, comes⟩

/-- **One step keeps the provenances right.** -/
theorem Tracks.stepBy (tracks : workspace.Tracks known) (workshop : FileTree.Workshop)
    (step : Step) :
    (workspace.stepBy workshop step).2.Tracks
      (known.after workspace.tree step (workspace.stepBy workshop step).1) := by
  cases step with
  | putFile | makeDirectory | remove | list | readLines | compile | writeRules =>
    intro name
    rw [filter?, filters_stepBy rfl]
    exact tracks name
  | load path name =>
    cases loaded : HeldFilter.load workspace.tree path with
    | error failure =>
      simp only [Workspace.stepBy, loaded]
      exact tracks
    | ok filter =>
      obtain ⟨same, shows⟩ := HeldFilter.load_eq_ok_iff.1 loaded
      simp only [Workspace.stepBy, loaded]
      exact tracks.hold ⟨same, shows⟩
  | copy source name =>
    cases held : workspace.filter? source with
    | none =>
      simp only [Workspace.stepBy, held]
      exact tracks
    | some filter =>
      obtain ⟨provenance, found, comes⟩ := tracks.exists_provenance held
      simp only [Workspace.stepBy, held, Provenances.after, found]
      exact tracks.hold comes
  | refresh name =>
    cases held : workspace.filter? name with
    | none =>
      simp only [Workspace.stepBy, held]
      exact tracks
    | some filter =>
      obtain ⟨provenance, found, comes⟩ := tracks.exists_provenance held
      have refreshes := filter.refreshes_refresh workspace.tree
      rcases refreshed : filter.refresh workspace.tree with ⟨failure | changed, filter'⟩
      · rw [refreshed] at refreshes
        obtain rfl : filter' = filter := refreshes.kept failure rfl
        simp only [Workspace.stepBy, held, refreshed, Provenances.after]
        have again : (workspace.hold name filter').Tracks
            (Function.update known name (some provenance)) := tracks.hold comes
        rw [← found, Function.update_eq_self] at again
        exact again
      · rw [refreshed] at refreshes
        have path : filter'.path = provenance.path := refreshes.path_eq.trans comes.path_eq
        have shows : workspace.tree.ShowsExpression provenance.path filter'.expression := by
          rw [← comes.path_eq]
          exact refreshes.current changed rfl
        simp only [Workspace.stepBy, held, refreshed, Provenances.after, found]
        exact tracks.hold ⟨path, shows⟩

/-- **A run keeps the provenances right.** -/
theorem Tracks.runBy (tracks : workspace.Tracks known) (workshop : FileTree.Workshop)
    (steps : List Step) :
    (workspace.runBy workshop steps).2.Tracks (workspace.provenancesBy workshop known steps) := by
  induction steps generalizing workspace known with
  | nil => exact tracks
  | cons step later ih => exact ih (tracks.stepBy workshop step)

end Tracks

/-- **Held filters are faithful to their files over whole runs.** After any steps every
filter held is what its provenance shows. A load succeeds exactly if the path shows an
expression then, a copy of a held filter succeeds and is held under its own name, and a
refresh answers by the files as they are then. A step about one filter leaves the others
and the files. -/
theorem runBy_held_filters_faithful (workshop : FileTree.Workshop) (tree : FileTree)
    (steps : List Step) :
    let workspace := ((ofTree tree).runBy workshop steps).2
    workspace.Tracks ((ofTree tree).provenancesBy workshop (fun _ => none) steps) ∧
    (∀ path name filter,
      (workspace.stepBy workshop (.load path name)).1 = .loaded (.ok filter) ↔
        filter.path = path ∧ workspace.tree.ShowsExpression path filter.expression) ∧
    (∀ source name filter, workspace.filter? source = some filter →
      workspace.stepBy workshop (.copy source name) =
        (.loaded (.ok filter), workspace.hold name filter) ∧
      (workspace.hold name filter).filter? name = some filter) ∧
    (∀ name filter, workspace.filter? name = some filter →
      ∃ answer refreshed, filter.Refreshes workspace.tree answer refreshed ∧
        workspace.stepBy workshop (.refresh name) =
          (.refreshed answer refreshed, workspace.hold name refreshed) ∧
        (workspace.hold name refreshed).filter? name = some refreshed) ∧
    (∀ step name, step.target? ≠ some name →
      (workspace.stepBy workshop step).2.filter? name = workspace.filter? name) ∧
    ∀ step name, step.target? = some name →
      (workspace.stepBy workshop step).2.tree = workspace.tree := by
  intro workspace
  refine ⟨(tracks_ofTree tree).runBy workshop steps, ?_, ?_, ?_, ?_, ?_⟩
  · exact fun path name filter => stepBy_load_eq_ok_iff
  · intro source name filter held
    refine ⟨?_, filter?_hold_self⟩
    simp only [stepBy, held]
  · intro name filter held
    refine ⟨_, _, filter.refreshes_refresh workspace.tree, ?_, filter?_hold_self⟩
    simp only [stepBy, held]
  · exact fun step name => filter?_stepBy_of_target?_ne
  · exact fun step name => tree_stepBy_of_target?

/-- A copy goes its own way: when it is refreshed its source stays as it was. -/
example :
    let steps : List Step :=
      [.putFile "f" " a\n".toUTF8, .load "f" "x", .copy "x" "y", .putFile "f" "b".toUTF8,
        .refresh "y"]
    let workspace := (empty.runBy .reliable steps).2
    workspace.filter? "x" = some { path := "f", expression := "a" } ∧
      workspace.filter? "y" = some { path := "f", expression := "b" } := by
  decide

end Workspace

end PermitFilter
