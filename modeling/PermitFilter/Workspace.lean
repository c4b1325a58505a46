import PermitFilter.RuleFile

/-!
# Workspaces

A held filter is the expression an expression file had when it was last read,
without the blanks at its ends, together with the path of that file. Reading the
file again brings the filter up to date and says whether it changed. A filter
whose file cannot be read stays as it is.

A workspace is a file tree and the filters held under names. Steps put and
remove files, read and write rule files and expression files, and load, copy and
refresh filters. A step that fails leaves the filters as they are.
-/

set_option autoImplicit false

namespace PermitFilter

/-! ## Held filters -/

/-- An expression and the path of the file it was read from. -/
structure HeldFilter where
  path : String
  expression : String
  deriving DecidableEq, Repr

/-- The expression in the file at a path. -/
def readExpression (tree : FileTree) (path : String) : Except Failure String :=
  match decodeFile (tree.read path) with
  | .error fault => .error (.unreadable path fault)
  | .ok text => .ok (Text.trim text)

namespace HeldFilter

/-- Reads a filter from a path. -/
def load (tree : FileTree) (path : String) : Except Failure HeldFilter :=
  match readExpression tree path with
  | .error failure => .error failure
  | .ok expression => .ok { path, expression }

/-- Reads the filter's file again. The answer says whether the expression
changed. -/
def refresh (filter : HeldFilter) (tree : FileTree) : Except Failure Bool × HeldFilter :=
  match readExpression tree filter.path with
  | .error failure => (.error failure, filter)
  | .ok expression => (.ok (expression != filter.expression), { filter with expression })

end HeldFilter

/-! ## Steps in a workspace -/

/-- A file tree and the filters held under names. -/
structure Workspace where
  tree : FileTree
  filters : List (String × HeldFilter)

namespace Workspace

/-- The workspace with the files of a tree and no filter. -/
def ofTree (tree : FileTree) : Workspace where
  tree := tree
  filters := []

/-- The workspace with no file and no filter. -/
def empty : Workspace :=
  ofTree .empty

/-- The filter held under a name. -/
def filter? (workspace : Workspace) (name : String) : Option HeldFilter :=
  workspace.filters.lookup name

/-- Holds a filter under a name, in place of the one held there before. -/
def hold (workspace : Workspace) (name : String) (filter : HeldFilter) : Workspace where
  tree := workspace.tree
  filters := (name, filter) :: workspace.filters.filter fun held => held.1 != name

/-- One thing to do in a workspace. -/
inductive Step where
  | putFile (path : String) (content : ByteArray)
  | makeDirectory (path : String)
  | remove (path : String)
  | list
  | readLines (path : String)
  | writeRules (path : String) (rules : List Rule)
  | compile (policy : Policy) (input output : String)
  | load (path name : String)
  | copy (source name : String)
  | refresh (name : String)

/-- What a step answers. -/
inductive Answer where
  | done
  | entries (entries : List (Location × Entry))
  | lines (result : Except Failure (List String))
  /-- There are no rules to write. -/
  | nothingToWrite
  | written (result : Except Failure Unit)
  | compiled (result : Except Failure Compiled)
  | loaded (result : Except Failure HeldFilter)
  | refreshed (result : Except Failure Bool) (filter : HeldFilter)
  /-- No filter is held under the name. -/
  | noSuchFilter

/-- Takes one step, by way of a workshop for fresh files. -/
def stepBy (workshop : FileTree.Workshop) (workspace : Workspace) : Step → Answer × Workspace
  | .putFile path content =>
    (.done, { workspace with tree := workspace.tree.putFile (workspace.tree.spelled path) content })
  | .makeDirectory path =>
    (.done, { workspace with tree := workspace.tree.putDirectory (workspace.tree.spelled path) })
  | .remove path =>
    (.done, { workspace with tree := workspace.tree.eraseBelow (workspace.tree.spelled path) })
  | .list => (.entries workspace.tree.below, workspace)
  | .readLines path => (.lines (RuleFile.lines workspace.tree path), workspace)
  | .writeRules path rules =>
    match Expression.ofRules? rules with
    | none => (.nothingToWrite, workspace)
    | some expression =>
      let (result, tree) := expression.writeBy workshop workspace.tree path
      (.written result, { workspace with tree })
  | .compile policy input output =>
    let (attempt, tree) := RuleFile.compileBy workshop policy workspace.tree input output
    (.compiled attempt.result, { workspace with tree })
  | .load path name =>
    match HeldFilter.load workspace.tree path with
    | .error failure => (.loaded (.error failure), workspace)
    | .ok filter => (.loaded (.ok filter), workspace.hold name filter)
  | .copy source name =>
    match workspace.filter? source with
    | none => (.noSuchFilter, workspace)
    | some filter => (.loaded (.ok filter), workspace.hold name filter)
  | .refresh name =>
    match workspace.filter? name with
    | none => (.noSuchFilter, workspace)
    | some filter =>
      let (result, filter) := filter.refresh workspace.tree
      (.refreshed result filter, workspace.hold name filter)

/-- Takes steps in order, by way of a workshop for fresh files: the answer of each,
and the workspace that is left. -/
def runBy (workshop : FileTree.Workshop) : Workspace → List Step → List Answer × Workspace
  | workspace, [] => ([], workspace)
  | workspace, step :: steps =>
    let (answer, next) := workspace.stepBy workshop step
    let (answers, left) := next.runBy workshop steps
    (answer :: answers, left)

/-- Takes steps in order, with the answer of each. -/
def run (workspace : Workspace) (steps : List Step) : List Answer :=
  (workspace.runBy .reliable steps).1

end Workspace

end PermitFilter
