import PermitFilter.FileTree.Path

/-!
# Reading and replacing files

A file is read whole. It is replaced whole as well: the new content goes to a
file with a fresh name in the directory of the target first, and that file is
then moved onto the target. When a step fails the fresh file is removed, so the
target never holds part of a content.

The steps are taken in this order over any files that can be read, made, written, moved
and removed. In a file tree they are the business of a workshop, which may fail at making,
writing or moving a file. What a workshop has to keep to is said by `Workshop.Lawful`.
-/

set_option autoImplicit false

namespace PermitFilter

/-! ## The steps -/

/-- Files to work on, with their operations. A fresh file is known by a handle. -/
structure Files (m : Type → Type) (Handle : Type) where
  /-- The bytes of the file at a path. -/
  read : String → m (Except Fault ByteArray)
  /-- Makes a fresh file in the directory at a path. -/
  create : String → m (Except Fault Handle)
  /-- Writes bytes to a fresh file. -/
  write : Handle → ByteArray → m (Except Fault Unit)
  /-- Moves a fresh file onto a path. -/
  move : Handle → String → m (Except Fault Unit)
  /-- Removes a fresh file. -/
  remove : Handle → m Unit

namespace Files

variable {m : Type → Type} {Handle : Type} [Monad m]

/-- Gives a fresh file its content and moves it onto a path. -/
def fillAndMove (files : Files m Handle) (fresh : Handle) (path : String) (content : ByteArray) :
    m (Except Fault Unit) := do
  match ← files.write fresh content with
  | .error fault => return .error fault
  | .ok () => files.move fresh path

/-- Gives a fresh file its content and moves it onto a path. A file that cannot be filled or
moved is removed. -/
def fillAndMoveOrRemove (files : Files m Handle) (fresh : Handle) (path : String)
    (content : ByteArray) : m (Except Fault Unit) := do
  match ← files.fillAndMove fresh path content with
  | .error fault => do
    files.remove fresh
    return .error fault
  | .ok () => return .ok ()

/-- Makes the bytes the whole content of the file at a path, by way of a fresh file in
its directory. -/
def replace (files : Files m Handle) (path : String) (content : ByteArray) :
    m (Except Fault Unit) := do
  match ← files.create (Path.parent path) with
  | .error fault => return .error fault
  | .ok fresh => files.fillAndMoveOrRemove fresh path content

end Files

namespace FileTree

/-! ## Reading -/

/-- The bytes of the file a path leads to. -/
def read (tree : FileTree) (path : String) : Except Fault ByteArray :=
  match tree.locate path with
  | .error fault => .error fault
  | .ok location =>
    match tree.get? location with
    | none => .error .notFound
    | some .directory => .error .isADirectory
    | some (.file content) => .ok content

/-! ## Fresh names -/

/-- The number of characters in all names together. -/
def totalLength (names : List String) : Nat :=
  names.foldr (fun name total => name.length + total) 0

/-- A name longer than every name in use, and so not in use. -/
def freshName (used : List String) : String :=
  ".new" ++ String.ofList (List.replicate (totalLength used) '~')

theorem length_le_totalLength {name : String} {names : List String} (member : name ∈ names) :
    name.length ≤ totalLength names := by
  induction names with
  | nil => simp at member
  | cons first others ih =>
    simp only [totalLength, List.foldr_cons] at ih ⊢
    rcases List.mem_cons.1 member with rfl | member
    · omega
    · exact Nat.le_trans (ih member) (Nat.le_add_left _ _)

/-- The fresh name is not in use. -/
theorem freshName_not_mem (used : List String) : freshName used ∉ used := by
  intro member
  have short := length_le_totalLength member
  simp only [freshName, String.length_append, String.length_ofList, List.length_replicate]
    at short
  have dot : ".new".length = 4 := by decide
  omega

/-! ## Workshops -/

/-- Moves the file at a location onto another location. -/
def moveFile (tree : FileTree) (source target : Location) (content : ByteArray) : FileTree :=
  (tree.erase source).fill target (.file content)

/-- The handling of fresh files: what each step comes to, and the tree it leaves. -/
structure Workshop where
  /-- The path that is told with the fault of a directory in which no fresh file can be
  made, given the path of that directory. -/
  freshPath : FileTree → String → String
  /-- Makes a fresh file in a directory. -/
  create : FileTree → Location → Except Fault Location × FileTree
  /-- Writes bytes to a fresh file. -/
  write : FileTree → Location → ByteArray → Except Fault Unit × FileTree
  /-- Moves a fresh file onto a location. -/
  move : FileTree → Location → Location → Except Fault Unit × FileTree
  /-- Removes a fresh file. -/
  remove : FileTree → Location → FileTree

/-- What the steps of a workshop may do to a tree. -/
structure Workshop.Lawful (workshop : Workshop) : Prop where
  /-- A file that cannot be made changes nothing. -/
  create_error : ∀ {tree left : FileTree} {directory : Location} {fault : Fault},
    workshop.create tree directory = (.error fault, left) → left = tree
  /-- A file is made empty, in its directory and where nothing was. -/
  create_ok : ∀ {tree left : FileTree} {directory fresh : Location},
    workshop.create tree directory = (.ok fresh, left) →
      fresh.dropLast = directory ∧ tree.get? fresh = none ∧
        left = tree.fill fresh (.file ByteArray.empty)
  /-- Writing may break off, but touches no other file. -/
  write_error : ∀ {tree left : FileTree} {fresh : Location} {content : ByteArray} {fault : Fault},
    workshop.write tree fresh content = (.error fault, left) →
      ∃ part, left = tree.fill fresh (.file part)
  write_ok : ∀ {tree left : FileTree} {fresh : Location} {content : ByteArray},
    workshop.write tree fresh content = (.ok (), left) → left = tree.fill fresh (.file content)
  /-- A file that cannot be moved stays, and so does what it was to be moved onto. -/
  move_error : ∀ {tree left : FileTree} {fresh target : Location} {fault : Fault},
    workshop.move tree fresh target = (.error fault, left) → left = tree
  move_ok : ∀ {tree left : FileTree} {fresh target : Location} {content : ByteArray},
    workshop.move tree fresh target = (.ok (), left) → tree.get? fresh = some (.file content) →
      left = tree.moveFile fresh target content
  remove_eq : ∀ (tree : FileTree) (fresh : Location),
    workshop.remove tree fresh = tree.erase fresh

/-- Files in a tree that are made, written, moved and removed by a workshop. Where a path
leads is seen in the tree. -/
def Workshop.files (workshop : Workshop) : Files (StateM FileTree) Location where
  read path := modifyGet fun tree => (tree.read path, tree)
  create path := modifyGet fun tree =>
    match tree.enterForNewFile path with
    | .error fault => (.error (.atPath (workshop.freshPath tree path) fault), tree)
    | .ok directory => workshop.create tree directory
  write fresh content := modifyGet fun tree => workshop.write tree fresh content
  move fresh path := modifyGet fun tree =>
    match tree.moveTarget path with
    | .error fault => (.error fault, tree)
    | .ok target => workshop.move tree fresh target
  remove fresh := modifyGet fun tree => ((), workshop.remove tree fresh)

/-- Makes the bytes the whole content of the file at a path, by way of a fresh file
from a workshop. -/
def replaceBy (workshop : Workshop) (tree : FileTree) (path : String) (content : ByteArray) :
    Except Fault Unit × FileTree :=
  (workshop.files.replace path content).run tree

/-- The workshop in which no step fails. Its fresh names are longer than all names
in the directory. -/
def Workshop.reliable : Workshop where
  freshPath tree path := path ++ "/" ++ freshName (tree.namesIn (tree.spelled path))
  create tree directory :=
    let fresh := directory ++ [freshName (tree.namesIn directory)]
    (.ok fresh, tree.fill fresh (.file ByteArray.empty))
  write tree fresh content := (.ok (), tree.fill fresh (.file content))
  move tree fresh target :=
    match tree.get? fresh with
    | some (.file content) => (.ok (), tree.moveFile fresh target content)
    | _ => (.error .notFound, tree)
  remove tree fresh := tree.erase fresh

end FileTree

end PermitFilter
