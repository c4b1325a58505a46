import PermitFilter.FileTree
import PermitFilter.Text.Quoted

/-!
# Paths

A path is a text cut at its slashes. It is followed from the root of a tree if it begins
with a slash, and else from the start of the tree, one step after another: an empty step
and a single dot stay in the directory, two dots go up, and a name goes down. Above the
root there is nothing but the root. A name is too long beyond 255 bytes, and a path beyond
4095.

Every step but the last passes through a directory. Where the last step leads is
a location, whether or not anything is there.
-/

set_option autoImplicit false

namespace PermitFilter

/-! ## Faults -/

/-- Why a file operation cannot be done. -/
inductive Fault where
  /-- There is nothing where the path leads, or on the way there. -/
  | notFound
  /-- The path passes through something that is no directory. -/
  | notADirectory
  /-- The path leads to a directory where a file is wanted. -/
  | isADirectory
  /-- The path holds a character that no name can hold. -/
  | invalidPath
  /-- The path, or a name in it, is too long. -/
  | tooLong
  /-- The file does not hold text. -/
  | invalidText
  /-- The path leads to a directory by a step that names nothing. -/
  | busy
  /-- The file system has a reason of its own. -/
  | refused (reason : String)
  /-- A fault at a file of which the path is told along with it. -/
  | atPath (path : String) (fault : Fault)
  deriving DecidableEq, Repr

/-- The wording of a fault. -/
def Fault.message : Fault → String
  | .notFound => "No such file or directory (os error 2)"
  | .notADirectory => "Not a directory (os error 20)"
  | .isADirectory => "Is a directory (os error 21)"
  | .invalidPath => "file name contained an unexpected NUL byte"
  | .tooLong => "File name too long (os error 36)"
  | .invalidText => "stream did not contain valid UTF-8"
  | .busy => "Device or resource busy (os error 16)"
  | .refused reason => reason
  | .atPath path fault => fault.message ++ " at path " ++ Text.quoted path

namespace Path

/-! ## Steps -/

/-- The steps of a path, empty ones included. -/
def steps (path : String) : List String :=
  (path.toList.splitOn '/').map String.ofList

/-- Whether a path begins at the root. -/
def isAbsolute (path : String) : Bool :=
  path.toList.head? = some '/'

/-- Whether a path can be handed to a file system at all. -/
def isExpressible (path : String) : Bool :=
  !path.toList.contains '\x00'

/-- How many bytes a path may have. -/
def lengthLimit : Nat := 4095

/-- How many bytes a name may have. -/
def nameLengthLimit : Nat := 255

/-- How many bytes a new file adds to the path of its directory. -/
def roomForNewFile : Nat := 11

/-- Whether a path is longer than any that can be followed. -/
def isTooLong (path : String) : Bool :=
  lengthLimit < path.utf8ByteSize

/-- Whether there is no path to a new file in the directory at a path. -/
def isTooLongForNewFile (path : String) : Bool :=
  lengthLimit < path.utf8ByteSize + roomForNewFile

/-- Whether a name is longer than any that can be in use. -/
def isNameTooLong (name : String) : Bool :=
  nameLengthLimit < name.utf8ByteSize

/-- Whether a step stays in its directory. -/
def isIdle (step : String) : Bool :=
  step == "" || step == "."

/-- Whether a step goes up. -/
def isUpward (step : String) : Bool :=
  step == ".."

/-- The location one step away, with no regard to what is there. The root lies above
itself. -/
def stepFrom (location : Location) (step : String) : Location :=
  if isIdle step then location
  else if isUpward step then location.dropLast
  else location ++ [step]

/-! ## The path of the directory -/

/-- Steps without those at the end that stay in place. -/
def withoutIdleEnd (steps : List String) : List String :=
  (steps.reverse.dropWhile isIdle).reverse

/-- The path of the directory that holds the target of a path: all in front of the last
step, where steps that stay in place do not count. If nothing is left of it that is the
root or the directory in which the path begins; and a path of no other steps is held
by the start. -/
def parent (path : String) : String :=
  match withoutIdleEnd (steps path) with
  | [] => "."
  | first :: later =>
    match withoutIdleEnd (first :: later).dropLast with
    | [] => if isAbsolute path then "/" else "."
    | above => "/".intercalate above

end Path

namespace FileTree

/-! ## Following a path -/

/-- The directory in which a path begins. -/
def origin (tree : FileTree) (path : String) : Location :=
  if Path.isAbsolute path then [] else tree.start

/-- The location a path spells, with no regard to what is on the way. -/
def spelled (tree : FileTree) (path : String) : Location :=
  (Path.steps path).foldl Path.stepFrom (tree.origin path)

/-- Takes one step into a directory. -/
def enter (tree : FileTree) (directory : Location) (step : String) : Except Fault Location :=
  let target := Path.stepFrom directory step
  if Path.isNameTooLong step then .error .tooLong
  else
    match tree.get? target with
    | none => .error .notFound
    | some (.file _) => .error .notADirectory
    | some .directory => .ok target

/-- Takes steps into directories, from a directory on. -/
def enterAll (tree : FileTree) : Location → List String → Except Fault Location
  | directory, [] => .ok directory
  | directory, step :: later =>
    match tree.enter directory step with
    | .error fault => .error fault
    | .ok next => tree.enterAll next later

/-- The location a path leads to: every step but the last enters a directory. -/
def locate (tree : FileTree) (path : String) : Except Fault Location :=
  if !Path.isExpressible path then .error .invalidPath
  else if path = "" then .error .notFound
  else if Path.isTooLong path then .error .tooLong
  else
    let steps := Path.steps path
    let last := steps.getLastD ""
    match tree.enterAll (tree.origin path) steps.dropLast with
    | .error fault => .error fault
    | .ok directory =>
      if Path.isNameTooLong last then .error .tooLong
      else .ok (Path.stepFrom directory last)

/-- The directory at a path, if a new file can be made in it. -/
def enterForNewFile (tree : FileTree) (path : String) : Except Fault Location :=
  if !Path.isExpressible path then .error .invalidPath
  else if Path.isTooLongForNewFile path then .error .tooLong
  else tree.enterAll (tree.origin path) (Path.steps path)

/-- The location a file can be moved to under a path: nothing or a file may be
there, and the last step has to name it. -/
def moveTarget (tree : FileTree) (path : String) : Except Fault Location :=
  if !Path.isExpressible path then .error .invalidPath
  else if path = "" then .error .notFound
  else if Path.isTooLong path then .error .tooLong
  else
    let steps := Path.steps path
    let bare := (steps.reverse.dropWhile (· == "")).reverse
    let last := bare.getLastD ""
    match tree.enterAll (tree.origin path) bare.dropLast with
    | .error fault => .error fault
    | .ok directory =>
      if Path.isIdle last || Path.isUpward last then .error .busy
      else if Path.isNameTooLong last then .error .tooLong
      else if steps.getLastD "" == "" then .error .notADirectory
      else
        match tree.get? (directory ++ [last]) with
        | some .directory => .error .isADirectory
        | _ => .ok (directory ++ [last])

end FileTree

end PermitFilter
