import PermitFilter.Compilation
import PermitFilter.FileTree.Access

/-!
# Rule files and expression files

A rule file is read as its lines. An expression file holds the text of one
expression and nothing else. Compiling a file reads the one and writes the other;
when reading or compiling fails nothing is written.

The work is laid down once, over files of any kind, and is then done on the files of a
tree.
-/

set_option autoImplicit false

namespace PermitFilter

/-- The text of a file, from what reading its bytes gave. -/
def decodeFile (content : Except Fault ByteArray) : Except Fault String :=
  match content with
  | .error fault => .error fault
  | .ok bytes =>
    match String.fromUTF8? bytes with
    | none => .error .invalidText
    | some text => .ok text

namespace RuleFile

/-- The lines of a rule file, from what reading its bytes gave. -/
def linesOf (path : String) (content : Except Fault ByteArray) : Except Failure (List String) :=
  match decodeFile content with
  | .error fault => .error (.unreadable path fault)
  | .ok text => .ok (Text.lines text)

/-- The lines of the rule file at a path. -/
def lines (tree : FileTree) (path : String) : Except Failure (List String) :=
  linesOf path (tree.read path)

/-- Compiles what was read from one path, up to the point where the expression
is to be written to another. -/
def prepare (policy : Policy) (input output : String) (content : Except Fault ByteArray) :
    Attempt Compiled :=
  match linesOf input content with
  | .error failure => { result := .error failure, events := [.reading input] }
  | .ok lines =>
    let compilation := compile policy lines
    match compilation.result with
    | .error failure =>
      { result := .error failure, events := .reading input :: compilation.events }
    | .ok compiled =>
      { result := .ok compiled,
        events :=
          .reading input :: compilation.events ++
            [.writing output compiled.expression.clauses] }

end RuleFile

/-- What an attempt comes to once its expression is written, or cannot be. -/
def Attempt.afterWriting (prepared : Attempt Compiled) (written : Except Failure Unit) :
    Attempt Compiled :=
  match written with
  | .error failure => { prepared with result := .error failure }
  | .ok () => prepared

section Files

variable {m : Type → Type} {Handle : Type} [Monad m]

/-- Makes the text of an expression the whole content of the file at a path. -/
def Expression.writeTo (files : Files m Handle) (expression : Expression) (path : String) :
    m (Except Failure Unit) := do
  match ← files.replace path expression.text.toUTF8 with
  | .error fault => return .error (.unwritable path fault)
  | .ok () => return .ok ()

/-- Writes the expression that is ready to be written, if there is one. -/
def RuleFile.finish (files : Files m Handle) (output : String) (prepared : Attempt Compiled) :
    m (Attempt Compiled) :=
  match prepared.result with
  | .error _ => return prepared
  | .ok compiled => return prepared.afterWriting (← compiled.expression.writeTo files output)

/-- Reads a rule file, compiles it and writes the expression file. -/
def RuleFile.compileIn (files : Files m Handle) (policy : Policy) (input output : String) :
    m (Attempt Compiled) := do
  finish files output (prepare policy input output (← files.read input))

end Files

/-! ## Files in a tree -/

/-- Makes the text of an expression the whole content of the file at a path, by way
of a workshop for fresh files. -/
def Expression.writeBy (workshop : FileTree.Workshop) (expression : Expression) (tree : FileTree)
    (path : String) : Except Failure Unit × FileTree :=
  (expression.writeTo workshop.files path).run tree

/-- Makes the text of an expression the whole content of the file at a path. -/
def Expression.write (expression : Expression) (tree : FileTree) (path : String) :
    Except Failure Unit × FileTree :=
  expression.writeBy .reliable tree path

/-- Reads a rule file, compiles it and writes the expression file, by way of a
workshop for fresh files. -/
def RuleFile.compileBy (workshop : FileTree.Workshop) (policy : Policy) (tree : FileTree)
    (input output : String) : Attempt Compiled × FileTree :=
  (compileIn workshop.files policy input output).run tree

section Equations

variable {workshop : FileTree.Workshop} {tree : FileTree}

/-- Writing an expression is replacing a file, with another name for what goes wrong. -/
theorem Expression.writeBy_eq (expression : Expression) (path : String) :
    expression.writeBy workshop tree path =
      match tree.replaceBy workshop path expression.text.toUTF8 with
      | (.error fault, left) => (.error (.unwritable path fault), left)
      | (.ok (), written) => (.ok (), written) := by
  rw [writeBy, writeTo, StateT.run_bind, FileTree.replaceBy]
  rcases (workshop.files.replace path expression.text.toUTF8).run tree with ⟨fault | _, left⟩ <;>
    rfl

variable {policy : Policy} {input output : String}

/-- Compiling a file of a tree is finishing what was prepared from its content there. -/
theorem RuleFile.compileBy_eq :
    compileBy workshop policy tree input output =
      (finish workshop.files output
        (prepare policy input output (tree.read input))).run tree := rfl

/-- Where reading or compiling fails nothing is written. -/
theorem RuleFile.compileBy_of_error {failure : Failure}
    (failed : (prepare policy input output (tree.read input)).result = .error failure) :
    compileBy workshop policy tree input output =
      (prepare policy input output (tree.read input), tree) := by
  rw [compileBy_eq, finish, failed]
  rfl

/-- What was compiled is written. -/
theorem RuleFile.compileBy_of_ok {compiled : Compiled}
    (ready : (prepare policy input output (tree.read input)).result = .ok compiled) :
    compileBy workshop policy tree input output =
      ((prepare policy input output (tree.read input)).afterWriting
          (compiled.expression.writeBy workshop tree output).1,
        (compiled.expression.writeBy workshop tree output).2) := by
  rw [compileBy_eq]
  generalize prepare policy input output (tree.read input) = prepared at ready
  rw [finish, ready, Expression.writeBy]
  simp only [StateT.run_bind, StateT.run_pure]
  rcases (compiled.expression.writeTo workshop.files output).run tree with ⟨written, left⟩
  rfl

end Equations

end PermitFilter
