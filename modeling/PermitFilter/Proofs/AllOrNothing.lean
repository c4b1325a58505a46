import PermitFilter.Proofs.FileText
import PermitFilter.Proofs.Paths

/-!
# Compiling a file is all or nothing

Replacing the file at a path either fails and leaves the tree, or fills the
location the path leads to and nothing else. This holds whatever steps of the
workshop fail, for each step is either undone by removing the fresh file or
completed by moving it (`replaceBy_cases`). The workshop in which no step fails is
lawful (`reliable_lawful`).

Compiling a rule file to an expression file fails at reading, at compiling or at
writing. Whichever it is, the tree is left as it was. If nothing fails, what was
compiled is the content the rule file had before, the expression file holds the
text of the expression and nothing else, and no other location has changed
(`compileBy_all_or_nothing`). The expression file may be the rule file itself.
-/

set_option autoImplicit false

namespace PermitFilter

/-! ## Replacing a file -/

namespace FileTree

/-- Moving a fresh file onto a location fills that location and nothing else. -/
theorem moveFile_of_free {tree : FileTree} {fresh : Location} (target : Location)
    (content : ByteArray) (free : tree.get? fresh = none) :
    (tree.fill fresh (.file content)).moveFile fresh target content =
      tree.fill target (.file content) := by
  rw [moveFile, erase_fill content free]

/-- A fresh name is free in its directory. -/
theorem get?_freshName (tree : FileTree) (directory : Location) :
    tree.get? (directory ++ [freshName (tree.namesIn directory)]) = none := by
  have below : directory ++ [freshName (tree.namesIn directory)] ≠ [] := by simp
  rw [get?, Entries.get?, if_neg below, Option.map_eq_none_iff, List.find?_eq_none]
  intro named member same
  have place : named.1 = directory ++ [freshName (tree.namesIn directory)] := by simpa using same
  apply freshName_not_mem (tree.namesIn directory)
  exact List.mem_filterMap.2 ⟨named, member, by rw [place]; simp⟩

/-- **The reliable workshop is lawful.** -/
theorem reliable_lawful : Workshop.reliable.Lawful where
  create_error made := by simp [Workshop.reliable] at made
  create_ok {tree left directory fresh} made := by
    obtain ⟨place, rfl⟩ := Prod.mk.inj made
    obtain rfl := Except.ok.inj place
    exact ⟨List.dropLast_concat, get?_freshName tree directory, rfl⟩
  write_error written := by simp [Workshop.reliable] at written
  write_ok written := (Prod.mk.inj written).2.symm
  move_error {tree left fresh target fault} moved := by
    simp only [Workshop.reliable] at moved
    split at moved
    · simp at moved
    · exact (Prod.mk.inj moved).2.symm
  move_ok {tree left fresh target content} moved found := by
    simp only [Workshop.reliable, found] at moved
    exact (Prod.mk.inj moved).2.symm
  remove_eq _ _ := rfl

section Replacing

variable {workshop : Workshop} {tree : FileTree} {path : String} {content : ByteArray}

/-- Following a path with a fresh file in place leads where it leads without that file,
and there is room for a file if there is room then. -/
theorem locate_of_moveTarget_fill {fresh target : Location} (free : tree.get? fresh = none)
    (movable : (tree.fill fresh (.file content)).moveTarget path = .ok target) :
    tree.locate path = .ok target ∧ tree.HasRoom target := by
  have absent : tree.get? fresh ≠ some .directory := by simp [free]
  have directories := get?_fill_file_eq_directory_iff absent content
  obtain ⟨found, inside, other⟩ := locate_of_moveTarget movable
  exact ⟨locate_eq_ok_of_directories start_fill.symm (fun place => (directories place).1) found,
    (directories _).1 inside, fun directory => other ((directories target).2 directory)⟩

/-- The step that makes a fresh file, in a tree. -/
theorem run_create :
    (workshop.files.create path).run tree =
      match tree.enterForNewFile path with
      | .error fault => (.error (.atPath (workshop.freshPath tree path) fault), tree)
      | .ok directory => workshop.create tree directory := rfl

/-- A fresh file that cannot be made changes nothing. -/
theorem eq_of_create_eq_error (lawful : workshop.Lawful) {left : FileTree} {fault : Fault}
    (failed : (workshop.files.create path).run tree = (.error fault, left)) : left = tree := by
  rw [run_create] at failed
  split at failed
  · exact (Prod.mk.inj failed).2.symm
  · exact lawful.create_error failed

/-- A fresh file is made empty, where nothing was and in a directory. -/
theorem free_of_create_eq_ok (lawful : workshop.Lawful) {left : FileTree} {fresh : Location}
    (made : (workshop.files.create path).run tree = (.ok fresh, left)) :
    tree.get? fresh = none ∧ tree.HasRoom fresh ∧ left = tree.fill fresh (.file .empty) := by
  rw [run_create] at made
  split at made
  · cases (Prod.mk.inj made).1
  · rename_i directory entered
    obtain ⟨inside, free, created⟩ := lawful.create_ok made
    refine ⟨free, ⟨?_, by simp [free]⟩, created⟩
    rw [inside]
    exact get?_of_enterForNewFile entered

/-- The steps that fill a fresh file and move it, in a tree. -/
theorem run_fillAndMove (fresh : Location) :
    (workshop.files.fillAndMove fresh path content).run tree =
      match workshop.write tree fresh content with
      | (.error fault, written) => (.error fault, written)
      | (.ok (), written) =>
        match written.moveTarget path with
        | .error fault => (.error fault, written)
        | .ok target => workshop.move written fresh target := by
  have written : (workshop.files.write fresh content).run tree =
    workshop.write tree fresh content := rfl
  rw [Files.fillAndMove, StateT.run_bind, written]
  rcases workshop.write tree fresh content with ⟨fault | _, left⟩ <;> rfl

/-- **Filling and moving a fresh file fails and leaves that file behind, or fills the
location the path leads to.** -/
theorem fillAndMove_cases (lawful : workshop.Lawful) {fresh : Location}
    (free : tree.get? fresh = none) (room : tree.HasRoom fresh) (path : String)
    (content : ByteArray) :
    (∃ fault part, (workshop.files.fillAndMove fresh path content).run
        (tree.fill fresh (.file .empty)) = (.error fault, tree.fill fresh (.file part))) ∨
      ∃ target, tree.locate path = .ok target ∧ tree.HasRoom target ∧
        (workshop.files.fillAndMove fresh path content).run (tree.fill fresh (.file .empty)) =
          (.ok (), tree.fill target (.file content)) := by
  rw [run_fillAndMove]
  rcases filled : workshop.write (tree.fill fresh (.file .empty)) fresh content with
    ⟨fault | _, written⟩
  · obtain ⟨part, rfl⟩ := lawful.write_error filled
    exact .inl ⟨fault, part, by rw [fill_fill _ _ free]⟩
  obtain rfl := lawful.write_ok filled
  rw [fill_fill _ _ free] at filled
  rw [fill_fill _ _ free]
  cases movable : (tree.fill fresh (.file content)).moveTarget path with
  | error fault => exact .inl ⟨fault, content, by simp only [movable]⟩
  | ok target =>
    rcases moved : workshop.move (tree.fill fresh (.file content)) fresh target with
      ⟨fault | _, left⟩
    · obtain rfl := lawful.move_error moved
      exact .inl ⟨fault, content, by simp only [movable, moved]⟩
    · obtain rfl := lawful.move_ok moved (get?_fill_self room)
      obtain ⟨leads, fits⟩ := locate_of_moveTarget_fill free movable
      refine .inr ⟨target, leads, fits, ?_⟩
      simp only [movable, moved]
      rw [moveFile_of_free target content free]

/-- Removing the fresh file that could not be filled or moved undoes what was done. -/
theorem fillAndMoveOrRemove_cases (lawful : workshop.Lawful) {fresh : Location}
    (free : tree.get? fresh = none) (room : tree.HasRoom fresh) (path : String)
    (content : ByteArray) :
    (∃ fault, (workshop.files.fillAndMoveOrRemove fresh path content).run
        (tree.fill fresh (.file .empty)) = (.error fault, tree)) ∨
      ∃ target, tree.locate path = .ok target ∧ tree.HasRoom target ∧
        (workshop.files.fillAndMoveOrRemove fresh path content).run
            (tree.fill fresh (.file .empty)) =
          (.ok (), tree.fill target (.file content)) := by
  rw [Files.fillAndMoveOrRemove, StateT.run_bind]
  obtain ⟨fault, part, failed⟩ | ⟨target, leads, fits, done⟩ :=
    fillAndMove_cases lawful free room path content
  · have removed : workshop.remove (tree.fill fresh (.file part)) fresh = tree := by
      rw [lawful.remove_eq, erase_fill part free]
    refine .inl ⟨fault, ?_⟩
    rw [failed]
    exact Prod.ext rfl removed
  · refine .inr ⟨target, leads, fits, ?_⟩
    rw [done]
    rfl

/-- **A replacement fails and leaves the tree, or fills the location the path leads
to.** -/
theorem replaceBy_cases (lawful : workshop.Lawful) (tree : FileTree) (path : String)
    (content : ByteArray) :
    (∃ fault, tree.replaceBy workshop path content = (.error fault, tree)) ∨
      ∃ target, tree.locate path = .ok target ∧ tree.HasRoom target ∧
        tree.replaceBy workshop path content = (.ok (), tree.fill target (.file content)) := by
  rw [replaceBy, Files.replace, StateT.run_bind]
  rcases made : (workshop.files.create (Path.parent path)).run tree with ⟨fault | fresh, created⟩
  · obtain rfl := eq_of_create_eq_error lawful made
    exact .inl ⟨fault, rfl⟩
  · obtain ⟨free, room, rfl⟩ := free_of_create_eq_ok lawful made
    exact fillAndMoveOrRemove_cases lawful free room path content

/-- A file just filled under a path that leads to it is read back from the path. -/
theorem read_fill {target : Location} (found : tree.locate path = .ok target)
    (room : tree.HasRoom target) :
    (tree.fill target (.file content)).read path = .ok content := by
  have directories := get?_fill_file_eq_directory_iff room.2 content
  have still : (tree.fill target (.file content)).locate path = .ok target :=
    locate_eq_ok_of_directories start_fill (fun place => (directories place).2) found
  simp only [read, still, get?_fill_self room]

end Replacing

end FileTree

/-! ## Compiling a file -/

/-- Trees that differ only in the file a path leads to, which has been given a
content. -/
structure FileTree.ReplacedAt (before after : FileTree) (path : String) (content : ByteArray)
    (target : Location) : Prop where
  locate_before : before.locate path = .ok target
  get?_target : after.get? target = some (.file content)
  read_after : after.read path = .ok content
  get?_other : ∀ other, other ≠ target → after.get? other = before.get? other
  start_eq : after.start = before.start

theorem FileTree.replacedAt_fill {tree : FileTree} {path : String} {target : Location}
    (content : ByteArray) (found : tree.locate path = .ok target) (room : tree.HasRoom target) :
    tree.ReplacedAt (tree.fill target (.file content)) path content target where
  locate_before := found
  get?_target := get?_fill_self room
  read_after := read_fill found room
  get?_other _ apart := get?_fill_of_ne apart
  start_eq := start_fill

/-! ## Reading and compiling -/

/-- What is ready to be written was compiled from the text that was read. -/
theorem RuleFile.prepare_result_eq_ok_iff {policy : Policy} {input output : String}
    {content : Except Fault ByteArray} {compiled : Compiled} :
    (prepare policy input output content).result = .ok compiled ↔
      ∃ text, content = .ok text.toUTF8 ∧
        (PermitFilter.compile policy (Text.lines text)).result = .ok compiled := by
  simp only [prepare, linesOf, ← decodeFile_eq_ok_iff]
  cases decoded : decodeFile content with
  | error fault => simp
  | ok text =>
    simp only [Except.ok.injEq, exists_eq_left']
    split
    · rename_i failed
      simp [failed]
    · rename_i succeeded
      rw [succeeded]

/-! ## Writing -/

section Writing

variable {workshop : FileTree.Workshop}

theorem Expression.writeBy_cases (lawful : workshop.Lawful) (expression : Expression)
    (tree : FileTree) (path : String) :
    (∃ fault, expression.writeBy workshop tree path = (.error (.unwritable path fault), tree)) ∨
      ∃ target left, expression.writeBy workshop tree path = (.ok (), left) ∧
        tree.ReplacedAt left path expression.text.toUTF8 target := by
  obtain ⟨fault, failed⟩ | ⟨target, found, other, done⟩ :=
    FileTree.replaceBy_cases lawful tree path expression.text.toUTF8
  · exact .inl ⟨fault, by rw [writeBy_eq, failed]⟩
  · exact .inr ⟨target, _, by rw [writeBy_eq, done], FileTree.replacedAt_fill _ found other⟩

/-- The ways compiling a file can end: it fails and leaves the tree, or what the rule file
held is compiled and replaces the content of the expression file. -/
theorem RuleFile.compileBy_cases (lawful : workshop.Lawful) (policy : Policy) (tree : FileTree)
    (input output : String) :
    (∃ failure, (compileBy workshop policy tree input output).1.result = .error failure ∧
        (compileBy workshop policy tree input output).2 = tree) ∨
      ∃ compiled text target,
        (compileBy workshop policy tree input output).1.result = .ok compiled ∧
        tree.read input = .ok text.toUTF8 ∧
        (PermitFilter.compile policy (Text.lines text)).result = .ok compiled ∧
        tree.ReplacedAt (compileBy workshop policy tree input output).2 output
          compiled.expression.text.toUTF8 target := by
  cases ready : (prepare policy input output (tree.read input)).result with
  | error failure => exact .inl ⟨failure, by simp only [compileBy_of_error ready, ready, and_self]⟩
  | ok compiled =>
    rw [compileBy_of_ok ready]
    obtain ⟨fault, failed⟩ | ⟨target, left, done, replaced⟩ :=
      compiled.expression.writeBy_cases lawful tree output
    · exact .inl ⟨.unwritable output fault, by rw [failed]; exact ⟨rfl, rfl⟩⟩
    · obtain ⟨text, found, compiles⟩ := prepare_result_eq_ok_iff.1 ready
      rw [done]
      exact .inr ⟨compiled, text, target, ready, found, compiles, replaced⟩

/-- **Compiling a file is all or nothing.** After a failure the tree is what it was.
After a success the rule file had a text that compiles to what is returned, and the
tree differs only in the expression file, which holds the text of the expression. -/
theorem compileBy_all_or_nothing (lawful : workshop.Lawful) (policy : Policy) (tree : FileTree)
    (input output : String) :
    (∀ failure, (RuleFile.compileBy workshop policy tree input output).1.result = .error failure →
      (RuleFile.compileBy workshop policy tree input output).2 = tree) ∧
    ∀ compiled, (RuleFile.compileBy workshop policy tree input output).1.result = .ok compiled →
      (∃ text, tree.read input = .ok text.toUTF8 ∧
        (compile policy (Text.lines text)).result = .ok compiled) ∧
      ∃ target, tree.ReplacedAt (RuleFile.compileBy workshop policy tree input output).2 output
        compiled.expression.text.toUTF8 target := by
  obtain ⟨failure, failed, left⟩ | ⟨compiled, text, target, done, found, compiles, replaced⟩ :=
    RuleFile.compileBy_cases lawful policy tree input output
  · simp only [failed, left, implies_true, reduceCtorEq, false_implies, and_self]
  · rw [done]
    refine ⟨by simp, ?_⟩
    rintro _ ⟨⟩
    exact ⟨⟨text, found, compiles⟩, target, replaced⟩

end Writing

/-- A rule file gives way to its own expression, under another path to it that begins at
the root. -/
theorem compileBy_all_or_nothing_in_place :
    let text := "note\r\npermit tcp any eq eq 22"
    let tree := FileTree.empty.putFile ["start", "etc", "rules"] text.toUTF8
    let compiled : Compiled :=
      { rules := [{ protocol := "tcp", network := "eq", ports := .list ["22"] }]
        expression := { text := "(net eq and tcp and (port 22))", clauses := 1 }
        tally := { lines := 2, skipped := 1, rules := 1 } }
    let output := "/start/../start/etc/./rules"
    let done := RuleFile.compileBy .reliable .collect tree "etc/rules" output
    FileTree.Workshop.reliable.Lawful ∧ done.1.result = .ok compiled ∧
      ∃ target, tree.ReplacedAt done.2 output compiled.expression.text.toUTF8 target := by
  intro text tree compiled output done
  have ready : (RuleFile.prepare .collect "etc/rules" output
      (tree.read "etc/rules")).result = .ok compiled :=
    RuleFile.prepare_result_eq_ok_iff.2 ⟨text, by decide +kernel, by decide⟩
  have written : (compiled.expression.writeBy .reliable tree output).1 = .ok () := by
    decide +kernel
  have succeeded : done.1.result = .ok compiled := by
    simp only [done, RuleFile.compileBy_of_ok ready, ready, written, Attempt.afterWriting]
  obtain ⟨-, replaced⟩ := (compileBy_all_or_nothing FileTree.reliable_lawful .collect tree
    "etc/rules" output).2 compiled succeeded
  exact ⟨FileTree.reliable_lawful, succeeded, replaced⟩

/-- A path with a slash in front leads elsewhere: the rule file stays when the expression
file has the same name at the root. -/
example :
    let text := "permit tcp n eq 1"
    let tree := FileTree.empty.putFile ["start", "rules"] text.toUTF8
    let left := (RuleFile.compileBy .reliable .failFast tree "rules" "/rules").2
    left.read "rules" = .ok text.toUTF8 ∧
      left.read "../rules" = .ok "(net n and tcp and (port 1))".toUTF8 := by
  decide +kernel

end PermitFilter
