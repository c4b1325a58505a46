import Mathlib.Logic.Function.Basic
import PermitFilter.Cursor
import PermitFilter.Proofs.RemainingWords

/-!
# Places kept and gone back to

A place is kept by copying a cursor, and gone back to by copying it again. Here any number
of cursors stand under names in front of one list, and each of them can be used or copied
at any time.

Whatever steps are taken, every cursor is as good as the plain list of words that remains
to it: it stands in the list, what remains is an end of the list, and each operation acts
on that. A step changes only the cursor under its target. The words returned under a name
since a cursor was last put there are, in order, a subsequence of the list, and no place of
it is returned twice (`Cursors.after_refines_remaining`). The last statement rests on a
history that is kept beside the run, and on all returned words lying in front of the cursor
(`Cursors.Returned.after`).

A session is the case of one cursor in use and a stack of places. It tells, step by step,
what the same steps come to on plain lists (`Cursor.Session.runTells_run`).
-/

set_option autoImplicit false

namespace PermitFilter

open Cursor (Operation)

/-- Cursors under names. -/
abbrev Cursors (ι : Type) := ι → Cursor

namespace Cursors

variable {ι ε : Type}

/-- One step with cursors under names. -/
inductive Step (ι ε : Type) where
  /-- Performs an operation on the cursor under a name. -/
  | use (name : ι) (operation : Operation ε)
  /-- Puts a copy of the cursor under one name under another. -/
  | copy (source target : ι)
  deriving DecidableEq, Repr

/-- The name whose cursor a step changes. -/
def Step.target : Step ι ε → ι
  | .use name _ => name
  | .copy _ target => target

/-- Under every name a cursor in front of the first word. -/
def ofWords (words : List String) : Cursors ι :=
  fun _ => .ofWords words

/-- Cursors that all stand in one list. -/
def StandIn (cursors : Cursors ι) (words : List String) : Prop :=
  ∀ name, (cursors name).StandsIn words

theorem standIn_ofWords (words : List String) : (ofWords words : Cursors ι).StandIn words :=
  fun _ => Cursor.standsIn_ofWords words

/-! ## Runs -/

section Runs

variable [DecidableEq ι] {cursors : Cursors ι} {words : List String} {name : ι}

/-- The cursors after a step. -/
def step (cursors : Cursors ι) : Step ι ε → Cursors ι
  | .use name operation => Function.update cursors name ((cursors name).perform operation).2
  | .copy source target => Function.update cursors target (cursors source)

/-- The cursors after steps that are taken in order. -/
def after : Cursors ι → List (Step ι ε) → Cursors ι
  | cursors, [] => cursors
  | cursors, step :: steps => (cursors.step step).after steps

theorem StandIn.update {cursor : Cursor} (stand : cursors.StandIn words)
    (stands : cursor.StandsIn words) : StandIn (Function.update cursors name cursor) words := by
  intro other
  by_cases same : other = name
  · subst same
    rwa [Function.update_self]
  · rw [Function.update_of_ne same]
    exact stand other

/-- **One step keeps the cursors in the list.** -/
theorem StandIn.step (stand : cursors.StandIn words) (step : Step ι ε) :
    (cursors.step step).StandIn words := by
  cases step with
  | use name operation => exact stand.update ((stand name).perform operation)
  | copy source target => exact stand.update (stand source)

/-- **A run keeps the cursors in the list.** -/
theorem StandIn.after (stand : cursors.StandIn words) (steps : List (Step ι ε)) :
    (cursors.after steps).StandIn words := by
  induction steps generalizing cursors with
  | nil => exact stand
  | cons step steps ih => exact ih (stand.step step)

theorem step_of_target_ne {step : Step ι ε} (apart : step.target ≠ name) :
    cursors.step step name = cursors name := by
  cases step with
  | use | copy => exact Function.update_of_ne (Ne.symm apart) _ _

/-- Steps under other names leave a cursor as it was. -/
theorem after_of_target_ne {steps : List (Step ι ε)}
    (apart : ∀ step ∈ steps, step.target ≠ name) : cursors.after steps name = cursors name := by
  induction steps generalizing cursors with
  | nil => rfl
  | cons step steps ih =>
    rw [List.forall_mem_cons] at apart
    rw [after, ih apart.2, step_of_target_ne apart.1]

end Runs

/-! ## Returned words -/

/-- Words with their places in a list: in order a subsequence of it, and no place twice. -/
structure TakenInOrder (words : List String) (taken : List (String × Nat)) : Prop where
  sublist : (taken.map Prod.fst).Sublist words
  increasing : (taken.map Prod.snd).Pairwise (· < ·)
  getElem?_eq : ∀ word place, (word, place) ∈ taken → words[place]? = some word

theorem takenInOrder_of_sublist_zipIdx {words : List String} {taken : List (String × Nat)}
    (sublist : taken.Sublist words.zipIdx) : TakenInOrder words taken where
  sublist := by
    have first := sublist.map Prod.fst
    rwa [List.zipIdx_map_fst] at first
  increasing := by
    have second := sublist.map Prod.snd
    rw [List.zipIdx_map_snd] at second
    exact List.Pairwise.sublist second (List.pairwise_lt_range' 1)
  getElem?_eq word place member :=
    List.mk_mem_zipIdx_iff_getElem?.1 (sublist.subset member)

/-- The words returned under each name since a cursor was last put there, each with the
place it was read from. -/
abbrev History (ι : Type) := ι → List (String × Nat)

/-- Nothing was returned yet. -/
def History.empty : History ι :=
  fun _ => []

/-- All words of a history lie, in order, in front of the cursors that returned them. -/
def Returned (cursors : Cursors ι) (history : History ι) : Prop :=
  ∀ name, (history name).Sublist (cursors name).passed.zipIdx

theorem returned_empty (cursors : Cursors ι) : cursors.Returned .empty :=
  fun _ => List.nil_sublist _

/-- Words in front of cursors that stand in a list were taken from the list in order. -/
theorem Returned.takenInOrder {cursors : Cursors ι} {words : List String} {history : History ι}
    (returned : cursors.Returned history) (stand : cursors.StandIn words) (name : ι) :
    TakenInOrder words (history name) :=
  takenInOrder_of_sublist_zipIdx
    ((returned name).trans (stand name).zipIdx_passed_sublist)

section Returned

variable [DecidableEq ι] {cursors : Cursors ι} {words : List String} {history : History ι}

/-- The history after a step. The words an operation returns stand at the places from its
cursor on, and a copy begins with no history. -/
def History.after (history : History ι) (cursors : Cursors ι) : Step ι ε → History ι
  | .use name operation =>
    let words := operation.returned ((cursors name).perform operation).1
    Function.update history name (history name ++ words.zipIdx (cursors name).position)
  | .copy _ target => Function.update history target []

/-- The history after steps that are taken in order. -/
def historyAfter : Cursors ι → History ι → List (Step ι ε) → History ι
  | _, history, [] => history
  | cursors, history, step :: steps =>
    (cursors.step step).historyAfter (history.after cursors step) steps

/-- **One step keeps the returned words in front of the cursors.** -/
theorem Returned.step (returned : cursors.Returned history) (stand : cursors.StandIn words)
    (step : Step ι ε) : (cursors.step step).Returned (history.after cursors step) := by
  intro name
  by_cases here : step.target = name
  · cases step with
    | use target operation =>
      obtain rfl : name = target := here.symm
      obtain ⟨skipped, passed⟩ := (stand name).exists_passed_perform operation
      -- The new words are numbered from the place up to which the old ones lie.
      rw [Cursors.step, History.after, Function.update_self, Function.update_self, passed,
        List.zipIdx_append, List.zipIdx_append, Nat.zero_add, (stand name).length_passed]
      exact ((returned name).append (List.Sublist.refl _)).trans (List.sublist_append_left _ _)
    | copy source target =>
      obtain rfl : name = target := here.symm
      rw [History.after, Function.update_self]
      exact List.nil_sublist _
  · have alone : history.after cursors step name = history name := by
      cases step with
      | use | copy => exact Function.update_of_ne (Ne.symm here) _ _
    rw [alone, step_of_target_ne here]
    exact returned name

/-- **A run keeps the returned words in front of the cursors.** -/
theorem Returned.after (returned : cursors.Returned history) (stand : cursors.StandIn words)
    (steps : List (Step ι ε)) :
    (cursors.after steps).Returned (cursors.historyAfter history steps) := by
  induction steps generalizing cursors history with
  | nil => exact returned
  | cons step steps ih => exact ih (returned.step stand step) (stand.step step)

/-- **Cursors are as good as plain lists over whole runs.** After any steps every cursor stands
in the list, and what remains to it is an end of the list. Each operation acts on that end, one
that leaves it all leaves the cursor, and reading up to a word is reading one word after
another. A copy is the cursor it was made from, and steps under other names leave it as it was.
The words returned under a name since a cursor was last put there were taken in order, and each
from a place of its own. -/
theorem after_refines_remaining (words : List String) (steps : List (Step ι ε)) :
    let cursors := (ofWords words).after steps
    (∀ name, (cursors name).StandsIn words ∧ (cursors name).remaining <:+ words) ∧
    (∀ name (operation : Operation ε),
      let result := (cursors name).perform operation
      operation.Acts (cursors name).remaining result.1 result.2.remaining ∧
        (result.2.remaining = (cursors name).remaining → result.2 = cursors name) ∧
        cursors.step (.use name operation) name = result.2) ∧
    (∀ name stop taken last,
      Cursor.ReadsUpTo stop (cursors name) taken last ↔
        taken = ((cursors name).readUntil stop).1.zipIdx (cursors name).position ∧
          last = ((cursors name).readUntil stop).2) ∧
    (∀ source target, cursors.step (.copy source target : Step ι ε) target = cursors source) ∧
    (∀ name (later : List (Step ι ε)), (∀ step ∈ later, step.target ≠ name) →
      cursors.after later name = cursors name) ∧
    ∀ name, TakenInOrder words ((ofWords words).historyAfter .empty steps name) := by
  intro cursors
  have stand : cursors.StandIn words := (standIn_ofWords words).after steps
  have returned : cursors.Returned ((ofWords words).historyAfter .empty steps) :=
    (returned_empty (ofWords words)).after (standIn_ofWords words) steps
  refine ⟨?_, ?_, ?_, ?_, ?_, ?_⟩
  · exact fun name => ⟨stand name, (stand name).remaining_suffix⟩
  · intro name operation
    refine ⟨Cursor.acts_perform (cursors name) operation, ?_, Function.update_self _ _ _⟩
    exact ((stand name).perform operation).eq_of_remaining_eq (stand name)
  · exact fun name stop taken last => Cursor.readsUpTo_iff (stand name)
  · exact fun source target => Function.update_self _ _ _
  · exact fun name later => after_of_target_ne
  · exact fun name => returned.takenInOrder stand name

/-- The cursor under `false` reads up to `any` while its place is kept under `true`, goes back
there and reads the same word again. -/
example :
    let steps : List (Step Bool String) :=
      [.use false .read, .copy false true, .use false (.readUntil "any"), .copy true false,
        .use false .read]
    (ofWords ["80", "443", "any", "9"]).historyAfter .empty steps false = [("443", 1)] ∧
      ((ofWords ["80", "443", "any", "9"]).after (steps.take 3) false).remaining = [] ∧
      ((ofWords ["80", "443", "any", "9"]).after steps true).remaining = ["443", "any", "9"] := by
  decide

end Returned

end Cursors

/-! ## Sessions -/

namespace Cursor

/-- The step of a session that performs an operation. -/
def Operation.step : Operation String → Step
  | .current => .current
  | .read => .read
  | .readIf keyword => .readIf keyword
  | .require absent => .require absent
  | .readUntil stop => .readUntil stop

/-- The answer of a session to an operation. -/
def Operation.answer : (operation : Operation String) → operation.Reply → Answer
  | .current, word | .read, word => .word word
  | .readIf _, matched => .verdict matched
  | .require _, found => .required found
  | .readUntil _, words => .words words

namespace Session

/-- What a step comes to on plain lists: the words that remain and those at the places kept,
the answer, and the same lists afterwards. -/
inductive Tells : List String → List (List String) → Step → Answer → List String →
    List (List String) → Prop where
  | use {operation : Operation String} {left left' : List String} {reply : operation.Reply}
      (kept : List (List String)) (acts : operation.Acts left reply left') :
      Tells left kept operation.step (operation.answer reply) left' kept
  | keep (left : List String) (kept : List (List String)) :
      Tells left kept .keep .nothing left (left :: kept)
  | goBack (left again : List String) (kept : List (List String)) :
      Tells left (again :: kept) .goBack (.verdict true) again kept
  | stay (left : List String) : Tells left [] .goBack (.verdict false) left []

/-- What steps come to on plain lists: each answer, and the words that remain behind it. -/
inductive RunTells : List String → List (List String) → List Step →
    List (Answer × List String) → Prop where
  | nil (left : List String) (kept : List (List String)) : RunTells left kept [] []
  | cons {left left' : List String} {kept kept' : List (List String)} {step : Step}
      {answer : Answer} {steps : List Step} {answers : List (Answer × List String)}
      (tells : Tells left kept step answer left' kept')
      (later : RunTells left' kept' steps answers) :
      RunTells left kept (step :: steps) ((answer, left') :: answers)

theorem step_operation (session : Session) (operation : Operation String) :
    session.step operation.step = (operation.answer (session.cursor.perform operation).1,
      { session with cursor := (session.cursor.perform operation).2 }) := by
  cases operation with
  | current | read | readIf | readUntil => rfl
  | require absent =>
    simp only [step, Operation.step, perform]
    cases session.cursor.require absent <;> rfl

theorem exists_operation_or (step : Step) :
    (∃ operation : Operation String, step = operation.step) ∨ step = .keep ∨ step = .goBack := by
  cases step with
  | current => exact .inl ⟨.current, rfl⟩
  | read => exact .inl ⟨.read, rfl⟩
  | readIf keyword => exact .inl ⟨.readIf keyword, rfl⟩
  | require absent => exact .inl ⟨.require absent, rfl⟩
  | readUntil stop => exact .inl ⟨.readUntil stop, rfl⟩
  | keep => exact .inr (.inl rfl)
  | goBack => exact .inr (.inr rfl)

/-- One step of a session is a step on plain lists. -/
theorem tells_step (session : Session) (step : Step) :
    Tells session.cursor.remaining (session.kept.map remaining) step (session.step step).1
      (session.step step).2.cursor.remaining ((session.step step).2.kept.map remaining) := by
  obtain ⟨operation, rfl⟩ | rfl | rfl := exists_operation_or step
  · rw [step_operation]
    exact .use _ (acts_perform session.cursor operation)
  · exact .keep _ _
  · obtain ⟨cursor, kept⟩ := session
    cases kept with
    | nil => exact .stay _
    | cons again kept => exact .goBack _ _ _

/-- **A session tells what its steps come to on plain lists.** -/
theorem runTells_run (session : Session) (steps : List Step) :
    RunTells session.cursor.remaining (session.kept.map remaining) steps (session.run steps) := by
  induction steps generalizing session with
  | nil => exact .nil _ _
  | cons step steps ih => exact .cons (session.tells_step step) (ih (session.step step).2)

end Session

end Cursor

end PermitFilter
