/-!
# File trees

A file tree holds files and directories below a root, each at a location: the names that
lead to it from the root. The root itself is a directory and is always there. So is the
directory in which the tree is looked at, its start: paths that do not begin at the root
begin there.

No location holds two entries, and every entry stands in a directory. A tree carries the
proof of that, and an operation for which there is no room leaves the tree as it is. A
tree is a value, so an operation that fails can return the very tree it was given.

The entries stand in the order in which their locations were first filled. Filling a
location again replaces its entry where it stands.
-/

set_option autoImplicit false

namespace PermitFilter

/-- The names that lead from the root of a tree to one of its entries. -/
abbrev Location := List String

/-- What a location holds. -/
inductive Entry where
  | file (content : ByteArray)
  | directory

/-- Files are the same if their bytes are. -/
instance decidableEqEntry : DecidableEq Entry
  | .file content, .file content' =>
    decidable_of_iff (content.data = content'.data) (by rw [Entry.file.injEq, ByteArray.ext_iff])
  | .file _, .directory => isFalse nofun
  | .directory, .file _ => isFalse nofun
  | .directory, .directory => isTrue rfl

/-! ## Entries under their locations -/

/-- Entries, each with its location. -/
abbrev Entries := List (Location × Entry)

namespace Entries

/-- The entry at a location. The root is a directory. -/
def get? (entries : Entries) (location : Location) : Option Entry :=
  if location = [] then some .directory
  else (entries.find? fun named => named.1 = location).map Prod.snd

/-- The entries with one at a location, in place of the one that was there. -/
def put (entries : Entries) (location : Location) (entry : Entry) : Entries :=
  if entries.any fun named => named.1 = location then
    entries.map fun named => if named.1 = location then (location, entry) else named
  else entries ++ [(location, entry)]

/-- The entries at the locations that are kept. -/
def restrict (entries : Entries) (keep : Location → Bool) : Entries :=
  entries.filter fun named => keep named.1

section Lookup

variable {entries : Entries} {location other : Location} {entry : Entry}

/-- Replacing the entry of a location that is there is seen at that location. -/
theorem find?_map_replace_self
    (filled : entries.any (fun named => named.1 = location) = true) :
    (entries.map fun named => if named.1 = location then (location, entry) else named).find?
      (fun named => named.1 = location) = some (location, entry) := by
  induction entries with
  | nil => simp at filled
  | cons named entries ih =>
    by_cases same : named.1 = location
    · simp [same]
    · have later : entries.any (fun named => named.1 = location) = true := by
        simpa [same] using filled
      rw [List.map_cons, if_neg same, List.find?_cons_of_neg (by simpa using same)]
      exact ih later

/-- Replacing the entry of one location is not seen at another. -/
theorem find?_map_replace_of_ne (apart : other ≠ location) :
    (entries.map fun named => if named.1 = location then (location, entry) else named).find?
      (fun named => named.1 = other) = entries.find? fun named => named.1 = other := by
  induction entries with
  | nil => rfl
  | cons named entries ih =>
    rw [List.map_cons, List.find?_cons, List.find?_cons]
    by_cases same : named.1 = location
    · simp [same, apart.symm, ih]
    · by_cases found : named.1 = other <;> simp [found, same, apart, ih]

/-- A location holds what was put there. -/
theorem get?_put_self (below : location ≠ []) :
    (entries.put location entry).get? location = some entry := by
  unfold get? put
  rw [if_neg below]
  split
  · rename_i filled
    rw [find?_map_replace_self filled]
    rfl
  · rename_i unfilled
    have missing : entries.find? (fun named => named.1 = location) = none := by
      rw [List.find?_eq_none]
      intro named member same
      exact unfilled (List.any_eq_true.2 ⟨named, member, same⟩)
    simp [List.find?_append, missing]

/-- Putting an entry at one location leaves the others as they are. -/
theorem get?_put_of_ne (apart : other ≠ location) :
    (entries.put location entry).get? other = entries.get? other := by
  unfold get? put
  split
  · rfl
  · split
    · rw [find?_map_replace_of_ne apart]
    · simp [List.find?_append, apart.symm]

/-- What is put in stands beside the entries at the other locations. -/
theorem mem_put_iff {named : Location × Entry} :
    named ∈ entries.put location entry ↔
      named = (location, entry) ∨ named ∈ entries ∧ named.1 ≠ location := by
  unfold put
  split
  · rename_i filled
    obtain ⟨old, there, same⟩ := List.any_eq_true.1 filled
    rw [List.mem_map]
    constructor
    · rintro ⟨before, member, rfl⟩
      split
      · exact .inl rfl
      · rename_i apart
        exact .inr ⟨member, apart⟩
    · rintro (rfl | ⟨member, apart⟩)
      · exact ⟨old, there, if_pos (by simpa using same)⟩
      · exact ⟨named, member, if_neg apart⟩
  · rename_i unfilled
    rw [List.mem_append, List.mem_singleton, or_comm]
    refine or_congr_right ⟨fun member => ⟨member, ?_⟩, And.left⟩
    intro same
    exact unfilled (List.any_eq_true.2 ⟨named, member, by simpa using same⟩)

/-- Putting an entry in keeps the locations distinct. -/
theorem nodup_put (distinct : (entries.map Prod.fst).Nodup) :
    ((entries.put location entry).map Prod.fst).Nodup := by
  unfold put
  split
  · have names : (entries.map fun named =>
        if named.1 = location then (location, entry) else named).map Prod.fst =
          entries.map Prod.fst := by
      rw [List.map_map]
      refine List.map_congr_left fun named _ => ?_
      by_cases same : named.1 = location <;> simp [same]
    rwa [names]
  · rename_i unfilled
    rw [List.map_append, List.nodup_append]
    refine ⟨distinct, List.pairwise_singleton .., ?_⟩
    intro name member name' member'
    obtain ⟨named, there, rfl⟩ := List.mem_map.1 member
    obtain rfl : name' = location := by simpa using member'
    rintro same
    exact unfilled (List.any_eq_true.2 ⟨named, there, by simpa using same⟩)

/-- A location that is kept holds what it held, and so does the root. -/
theorem get?_restrict_of_keep {keep : Location → Bool}
    (kept : location = [] ∨ keep location = true) :
    (entries.restrict keep).get? location = entries.get? location := by
  unfold get? restrict
  split
  · rfl
  · rename_i below
    have kept : keep location = true := kept.resolve_left below
    rw [List.find?_filter]
    congr 2
    funext named
    by_cases same : named.1 = location <;> simp [same, kept]

/-- Dropping entries keeps the locations distinct. -/
theorem nodup_restrict (keep : Location → Bool) (distinct : (entries.map Prod.fst).Nodup) :
    ((entries.restrict keep).map Prod.fst).Nodup :=
  distinct.sublist ((List.filter_sublist).map Prod.fst)

/-- Nothing stands at a location that holds nothing. -/
theorem ne_of_get?_eq_none (free : entries.get? location = none) :
    ∀ named ∈ entries, named.1 ≠ location := by
  unfold get? at free
  split at free
  · simp at free
  · rw [Option.map_eq_none_iff, List.find?_eq_none] at free
    intro named member same
    exact free named member (by simpa using same)

/-- Putting an entry where nothing was adds it at the end. -/
theorem put_of_free (free : ∀ named ∈ entries, named.1 ≠ location) :
    entries.put location entry = entries ++ [(location, entry)] := by
  refine if_neg fun filled => ?_
  obtain ⟨named, member, same⟩ := List.any_eq_true.1 filled
  exact free named member (by simpa using same)

/-- Of two entries put where nothing was the second is left. -/
theorem put_put_of_free (first : Entry) (free : ∀ named ∈ entries, named.1 ≠ location) :
    (entries.put location first).put location entry = entries.put location entry := by
  have kept : (entries.map fun named =>
      if named.1 = location then (location, entry) else named) = entries :=
    (List.map_congr_left fun named member => if_neg (free named member)).trans (List.map_id _)
  rw [put_of_free free, put_of_free free, put, if_pos (by simp), List.map_append, kept]
  simp

/-- Dropping a location at which nothing stands leaves the entries. -/
theorem restrict_of_free (free : ∀ named ∈ entries, named.1 ≠ location) :
    entries.restrict (fun place => place ≠ location) = entries :=
  List.filter_eq_self.2 fun named member => decide_eq_true (free named member)

/-- Dropping what was put where nothing was leaves the entries. -/
theorem restrict_put_of_free (entry : Entry) (free : ∀ named ∈ entries, named.1 ≠ location) :
    (entries.put location entry).restrict (fun place => place ≠ location) = entries := by
  have kept : entries.filter (fun named => decide (named.1 ≠ location)) = entries :=
    restrict_of_free free
  rw [put_of_free free, restrict, List.filter_append, kept]
  simp

end Lookup

end Entries

/-! ## Trees -/

/-- Files and directories below a root, looked at from one of the directories. -/
@[ext]
structure FileTree where
  entries : Entries
  /-- The directory in which paths begin that do not begin at the root. -/
  start : Location
  distinct : (entries.map Prod.fst).Nodup
  /-- An entry stands below the root, in a directory. -/
  nested : ∀ named ∈ entries, named.1 ≠ [] ∧ entries.get? named.1.dropLast = some .directory
  started : entries.get? start = some .directory

namespace FileTree

/-- The tree with one directory, its start, and nothing in it. -/
def empty : FileTree where
  entries := [(["start"], .directory)]
  start := ["start"]
  distinct := by decide
  nested := by decide
  started := by decide

/-- The entry at a location. -/
def get? (tree : FileTree) (location : Location) : Option Entry :=
  tree.entries.get? location

/-- Whether a location is free to be filled: it lies in a directory, and is none
itself. -/
def HasRoom (tree : FileTree) (location : Location) : Prop :=
  tree.get? location.dropLast = some .directory ∧ tree.get? location ≠ some .directory

instance decidableHasRoom (tree : FileTree) (location : Location) :
    Decidable (tree.HasRoom location) :=
  inferInstanceAs (Decidable (_ ∧ _))

@[simp]
theorem get?_root (tree : FileTree) : tree.get? [] = some .directory := rfl

/-- The root has no room. -/
theorem HasRoom.ne_root {tree : FileTree} {location : Location} (room : tree.HasRoom location) :
    location ≠ [] := by
  rintro rfl
  exact room.2 rfl

/-- Filling a location for which there is room keeps every other entry in its directory. -/
theorem nested_put {tree : FileTree} {location : Location} (entry : Entry)
    (room : tree.HasRoom location) :
    ∀ named ∈ tree.entries.put location entry, named.1 ≠ [] ∧
      (tree.entries.put location entry).get? named.1.dropLast = some .directory := by
  have kept : ∀ place, tree.get? place = some .directory →
      (tree.entries.put location entry).get? place = some .directory := by
    intro place directory
    have apart : place ≠ location := by
      rintro rfl
      exact room.2 directory
    rwa [Entries.get?_put_of_ne apart]
  intro named member
  rcases Entries.mem_put_iff.1 member with rfl | ⟨member, -⟩
  · exact ⟨room.ne_root, kept _ room.1⟩
  · obtain ⟨below, directory⟩ := tree.nested named member
    exact ⟨below, kept _ directory⟩

/-- Fills a location, if there is room. -/
def fill (tree : FileTree) (location : Location) (entry : Entry) : FileTree :=
  if room : tree.HasRoom location then
    { entries := tree.entries.put location entry
      start := tree.start
      distinct := Entries.nodup_put tree.distinct
      nested := nested_put entry room
      started := by
        have apart : tree.start ≠ location := by
          rintro rfl
          exact room.2 tree.started
        rw [Entries.get?_put_of_ne apart]
        exact tree.started }
  else tree

/-- The tree without the entries at some locations. Whatever stands above a location that
is kept has to be kept as well. -/
def restrict (tree : FileTree) (keep : Location → Bool)
    (closed : ∀ named ∈ tree.entries, keep named.1 = true → named.1.dropLast ≠ [] →
      keep named.1.dropLast = true)
    (started : tree.start = [] ∨ keep tree.start = true) : FileTree where
  entries := tree.entries.restrict keep
  start := tree.start
  distinct := Entries.nodup_restrict keep tree.distinct
  nested := by
    intro named member
    obtain ⟨member, kept⟩ := List.mem_filter.1 member
    obtain ⟨below, directory⟩ := tree.nested named member
    refine ⟨below, ?_⟩
    rwa [Entries.get?_restrict_of_keep]
    exact (Decidable.em _).imp_right (closed named member kept)
  started := by
    rw [Entries.get?_restrict_of_keep started]
    exact tree.started

/-- Empties a location, unless it is a directory. -/
def erase (tree : FileTree) (location : Location) : FileTree :=
  if other : tree.get? location ≠ some .directory then
    tree.restrict (fun place => place ≠ location)
      (by
        intro named member _ _
        rw [decide_eq_true_iff]
        rintro rfl
        exact other (tree.nested named member).2)
      (by
        refine .inr (decide_eq_true ?_)
        rintro rfl
        exact other tree.started)
  else tree

/-- Empties a location and all locations below it. The start and the directories above it
stay. -/
def eraseBelow (tree : FileTree) (location : Location) : FileTree :=
  tree.restrict (fun place => !location.isPrefixOf place || place.isPrefixOf tree.start)
    (by
      intro named _ kept _
      simp only [Bool.or_eq_true, Bool.not_eq_true', ← Bool.not_eq_true,
        List.isPrefixOf_iff_prefix] at kept ⊢
      have above : named.1.dropLast <+: named.1 := List.dropLast_prefix _
      exact kept.imp (fun apart below => apart (below.trans above)) above.trans)
    (.inr (by simp))

/-- The entries below the start, each with the names that lead there from the start. -/
def below (tree : FileTree) : Entries :=
  (tree.entries.filter fun named =>
    tree.start.isPrefixOf named.1 && named.1 ≠ tree.start).map fun named =>
      (named.1.drop tree.start.length, named.2)

/-- The names in use directly inside a directory. -/
def namesIn (tree : FileTree) (directory : Location) : List String :=
  tree.entries.filterMap fun named =>
    if named.1.dropLast = directory then named.1.getLast? else none

/-! ## Entries after an operation -/

section Operations

variable {tree : FileTree} {location other : Location} {entry : Entry}

theorem entries_fill (room : tree.HasRoom location) :
    (tree.fill location entry).entries = tree.entries.put location entry := by
  rw [fill, dif_pos room]

theorem fill_of_not_hasRoom (full : ¬ tree.HasRoom location) :
    tree.fill location entry = tree := by
  rw [fill, dif_neg full]

/-- A location for which there is room holds what it was filled with. -/
theorem get?_fill_self (room : tree.HasRoom location) :
    (tree.fill location entry).get? location = some entry := by
  rw [fill, dif_pos room]
  exact Entries.get?_put_self room.ne_root

/-- Filling a location leaves the others as they are. -/
theorem get?_fill_of_ne (apart : other ≠ location) :
    (tree.fill location entry).get? other = tree.get? other := by
  unfold fill
  split
  · exact Entries.get?_put_of_ne apart
  · rfl

@[simp]
theorem start_fill : (tree.fill location entry).start = tree.start := by
  unfold fill
  split <;> rfl

/-- Emptying a location that holds nothing changes nothing. -/
theorem erase_of_free (free : tree.get? location = none) : tree.erase location = tree := by
  rw [erase, dif_pos (by simp [free])]
  exact FileTree.ext (Entries.restrict_of_free (Entries.ne_of_get?_eq_none free)) rfl

/-- Emptying a location that was just filled for the first time gives the tree
back. -/
theorem erase_fill (content : ByteArray) (free : tree.get? location = none) :
    (tree.fill location (.file content)).erase location = tree := by
  by_cases room : tree.HasRoom location
  · have apart := Entries.ne_of_get?_eq_none free
    have filled : (tree.fill location (.file content)).get? location ≠ some .directory := by
      simp [get?_fill_self room]
    rw [erase, dif_pos filled]
    refine FileTree.ext ?_ start_fill
    show (tree.fill location (.file content)).entries.restrict (fun place => place ≠ location) =
      tree.entries
    rw [entries_fill room, Entries.restrict_put_of_free _ apart]
  · rw [fill_of_not_hasRoom room, erase_of_free free]

/-- Filling a free location twice is filling it with what comes second. -/
theorem fill_fill (content : ByteArray) (entry : Entry) (free : tree.get? location = none) :
    (tree.fill location (.file content)).fill location entry = tree.fill location entry := by
  by_cases room : tree.HasRoom location
  · have inside : location.dropLast ≠ location := by
      intro same
      simp [HasRoom, same, free] at room
    have again : (tree.fill location (.file content)).HasRoom location := by
      refine ⟨?_, by simp [get?_fill_self room]⟩
      rw [get?_fill_of_ne inside]
      exact room.1
    refine FileTree.ext ?_ (by simp)
    rw [entries_fill again, entries_fill room, entries_fill room, Entries.put_put_of_free _
      (Entries.ne_of_get?_eq_none free)]
  · rw [fill_of_not_hasRoom room]

end Operations

/-! ## Making room -/

/-- Makes a directory at a location that holds nothing. -/
def ensureDirectory (tree : FileTree) (location : Location) : FileTree :=
  match tree.get? location with
  | none => tree.fill location .directory
  | some _ => tree

/-- Makes the directories between one location and another further down. -/
def ensureDirectories (tree : FileTree) (above : Location) : List String → FileTree
  | [] => tree
  | name :: below =>
    (tree.ensureDirectory (above ++ [name])).ensureDirectories (above ++ [name]) below

/-- Puts a file at a location, with the directories that lead to it. -/
def putFile (tree : FileTree) (location : Location) (content : ByteArray) : FileTree :=
  (tree.ensureDirectories [] location.dropLast).fill location (.file content)

/-- Puts a directory at a location, with the directories that lead to it. -/
def putDirectory (tree : FileTree) (location : Location) : FileTree :=
  tree.ensureDirectories [] location

end FileTree

end PermitFilter
