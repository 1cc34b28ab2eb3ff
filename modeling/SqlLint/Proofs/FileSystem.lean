import SqlLint.FileSystem.Tree
import SqlLint.Proofs.Outcome
import SqlLint.Proofs.Path

/-!
# The names met on walks

A walk goes from a directory to its entries, and so what leads to anything below the root is a list
of names of entries. This is what a file system promises; a file tree keeps it, however it was built
up, since the names of a path text hold no separators.
-/

namespace SqlLint

/-- Whether walks go by the names of entries. -/
def FileSystem.NamesEntries (fs : FileSystem) : Prop :=
  ∀ root walked, fs.walk root = .ok walked → ∀ w ∈ walked, ∀ name ∈ w.names, Path.IsEntryName name

namespace FileTree

/-- Whether the names that lead to the entries of a tree are names of entries. -/
def NamesEntries (t : FileTree) : Prop :=
  ∀ e ∈ t.entries, ∀ name ∈ e.1, Path.IsEntryName name

variable {t : FileTree} {names : List String}

theorem isEntryName_of_mem_namesOf {path name : String} (within : name ∈ namesOf path) :
    Path.IsEntryName name := by
  obtain ⟨segment, solid⟩ := List.mem_filter.mp within
  exact ⟨by simpa using solid, Path.not_mem_of_mem_segments segment⟩

theorem namesEntries_empty : empty.NamesEntries := by
  intro e within
  cases within

theorem NamesEntries.set (h : t.NamesEntries) (each : ∀ name ∈ names, Path.IsEntryName name)
    (entry : TreeEntry) : (t.set names entry).NamesEntries := by
  intro e within
  rcases List.mem_append.mp within with before | new
  · exact h e (List.mem_filter.mp before).1
  · rw [List.mem_singleton.mp new]
    exact each

/-- What directories on the way to some names keep, all directories on the way keep. -/
theorem addParents_induction {P : FileTree → Prop} (h : P t)
    (kept : ∀ t depth, P t → P (t.set (names.take depth) .directory)) : P (t.addParents names) := by
  rw [FileTree.addParents]
  generalize List.range (names.length - 1) = depths
  induction depths generalizing t with
  | nil => exact h
  | cons depth depths ih =>
      rw [List.foldl_cons]
      refine ih ?_
      dsimp only
      split_ifs
      · exact h
      · exact kept t (depth + 1) h

theorem NamesEntries.addParents (h : t.NamesEntries)
    (each : ∀ name ∈ names, Path.IsEntryName name) : (t.addParents names).NamesEntries :=
  addParents_induction h fun _ _ h =>
    h.set (fun name within => each name (List.mem_of_mem_take within)) _

/-- Putting an entry at a path keeps a tree one of names of entries. -/
theorem NamesEntries.put (h : t.NamesEntries) (path : String) (entry : TreeEntry) :
    (t.put path entry).NamesEntries :=
  (h.addParents fun _ => isEntryName_of_mem_namesOf).set (fun _ => isEntryName_of_mem_namesOf) entry

theorem NamesEntries.below (h : t.NamesEntries) {w : Walked} (met : w ∈ t.below names) :
    ∀ name ∈ w.names, Path.IsEntryName name := by
  obtain ⟨⟨place, entry⟩, member, walked⟩ := List.mem_filterMap.mp met
  simp only at walked
  split_ifs at walked
  cases walked
  exact fun name within => h _ member name (List.mem_of_mem_drop within)

theorem NamesEntries.fileSystem (h : t.NamesEntries) : t.fileSystem.NamesEntries := by
  intro root walked walks w met
  obtain ⟨_, _, walks⟩ := Except.bind_eq_ok_iff.mp walks
  obtain ⟨target, _, same⟩ := Except.bind_eq_ok_iff.mp walks
  cases same
  rcases List.mem_cons.mp met with rfl | below
  · simp
  · split at below
    · split_ifs at below
      · exact h.below below
      · cases below
    · cases below

end FileTree

end SqlLint
