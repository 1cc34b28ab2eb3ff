import SqlLint.Proofs.FileSystem

/-!
# Walks through file trees

A file tree holds at most one entry for each place, however it was built up. So a walk that starts
at a directory meets everything below it once, and meets as regular files what the tree holds as
files. The directory itself is no file, even if the walk starts at a link to it.
-/

namespace SqlLint.FileTree

/-- Whether a tree holds at most one entry for each place. -/
def Distinct (t : FileTree) : Prop := (t.entries.map Prod.fst).Nodup

/-- Whether a regular file stands where names lead to from a place. The tree knows of none
outside. -/
def HasFile (t : FileTree) : Place → List String → Prop
  | .inside front, names => ∃ bytes, t.entry? (front ++ names) = some (.file bytes)
  | .outside, _ => False

variable {t : FileTree} {names front : List String} {entry : TreeEntry}

section Distinct

theorem distinct_empty : empty.Distinct := List.nodup_nil

theorem Distinct.set (h : t.Distinct) (names : List String) (entry : TreeEntry) :
    (t.set names entry).Distinct := by
  have others : ((t.entries.filter (·.1 ≠ names)).map Prod.fst).Nodup :=
    h.sublist (List.filter_sublist.map _)
  rw [Distinct, FileTree.set, List.map_append]
  refine others.append (List.nodup_singleton names) (List.disjoint_singleton.mpr ?_)
  simp

theorem Distinct.put (h : t.Distinct) (path : String) (entry : TreeEntry) :
    (t.put path entry).Distinct :=
  (addParents_induction h fun _ _ h => h.set _ _).set _ _

theorem Distinct.entry?_eq_some_iff (h : t.Distinct) (below : names ≠ []) :
    t.entry? names = some entry ↔ (names, entry) ∈ t.entries := by
  rw [ entry?, if_neg (by simpa using below), List.lookup_eq_some_iff]
  constructor
  · rintro ⟨before, after, split, _⟩
    simp [split]
  · intro member
    obtain ⟨before, after, split⟩ := List.mem_iff_append.mp member
    refine ⟨before, after, split, fun other within => ?_⟩
    rw [Distinct, split, List.map_append, List.map_cons] at h
    have apart := (List.nodup_cons.mp (List.nodup_middle.mp h)).1
    simp only [List.mem_append, not_or] at apart
    simpa using fun same : names = other.1 => apart.1 (same ▸ List.mem_map_of_mem within)

end Distinct

section Below

theorem names_ne_nil_of_mem_below {w : Walked} (met : w ∈ t.below front) : w.names ≠ [] := by
  obtain ⟨⟨place, entry⟩, _, walked⟩ := List.mem_filterMap.mp met
  simp only [Option.ite_none_right_eq_some, Bool.and_eq_true, decide_eq_true_eq,
    Option.some.injEq] at walked
  obtain ⟨⟨_, longer⟩, rfl⟩ := walked
  simpa using longer

/-- The files below a directory are met as files. -/
theorem mem_below_iff : ⟨names, true⟩ ∈ t.below front ↔
    names ≠ [] ∧ ∃ bytes, (front ++ names, .file bytes) ∈ t.entries := by
  rw [below, List.mem_filterMap]
  constructor
  · rintro ⟨⟨place, entry⟩, member, walked⟩
    simp only [Option.ite_none_right_eq_some, Bool.and_eq_true, List.isPrefixOf_iff_prefix,
      decide_eq_true_eq, Option.some.injEq, Walked.mk.injEq] at walked
    obtain ⟨⟨⟨rest, rfl⟩, longer⟩, dropped, isFile⟩ := walked
    obtain rfl : rest = names := by simpa using dropped
    refine ⟨by rintro rfl; simp at longer, ?_⟩
    cases entry with
    | file bytes => exact ⟨bytes, member⟩
    | directory | link => cases isFile
  · rintro ⟨some, bytes, member⟩
    exact ⟨_, member, by simp [List.length_pos_iff.mpr some]⟩

/-- Each name is met once. -/
theorem nodup_below (h : t.Distinct) (front : List String) :
    ((t.below front).map Walked.names).Nodup := by
  have once : ((t.entries.map Prod.fst).filterMap fun place =>
      if front.isPrefixOf place && front.length < place.length then
        some (place.drop front.length) else none).Nodup := by
    refine List.Nodup.filterMap (fun a b names first second => ?_) h
    simp only [Option.mem_def, Option.ite_none_right_eq_some, Bool.and_eq_true,
      List.isPrefixOf_iff_prefix, Option.some.injEq] at first second
    obtain ⟨⟨⟨rest, rfl⟩, _⟩, dropped⟩ := first
    obtain ⟨⟨⟨rest', rfl⟩, _⟩, dropped'⟩ := second
    simp only [List.drop_left] at dropped dropped'
    rw [dropped, dropped']
  convert once using 1
  rw [below, List.map_filterMap, List.filterMap_map]
  refine List.filterMap_congr fun e _ => ?_
  simp only [Function.comp_apply, apply_ite (Option.map Walked.names), Option.map_some,
    Option.map_none]

end Below

section Root

/-- A path that leads to a place, links followed, leads to it or to a link if the last link is not
followed. -/
theorem exists_follow_of_through {links : Nat} {here place : Place} {segments : List String}
    (reached : t.follow true links here segments = .ok place) :
    ∃ met, t.follow false links here segments = .ok met ∧
      (met = place ∨ ∃ target, t.entryAt? met = some (.link target)) := by
  fun_induction FileTree.follow t true links here segments with
  | case1 links here => exact ⟨here, by rw [follow], .inl (Except.ok.inj reached)⟩
  | case3 links here segment rest directory idle ih =>
      rw [follow.eq_def]
      dsimp only
      rw [if_neg directory, if_pos idle]
      exact ih reached
  | case4 links here rest directory idle ih =>
      rw [follow.eq_def]
      dsimp only
      rw [if_neg directory, if_neg idle, if_pos rfl]
      exact ih reached
  | case9 segment rest idle up names next target found last left base directory ih =>
      have link : t.entry? (names ++ [segment]) = some (.link target) := found
      rw [follow.eq_def]
      dsimp only
      rw [if_neg directory, if_neg idle, if_neg up]
      simp only [link]
      cases atEnd : rest.isEmpty with
      | true => exact ⟨.inside next, rfl, .inr ⟨target, found⟩⟩
      | false => exact ih reached
  | case10 links segment rest idle up names next entry other found directory ih =>
      have solid : t.entry? (names ++ [segment]) = some entry := found
      rw [follow.eq_def]
      dsimp only
      rw [if_neg directory, if_neg idle, if_neg up]
      simp only [solid]
      cases entry with
      | link target => exact absurd rfl (other target)
      | file | directory => exact ih reached
  | case7 links segment rest idle up names next target found last => simp at last
  | case2 | case5 | case6 | case8 => cases reached

theorem exists_resolve_of_through {path : String} {place : Place}
    (reached : t.resolve path true = .ok place) : ∃ met, t.resolve path false = .ok met ∧
      (met = place ∨ ∃ target, t.entryAt? met = some (.link target)) := by
  rw [resolve] at reached ⊢
  cases empty : path.isEmpty with
  | true =>
      rw [empty] at reached
      cases reached
  | false =>
      rw [empty] at reached
      exact exists_follow_of_through reached

theorem exists_place_of_isDirectory {root : String} (directory : t.fileSystem.isDirectory root) :
    ∃ place, t.resolve root true = .ok place ∧ t.entryAt? place = some .directory := by
  have kind : t.kind root = .directory := eq_of_beq directory
  rw [FileTree.kind] at kind
  split at kind
  · cases kind
  next place reached =>
    split at kind
    · cases kind
    next found => exact ⟨place, reached, found⟩
    · cases kind

/-- What a walk meets below a place. -/
def met (t : FileTree) : Place → List Walked
  | .inside front => t.below front
  | .outside => []

/-- The directory from which a walk starts is no file, even where it is met as a link. -/
theorem walk_eq {root : String} {place : Place} (reached : t.resolve root true = .ok place)
    (directory : t.entryAt? place = some .directory) :
    t.fileSystem.walk root = .ok (⟨[], false⟩ :: t.met place) := by
  obtain ⟨first, reached', either⟩ := exists_resolve_of_through reached
  change t.walk root = _
  rw [walk, reached', reached]
  rcases either with rfl | ⟨target, link⟩
  · simp only [bind, Except.bind, directory]
    cases first <;> rfl
  · simp only [bind, Except.bind, link, directory]
    cases place <;> rfl

theorem mem_met_iff (h : t.Distinct) {place : Place} (some : names ≠ []) :
    ⟨names, true⟩ ∈ t.met place ↔ t.HasFile place names := by
  cases place with
  | outside => simp [met, HasFile]
  | inside front =>
      have deeper : front ++ names ≠ [] := by simp [some]
      simp only [met, HasFile, mem_below_iff, h.entry?_eq_some_iff deeper, some, true_and,
        ne_eq, not_false_eq_true]

/-- A walk from a directory meets everything once, and as files what the tree holds as files below
the directory. -/
theorem exists_walk (h : t.Distinct) {root : String} (directory : t.fileSystem.isDirectory root) :
    ∃ place walked, t.resolve root true = .ok place ∧ t.fileSystem.walk root = .ok walked ∧
      (walked.map Walked.names).Nodup ∧ ¬ t.HasFile place [] ∧
      ∀ names, ⟨names, true⟩ ∈ walked ↔ t.HasFile place names := by
  obtain ⟨place, reached, stands⟩ := exists_place_of_isDirectory directory
  have below : ∀ w ∈ t.met place, w.names ≠ [] := by
    cases place with
    | outside => simp [met]
    | inside front => exact fun _ => names_ne_nil_of_mem_below
  have noFile : ¬ t.HasFile place [] := by
    cases place with
    | outside => exact id
    | inside front =>
        rw [HasFile, List.append_nil, show t.entry? front = some .directory from stands]
        simp
  refine ⟨place, _, reached, walk_eq reached stands, ?_, noFile, fun names => ?_⟩
  · refine List.nodup_cons.mpr ⟨by simpa using below, ?_⟩
    cases place with
    | outside => exact List.nodup_nil
    | inside front => exact nodup_below h front
  · by_cases none : names = []
    · subst none
      simpa [noFile] using fun member => below _ member rfl
    · simpa [none] using mem_met_iff h none

end Root

end SqlLint.FileTree
