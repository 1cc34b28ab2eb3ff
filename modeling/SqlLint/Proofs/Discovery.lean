import SqlLint.Discovery
import SqlLint.Proofs.FileSystem.Walk
import SqlLint.Proofs.Sorting

/-!
# The scripts that are found

The patterns of a run are read first, and one that is no pattern ends the search whatever the files
are. Then the search finds the regular files below the root whose names end in a point and `sql`, in
either case, with something before the point, unless a pattern matches their path. They come in the
order of the components of their paths, each once; so one more pattern takes away the paths it
matches and changes nothing else.
-/

namespace SqlLint

section Extension

variable {name extension : String}

/-- The extension of a name is what follows its last point, unless nothing stands before that. -/
theorem Path.splitExtension_eq_some_iff : (Path.splitExtension name).2 = some extension ↔
    '.' ∉ extension.toList ∧ ∃ stem, stem ≠ "" ∧ name = stem ++ "." ++ extension := by
  have parts := List.takeWhile_append_dropWhile (p := (· ≠ '.')) (l := name.toList.reverse)
  constructor
  · intro split
    rw [Path.splitExtension] at split
    match left : name.toList.reverse.dropWhile (· ≠ '.') with
    | [] => rw [left] at split; cases split
    | [_] => rw [left] at split; cases split
    | point :: c :: stem =>
        rw [left] at split
        obtain rfl := Option.some.inj split
        obtain rfl : point = '.' := by
          have first := List.head?_dropWhile_not (· ≠ '.') name.toList.reverse
          rw [left] at first
          simpa using first
        refine ⟨?_, String.ofList (c :: stem).reverse, by simp, ?_⟩
        · intro inside
          rw [String.toList_ofList, List.mem_reverse] at inside
          simpa using List.mem_takeWhile_imp inside
        · apply String.toList_injective
          have whole := congrArg List.reverse parts
          rw [left, List.reverse_reverse] at whole
          exact whole.symm.trans (by simp)
  · rintro ⟨plain, stem, some, rfl⟩
    have before : ∀ c ∈ extension.toList.reverse, decide (c ≠ '.') = true := by
      intro c inside
      simpa using fun same : c = '.' => plain (by simpa [same] using inside)
    obtain ⟨front, c, rfl⟩ : ∃ front c, stem = String.ofList (front ++ [c]) := by
      rcases List.eq_nil_or_concat' stem.toList with none | ⟨front, c, written⟩
      · exact absurd (String.toList_eq_nil_iff.mp none) some
      · exact ⟨front, c, String.toList_injective (by simpa using written)⟩
    have backwards : (String.ofList (front ++ [c]) ++ "." ++ extension).toList.reverse =
        extension.toList.reverse ++ '.' :: c :: front.reverse := by
      simp
    rw [Path.splitExtension, backwards, List.takeWhile_append_of_pos before,
      List.dropWhile_append_of_pos before]
    simp

end Extension

namespace Discovery

/-- Whether a name ends in the extension of scripts, with something before it. -/
def IsScriptName (name : String) : Prop := ∃ stem extension, stem ≠ "" ∧
  name = stem ++ "." ++ extension ∧ Ascii.sameIgnoringCase extension "sql"

/-- Whether no pattern of a list matches a path. -/
def Spares (patterns : List String) (path : String) : Prop :=
  ∀ pattern ∈ patterns, ∀ glob, Glob.parse pattern = .ok glob → glob.isMatch (shown path) = false

/-- The extension of scripts in upper case. -/
theorem map_toUpper_of_sameIgnoringCase {extension : String}
    (same : Ascii.sameIgnoringCase extension "sql") :
    extension.toList.map Char.toUpper = ['S', 'Q', 'L'] := by
  have upper : extension.toUpper = "SQL" := (eq_of_beq same).trans (by decide +kernel)
  rw [← String.toList_map]
  exact congrArg String.toList upper

theorem isScriptPath_iff {name : String} (entry : Path.IsEntryName name) :
    isScriptPath name ↔ IsScriptName name := by
  have nonempty : name ≠ "" := by
    rintro rfl
    cases entry.solid
  have noDot : name ≠ "." := by
    rintro rfl
    cases entry.solid
  have parts : Path.parts name = ⟨.none, [name]⟩ := by
    rw [Path.parts_of_segments (Path.segments_entry entry) (absurd · nonempty), if_neg nonempty,
      if_neg noDot]
  have names : (Path.parts name).names = [name] := by
    simp [parts, Path.Parts.names, entry.solid]
  rw [isScriptPath, Path.extension?, Path.fileName?, names, List.getLast?_singleton]
  split
  next up =>
    -- The directory above is no script, and its name is too short to be one.
    obtain rfl := Option.some.inj up
    have short : ¬ IsScriptName ".." := by
      rintro ⟨stem, extension, _, written, same⟩
      have length := congrArg List.length (map_toUpper_of_sameIgnoringCase same)
      have whole := congrArg (fun s : String => s.toList.length) written
      simp at length whole
      omega
    simp [short]
  next =>
    simp only [Option.bind_some, Option.any_eq_true, Path.splitExtension_eq_some_iff]
    constructor
    · rintro ⟨extension, ⟨_, stem, some, written⟩, same⟩
      exact ⟨stem, extension, some, written, same⟩
    · rintro ⟨stem, extension, some, written, same⟩
      have plain : '.' ∉ extension.toList := by
        intro inside
        have upper := List.mem_map_of_mem (f := Char.toUpper) inside
        rw [map_toUpper_of_sameIgnoringCase same] at upper
        revert upper
        decide
      exact ⟨extension, ⟨plain, stem, some, written⟩, same⟩

variable {fs : FileSystem} {root : String} {excludes paths : List String} {globs : List Glob}
variable {walked : List Walked} {p : String}

theorem componentsLe_eq : componentsLe = fun a b => decide (id a ≤ id b) := by
  funext a b
  rw [componentsLe, decide_eq_decide, not_lt, id, id]

/-- The paths of what is wanted of a walk. -/
def wantedPaths (root : String) (globs : List Glob) (walked : List Walked) : List String :=
  (((walked.filter (isWanted root globs)).map Walked.names).mergeSort componentsLe).map
    Path.ofSegments

theorem mapM_parse_eq_ok_iff :
    (defaultExcludes ++ excludes).mapM (fun pattern =>
      (Glob.parse pattern).mapError DiscoveryError.invalidExclude) = .ok globs ↔
    List.Forall₂ (Glob.parse · = .ok ·) (defaultExcludes ++ excludes) globs := by
  simp only [Except.mapM_eq_ok_iff, Except.mapError_eq_ok_iff]

/-- Reading the patterns and walking are all that can fail. -/
theorem find_eq_ok_iff : find fs root excludes = .ok paths ↔ ∃ globs walked,
    List.Forall₂ (Glob.parse · = .ok ·) (defaultExcludes ++ excludes) globs ∧
    fs.walk root = .ok walked ∧ wantedPaths root globs walked = paths := by
  rw [find, Except.bind_eq_ok_iff]
  simp only [mapM_parse_eq_ok_iff, Except.bind_eq_ok_iff, Except.mapError_eq_ok_iff]
  constructor
  · rintro ⟨globs, parsed, walked, walks, same⟩
    exact ⟨globs, walked, parsed, walks, Except.ok.inj same⟩
  · rintro ⟨globs, walked, parsed, walks, rfl⟩
    exact ⟨globs, parsed, walked, walks, rfl⟩

theorem exists_parse_of_default :
    ∀ pattern ∈ defaultExcludes, ∃ glob, Glob.parse pattern = .ok glob := by
  simp only [defaultExcludes, List.forall_mem_cons]
  refine ⟨⟨_, by cbv⟩, ⟨_, by cbv⟩, ⟨_, by cbv⟩, ⟨_, by cbv⟩, by simp⟩

theorem exists_globs {patterns : List String}
    (valid : ∀ pattern ∈ patterns, ∃ glob, Glob.parse pattern = .ok glob) :
    ∃ globs, List.Forall₂ (Glob.parse · = .ok ·) patterns globs := by
  cases read : patterns.mapM Glob.parse with
  | ok globs => exact ⟨globs, Except.mapM_eq_ok_iff.mp read⟩
  | error problem =>
      obtain ⟨before, first, after, rfl, _, invalid⟩ := Except.mapM_eq_error_iff.mp read
      obtain ⟨glob, parsed⟩ := valid first (by simp)
      rw [invalid] at parsed
      cases parsed

/-- If one of the patterns is none, there is a first such one. -/
theorem exists_first_invalid {patterns : List String} {pattern : String} {problem : GlobError}
    (member : pattern ∈ patterns) (invalid : Glob.parse pattern = .error problem) :
    ∃ before first after problem, patterns = before ++ first :: after ∧
      (∀ earlier ∈ before, ∃ glob, Glob.parse earlier = .ok glob) ∧
      Glob.parse first = .error problem := by
  cases read : patterns.mapM Glob.parse with
  | error problem =>
      obtain ⟨before, first, after, split, valid, failed⟩ := Except.mapM_eq_error_iff.mp read
      exact ⟨before, first, after, problem, split, valid, failed⟩
  | ok globs =>
      obtain ⟨front, back, rfl⟩ := List.mem_iff_append.mp member
      have parsed := List.forall₂_drop front.length (Except.mapM_eq_ok_iff.mp read)
      rw [List.drop_left, List.forall₂_cons_left_iff] at parsed
      obtain ⟨glob, _, valid, _⟩ := parsed
      rw [invalid] at valid
      cases valid

/-- A pattern that is none ends the search before the files are looked at. -/
theorem find_eq_error {before after : List String} {pattern : String} {problem : GlobError}
    (valid : ∀ earlier ∈ before, ∃ glob, Glob.parse earlier = .ok glob)
    (invalid : Glob.parse pattern = .error problem) (fs : FileSystem) (root : String) :
    find fs root (before ++ pattern :: after) = .error (.invalidExclude problem) := by
  rw [find, Except.bind_eq_error_iff]
  refine .inl (Except.mapM_eq_error_iff.mpr ⟨defaultExcludes ++ before, pattern, after, ?_, ?_, ?_⟩)
  · simp
  · intro earlier member
    have readable : ∃ glob, Glob.parse earlier = .ok glob := by
      rcases List.mem_append.mp member with default | added
      · exact exists_parse_of_default earlier default
      · exact valid earlier added
    obtain ⟨glob, parsed⟩ := readable
    exact ⟨glob, Except.mapError_eq_ok_iff.mpr parsed⟩
  · exact Except.mapError_eq_error_iff.mpr ⟨problem, invalid, rfl⟩

/-- One more pattern takes away what it matches. -/
theorem find_append_exclude {pattern : String} {glob : Glob}
    (found : find fs root excludes = .ok paths) (parsed : Glob.parse pattern = .ok glob) :
    find fs root (excludes ++ [pattern]) =
      .ok (paths.filter fun p => !glob.isMatch (shown p)) := by
  obtain ⟨globs, walked, read, walks, rfl⟩ := find_eq_ok_iff.mp found
  have wanted : isWanted root (globs ++ [glob]) =
      fun w => !glob.isMatch (shown (Path.ofSegments w.names)) && isWanted root globs w := by
    funext w
    simp only [isWanted, List.any_append, List.any_cons, List.any_nil, Bool.or_false, Bool.not_or]
    rw [← Bool.and_assoc, Bool.and_comm]
  refine find_eq_ok_iff.mpr ⟨globs ++ [glob], walked, ?_, walks, ?_⟩
  · rw [← List.append_assoc]
    exact List.rel_append read (.cons parsed .nil)
  · rw [wantedPaths, wantedPaths, wanted, ← List.filter_filter, componentsLe_eq, List.filter_map,
      List.filter_mergeSort_key, List.filter_map]
    rfl

theorem mem_wantedPaths_iff : p ∈ wantedPaths root globs walked ↔
    ∃ w ∈ walked, isWanted root globs w ∧ Path.ofSegments w.names = p := by
  simp only [wantedPaths, List.mem_map, List.mem_mergeSort, List.mem_filter]
  constructor
  · rintro ⟨_, ⟨w, ⟨met, wanted⟩, rfl⟩, same⟩
    exact ⟨w, met, wanted, same⟩
  · rintro ⟨w, met, wanted, same⟩
    exact ⟨w.names, ⟨w, ⟨met, wanted⟩, rfl⟩, same⟩

theorem any_isMatch_eq_false_iff {patterns : List String}
    (parsed : List.Forall₂ (Glob.parse · = .ok ·) patterns globs) :
    globs.any (·.isMatch (shown p)) = false ↔ Spares patterns p := by
  induction parsed with
  | nil => simp [Spares]
  | @cons pattern glob patterns globs here _ ih =>
      rw [List.any_cons, Bool.or_eq_false_iff, ih, Spares, Spares, List.forall_mem_cons]
      refine and_congr_left fun _ => ⟨fun spared other same => ?_, fun spared => spared glob here⟩
      obtain rfl := Except.ok.inj (here.symm.trans same)
      exact spared

/-- What is wanted of a walk are the files with the names of scripts whose paths no pattern
matches. -/
theorem isWanted_iff {front : List String} {name : String}
    (parsed : List.Forall₂ (Glob.parse · = .ok ·) (defaultExcludes ++ excludes) globs)
    (entry : Path.IsEntryName name) {isFile : Bool} :
    isWanted root globs ⟨front ++ [name], isFile⟩ ↔ isFile ∧ IsScriptName name ∧
      Spares (defaultExcludes ++ excludes) (Path.ofSegments (front ++ [name])) := by
  rw [isWanted, Bool.and_eq_true, Bool.and_eq_true, Bool.not_eq_true', and_assoc,
    any_isMatch_eq_false_iff parsed, List.getLast?_concat, Option.getD_some, isScriptPath_iff entry]

/-- The paths come in the order of their components, each once. -/
theorem pairwise_wantedPaths (once : (walked.map Walked.names).Nodup)
    (deep : ∀ w ∈ walked, w.isFile → w.names ≠ [])
    (entries : ∀ w ∈ walked, ∀ name ∈ w.names, Path.IsEntryName name) :
    (wantedPaths root globs walked).Pairwise fun a b => Path.segments a < Path.segments b := by
  let names := (walked.filter (isWanted root globs)).map Walked.names
  have distinct : (names.mergeSort componentsLe).Nodup :=
    (List.mergeSort_perm names componentsLe).nodup_iff.mpr
      (once.sublist (List.filter_sublist.map _))
  have ordered : (names.mergeSort componentsLe).Pairwise (· ≤ ·) := by
    rw [componentsLe_eq]
    exact List.sorted_mergeSort_key id names
  have segmented : ∀ n ∈ names.mergeSort componentsLe, Path.segments (Path.ofSegments n) = n := by
    intro n member
    obtain ⟨w, wanted, rfl⟩ := List.mem_map.mp (List.mem_mergeSort.mp member)
    obtain ⟨met, wanted⟩ := List.mem_filter.mp wanted
    simp only [isWanted, Bool.and_eq_true] at wanted
    exact Path.segments_entries (entries w met) (deep w met wanted.1.1)
  rw [wantedPaths, List.pairwise_map]
  refine (ordered.and distinct).imp_of_mem ?_
  rintro a b ha hb ⟨below, apart⟩
  rw [segmented a ha, segmented b hb]
  exact lt_of_le_of_ne below apart

/-- The wanted paths are those of the files below a place which have the name of a script and which
no pattern matches. -/
theorem mem_wantedPaths_iff_of_files {t : FileTree} {place : FileTree.Place}
    (parsed : List.Forall₂ (Glob.parse · = .ok ·) (defaultExcludes ++ excludes) globs)
    (entries : ∀ w ∈ walked, ∀ name ∈ w.names, Path.IsEntryName name)
    (noRoot : ¬ t.HasFile place [])
    (files : ∀ names, ⟨names, true⟩ ∈ walked ↔ t.HasFile place names) :
    p ∈ wantedPaths root globs walked ↔ ∃ front name, p = Path.ofSegments (front ++ [name]) ∧
      t.HasFile place (front ++ [name]) ∧ IsScriptName name ∧
      Spares (defaultExcludes ++ excludes) p := by
  rw [mem_wantedPaths_iff]
  constructor
  · rintro ⟨⟨names, isFile⟩, met, wanted, rfl⟩
    obtain rfl : isFile = true := by
      simp only [isWanted, Bool.and_eq_true] at wanted
      exact wanted.1.1
    have file := (files names).mp met
    obtain ⟨front, name, rfl⟩ : ∃ front name, names = front ++ [name] := by
      refine (List.eq_nil_or_concat' names).resolve_left ?_
      rintro rfl
      exact noRoot file
    have entry : Path.IsEntryName name := entries _ met name (by simp)
    obtain ⟨_, script, spared⟩ := (isWanted_iff parsed entry).mp wanted
    exact ⟨front, name, rfl, file, script, spared⟩
  · rintro ⟨front, name, rfl, file, script, spared⟩
    have met : ⟨front ++ [name], true⟩ ∈ walked := (files _).mpr file
    have entry : Path.IsEntryName name := entries _ met name (by simp)
    have wanted : isWanted root globs ⟨front ++ [name], true⟩ :=
      (isWanted_iff parsed entry).mpr ⟨rfl, script, spared⟩
    exact ⟨_, met, wanted, rfl⟩

/-- If one of the patterns is none, the search fails with the first such one, whatever the files
are. Otherwise it finds, in the order of components and each once, the paths of the regular files
below the root which have the name of a script and which no pattern matches; and one more pattern
takes away just the paths that it matches. -/
theorem finds_scripts_in_order (excludes : List String) :
    (∀ pattern ∈ excludes, ∀ problem, Glob.parse pattern = .error problem →
      ∃ first ∈ excludes, ∃ problem, Glob.parse first = .error problem ∧
        ∀ fs root, find fs root excludes = .error (.invalidExclude problem)) ∧
    ((∀ pattern ∈ excludes, ∃ glob, Glob.parse pattern = .ok glob) →
      ∀ t : FileTree, t.Distinct → t.NamesEntries → ∀ root, t.fileSystem.isDirectory root →
      ∃ place paths, t.resolve root true = .ok place ∧ find t.fileSystem root excludes = .ok paths ∧
        paths.Pairwise (fun a b => Path.segments a < Path.segments b) ∧
        (∀ p, p ∈ paths ↔ ∃ front name, p = Path.ofSegments (front ++ [name]) ∧
          t.HasFile place (front ++ [name]) ∧ IsScriptName name ∧
          Spares (defaultExcludes ++ excludes) p) ∧
        ∀ pattern glob, Glob.parse pattern = .ok glob →
          find t.fileSystem root (excludes ++ [pattern]) =
            .ok (paths.filter fun p => !glob.isMatch (shown p))) := by
  constructor
  · intro pattern member problem invalid
    obtain ⟨before, first, after, problem, rfl, valid, failed⟩ :=
      exists_first_invalid member invalid
    exact ⟨first, by simp, problem, failed, find_eq_error valid failed⟩
  · intro valid t distinct named root directory
    obtain ⟨place, walked, reached, walks, once, noRoot, files⟩ :=
      FileTree.exists_walk distinct directory
    have entries := named.fileSystem root walked walks
    have deep : ∀ w ∈ walked, w.isFile → w.names ≠ [] := by
      rintro ⟨names, isFile⟩ met rfl rfl
      exact noRoot ((files []).mp met)
    obtain ⟨globs, parsed⟩ : ∃ globs,
        List.Forall₂ (Glob.parse · = .ok ·) (defaultExcludes ++ excludes) globs :=
      exists_globs fun pattern among =>
        (List.mem_append.mp among).elim (exists_parse_of_default pattern) (valid pattern)
    have found := find_eq_ok_iff.mpr ⟨globs, walked, parsed, walks, rfl⟩
    exact ⟨place, _, reached, found, pairwise_wantedPaths once deep entries,
      fun p => mem_wantedPaths_iff_of_files parsed entries noRoot files,
      fun pattern glob => find_append_exclude found⟩

/-- Scripts in two directories, a file with nothing before its point, a directory and a link with
the names of scripts, and a script with a backslash in its name. -/
def scattered : FileTree :=
  (((((FileTree.empty.put "src/a.b/y.SQL" (.file .empty)).put "src/a/z.sql" (.file .empty)).put
    "src/.sql" (.file .empty)).put "src/x.sql/n.txt" (.file .empty)).put
    "src/l.sql" (.link "a/z.sql")).put "src/old\\d.sql" (.file .empty)

theorem finds_scripts_in_order_of_scattered : ∃ paths,
    find scattered.fileSystem "src" ["old/**"] = .ok paths ∧ paths = ["a/z.sql", "a.b/y.SQL"] ∧
    paths.Pairwise (fun a b => Path.segments a < Path.segments b) ∧
    find scattered.fileSystem "src" ["old/**", "a/*"] = .ok ["a.b/y.SQL"] ∧
    ∃ problem, ∀ fs root, find fs root ["a/*", "["] = .error (.invalidExclude problem) := by
  have entries : scattered.entries = [(["src"], .directory), (["src", "a.b"], .directory),
      (["src", "a.b", "y.SQL"], .file .empty), (["src", "a"], .directory),
      (["src", "a", "z.sql"], .file .empty), (["src", ".sql"], .file .empty),
      (["src", "x.sql"], .directory), (["src", "x.sql", "n.txt"], .file .empty),
      (["src", "l.sql"], .link "a/z.sql"), (["src", "old\\d.sql"], .file .empty)] := by
    cbv
  have place (through : Bool) : scattered.resolve "src" through = .ok (.inside ["src"]) := by
    have segments : Path.segments "src" = ["src"] := by decide +kernel
    simp [FileTree.resolve, Path.isAbsolute, segments, FileTree.follow, FileTree.entryAt?,
      FileTree.entry?, entries, TreeEntry.isDirectory, Path.isIdle]
  have stands : scattered.entryAt? (.inside ["src"]) = some .directory := by
    simp [FileTree.entryAt?, FileTree.entry?, entries]
  have walks : scattered.fileSystem.walk "src" = .ok [⟨[], false⟩, ⟨["a.b"], false⟩,
      ⟨["a.b", "y.SQL"], true⟩, ⟨["a"], false⟩, ⟨["a", "z.sql"], true⟩, ⟨[".sql"], true⟩,
      ⟨["x.sql"], false⟩, ⟨["x.sql", "n.txt"], true⟩, ⟨["l.sql"], false⟩,
      ⟨["old\\d.sql"], true⟩] := by
    rw [FileTree.walk_eq (place true) stands]
    simp [FileTree.met, FileTree.below, entries]
  have computed : find scattered.fileSystem "src" ["old/**"] = .ok ["a/z.sql", "a.b/y.SQL"] := by
    rw [find, walks]
    cbv
  have directory : scattered.fileSystem.isDirectory "src" := by
    change (scattered.kind "src" == .directory) = true
    rw [FileTree.kind, place]
    simp only [stands]
    rfl
  have distinct : scattered.Distinct :=
    (((((FileTree.distinct_empty.put _ _).put _ _).put _ _).put _ _).put _ _).put _ _
  have named : scattered.NamesEntries :=
    (((((FileTree.namesEntries_empty.put _ _).put _ _).put _ _).put _ _).put _ _).put _ _
  obtain ⟨_, found⟩ := finds_scripts_in_order ["old/**"]
  have valid : ∀ pattern ∈ ["old/**"], ∃ glob, Glob.parse pattern = .ok glob :=
    List.forall_mem_singleton.mpr ⟨_, by cbv⟩
  obtain ⟨_, paths, _, found, ordered, _, fewer⟩ :=
    found valid scattered distinct named "src" directory
  obtain rfl := Except.ok.inj (computed.symm.trans found)
  obtain ⟨invalid, _⟩ := finds_scripts_in_order ["a/*", "["]
  obtain ⟨_, _, problem, _, failed⟩ := invalid "[" (by simp) ⟨0, .range⟩ (by cbv)
  obtain ⟨glob, parsed, left⟩ : ∃ glob, Glob.parse "a/*" = .ok glob ∧
      (["a/z.sql", "a.b/y.SQL"].filter fun p => !glob.isMatch (shown p)) = ["a.b/y.SQL"] :=
    ⟨_, by cbv, by cbv⟩
  refine ⟨_, computed, rfl, ordered, ?_, problem, failed⟩
  exact (fewer "a/*" glob parsed).trans (congrArg Except.ok left)

end Discovery
end SqlLint
