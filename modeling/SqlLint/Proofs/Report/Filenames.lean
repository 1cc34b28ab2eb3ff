import SqlLint.Discovery
import SqlLint.Proofs.FileSystem
import SqlLint.Proofs.Report.Lines
import SqlLint.Rules.Star

/-!
# The file names of reports

A finding carries the path that was analysed, which is the listed one joined to the source root, and
a report strips the root again; a failure carries the listed path itself. The two come out the same
for paths without idle segments at their ends, whatever the root, and for no others unless the root
is empty. The paths that a search finds are of this kind, since they are made of names of entries.
All of this is about names that are texts: two names that are no UTF-8 can be shown alike.
-/

namespace SqlLint

/-- The file name that a line tells; summaries tell none. -/
def Notice.filename? : Notice → Option String
  | .finding filename _ _ _ => some filename
  | .failure filename => some filename
  | .summary _ _ => none

/-- Whether the line for a record names a file. -/
def ReportStyle.Names (s : ReportStyle) (r : Record) (file : String) : Prop :=
  match s.format with
  | .json => (Notice.ofLine? (s.line r)).bind Notice.filename? = some file
  | .compact => ∃ rest, s.line r = file ++ ":" ++ rest

namespace ReportStyle

variable {s : ReportStyle}

theorem names_finding (f : Finding) : s.Names (.finding f) (s.displayPath f.file) := by
  obtain ⟨format, root⟩ := s
  cases format with
  | json =>
      change (Notice.ofLine? _).bind _ = _
      rw [Notice.ofLine?_line rfl]
      rfl
  | compact =>
      refine ⟨s!"{f.line}:{f.column}: {f.severity.word} [{f.rule}] {f.message}", ?_⟩
      apply String.toList_injective
      simp [line, Finding.describe, toString]

theorem names_failure (file cause : String) : s.Names (.failure file cause) file := by
  obtain ⟨format, root⟩ := s
  cases format with
  | json =>
      change (Notice.ofLine? _).bind _ = _
      rw [Notice.ofLine?_line rfl]
      rfl
  | compact =>
      refine ⟨s!" failure: {cause}", ?_⟩
      apply String.toList_injective
      simp [line, toString]

end ReportStyle

section Findings

variable {fs : FileSystem} {l : Linter} {path : String} {config : Configuration}

/-- What the linter finds in a file is about the path it was given. -/
theorem Linter.file_of_mem_analyze {found : List Finding} (h : l.analyze fs path config = .ok found)
    {f : Finding} (member : f ∈ found) : f.file = path := by
  rw [analyze] at h
  split at h
  · cases h
  · next text _ =>
      split at h
      · cases h
      · next s made =>
          cases h
          obtain ⟨_, _, same⟩ := Except.bind_eq_ok_iff.mp made
          cases same
          rw [findings, List.mem_mergeSort, List.mem_flatMap] at member
          obtain ⟨rule, _, member⟩ := member
          rw [findingsOf] at member
          split at member
          · obtain ⟨_, checked, rfl⟩ := List.mem_map.mp member
            obtain ⟨_, _, rfl⟩ := List.mem_map.mp checked
            rfl
          · cases member

/-- The records of a file are findings at the path that was analysed, or a failure of the path as
listed. -/
theorem Linter.of_mem_records {plugins : List PatternRule} {root file : String} {r : Record}
    (member : r ∈ (Run.outcome ((l.analyzer fs).analyze plugins) config root file).records) :
    (∃ f, r = .finding f ∧ f.file = Path.join root file) ∨ ∃ cause, r = .failure file cause := by
  cases analyzed : (layered l (plugins.map PatternRule.toRule)).analyze fs (Path.join root file)
      config with
  | ok found =>
      have made : Run.outcome ((l.analyzer fs).analyze plugins) config root file =
          .analyzed found := by
        simp only [Run.outcome, Linter.analyzer, analyzed]
      rw [made, Outcome.records] at member
      obtain ⟨f, within, rfl⟩ := List.mem_map.mp member
      exact .inl ⟨f, rfl, file_of_mem_analyze analyzed within⟩
  | error e =>
      have made : Run.outcome ((l.analyzer fs).analyze plugins) config root file =
          .failed file e.message := by
        simp only [Run.outcome, Linter.analyzer, analyzed]
      rw [made, Outcome.records, List.mem_singleton] at member
      exact .inr ⟨_, member⟩

end Findings

section Display

variable {format : ReportFormat} {root file : String}

theorem ReportStyle.displayPath_join_of_isTrimmed (trimmed : Path.IsTrimmed file) :
    displayPath ⟨format, some root⟩ (Path.join root file) = file := by
  simp only [displayPath, Option.bind_some, Path.stripPrefix?_join_of_isTrimmed root trimmed]

theorem ReportStyle.displayPath_join (solid : root ≠ "") (relative : Path.isAbsolute file = false) :
    displayPath ⟨format, some root⟩ (Path.join root file) =
      Path.ofSegments (Path.Parts.trim (Path.segments file)) := by
  simp only [displayPath, Option.bind_some, Path.stripPrefix?_join solid relative]

theorem ReportStyle.displayPath_of_isAbsolute (absolute : Path.isAbsolute file) :
    displayPath ⟨format, some root⟩ (Path.join root file) =
      (Path.stripPrefix? root file).getD (Path.dropFirstSegment file) := by
  rw [Path.join_of_isAbsolute absolute, displayPath, Option.bind_some]
  cases Path.stripPrefix? root file <;> rfl

/-- Unless the root is empty, a path is shown as it is listed just if it has no idle segment at
either end. -/
theorem ReportStyle.displayPath_join_eq_iff (solid : root ≠ "") :
    displayPath ⟨format, some root⟩ (Path.join root file) = file ↔ Path.IsTrimmed file := by
  refine ⟨fun same => ?_, displayPath_join_of_isTrimmed⟩
  by_cases absolute : Path.isAbsolute file
  · rw [displayPath_of_isAbsolute absolute] at same
    cases stripped : Path.stripPrefix? root file with
    | some rest =>
        rw [stripped, Option.getD_some] at same
        rw [same] at stripped
        exact absurd stripped (Path.stripPrefix?_ne_of_isAbsolute solid absolute)
    | none =>
        rw [stripped, Option.getD_none] at same
        exact absurd same (Path.dropFirstSegment_ne_of_isAbsolute absolute)
  · rw [displayPath_join solid (by simpa using absolute)] at same
    exact Path.ofSegments_trim_eq_iff.mp same

end Display

/-- What a search finds are paths made of the names met on the walk. -/
theorem Discovery.exists_walked_of_find {fs : FileSystem} {root : String} {excludes : List String}
    {paths : List String} (found : find fs root excludes = .ok paths) :
    ∃ walked, fs.walk root = .ok walked ∧
      ∀ p ∈ paths, ∃ w ∈ walked, p = Path.ofSegments w.names := by
  obtain ⟨globs, _, found⟩ := Except.bind_eq_ok_iff.mp found
  obtain ⟨walked, walks, same⟩ := Except.bind_eq_ok_iff.mp found
  cases same
  refine ⟨walked, Except.mapError_eq_ok_iff.mp walks, fun p within => ?_⟩
  obtain ⟨names, sorted, rfl⟩ := List.mem_map.mp within
  obtain ⟨w, wanted, rfl⟩ := List.mem_map.mp (List.mem_mergeSort.mp sorted)
  exact ⟨w, (List.mem_filter.mp wanted).1, rfl⟩

/-- Every path that a search finds below a root comes back as it is, however the root is spelled,
once it is joined to the root and the root is stripped again: it is what plugins see of the script,
what a finding in it shows and what a failure of it shows. It is also what is left of the path under
which the walk met the file; and different files have different paths, so that no two of them are
shown under one name, as long as names are texts. -/
theorem found_paths_come_back (fs : FileSystem) (entries : fs.NamesEntries) (root : String)
    (excludes paths : List String) (found : Discovery.find fs root excludes = .ok paths) :
    (∀ p ∈ paths,
      Path.stripPrefix? root (Path.join root p) = some p ∧
      (∀ level text s, Script.ofText (Path.join root p) root level text = .ok s →
        s.relativePath = p) ∧
      ∀ format, ReportStyle.displayPath ⟨format, some root⟩ (Path.join root p) = p ∧
        ∀ l plugins config,
          ∀ r ∈ (Run.outcome ((Linter.analyzer fs l).analyze plugins) config root p).records,
            ReportStyle.Names ⟨format, some root⟩ r p) ∧
    ∃ walked, fs.walk root = .ok walked ∧
      (∀ p ∈ paths, ∃ w ∈ walked, p = Path.ofSegments w.names) ∧
      ∀ w ∈ walked,
        Path.stripPrefix? root (w.names.foldl Path.join root) = some (Path.ofSegments w.names) ∧
        ∀ w' ∈ walked, ∀ format,
          ReportStyle.displayPath ⟨format, some root⟩ (Path.join root (Path.ofSegments w.names)) =
            ReportStyle.displayPath ⟨format, some root⟩
              (Path.join root (Path.ofSegments w'.names)) →
          w.names = w'.names := by
  obtain ⟨walked, walks, made⟩ := Discovery.exists_walked_of_find found
  have entries := entries root walked walks
  have shown {format : ReportFormat} (w : Walked) (met : w ∈ walked) :
      ReportStyle.displayPath ⟨format, some root⟩ (Path.join root (Path.ofSegments w.names)) =
        Path.ofSegments w.names :=
    ReportStyle.displayPath_join_of_isTrimmed (Path.isTrimmed_ofSegments (entries w met))
  refine ⟨fun p within => ?_, walked, walks, made,
    fun w met => ⟨?_, fun w' met' format same => ?_⟩⟩
  · obtain ⟨w, met, rfl⟩ := made p within
    have back := Path.stripPrefix?_join_of_isTrimmed root
      (Path.isTrimmed_ofSegments (entries w met))
    refine ⟨back, fun level text s read => ?_, fun format => ?_⟩
    · obtain ⟨_, _, same⟩ := Except.bind_eq_ok_iff.mp read
      cases same
      simp only [back, Option.getD_some]
    · refine ⟨shown w met, fun l plugins config r member => ?_⟩
      rcases Linter.of_mem_records member with ⟨f, rfl, located⟩ | ⟨cause, rfl⟩
      · have named := @ReportStyle.names_finding ⟨format, some root⟩ f
        rwa [located, shown w met] at named
      · exact ReportStyle.names_failure _ _
  · exact Path.stripPrefix?_foldl_join root (entries w met)
  · rw [shown w met, shown w' met'] at same
    exact Path.ofSegments_injective (entries w met) (entries w' met') same

/-- In a tree, a report shows the paths that a search has found as the search lists them. -/
theorem FileTree.NamesEntries.shown_of_find {t : FileTree} (named : t.NamesEntries)
    {root : String} {excludes paths : List String}
    (found : Discovery.find t.fileSystem root excludes = .ok paths) (format : ReportFormat) :
    paths.map (fun p => ReportStyle.displayPath ⟨format, some root⟩ (Path.join root p)) =
      paths := by
  obtain ⟨back, -⟩ := found_paths_come_back _ named.fileSystem root excludes paths found
  exact (List.map_congr_left fun p within => ((back p within).2.2 format).1).trans
    (List.map_id' paths)

/-- A failure shows the path as it is listed. A finding shows it relative to the root: unless the
root is empty, a relative path loses the idle segments at its ends, and an absolute one is shown
from below the root, or without its first separator if it lies elsewhere; below the empty root a
path only loses idle segments at its end. So the two show the same for every path without idle
segments at its ends, and, unless the root is empty, for no other path. -/
theorem filenames_by_spelling (root file : String) (format : ReportFormat) :
    (∀ fs l plugins config,
      ∀ r ∈ (Run.outcome ((Linter.analyzer fs l).analyze plugins) config root file).records,
        (∀ f, r = .finding f → ReportStyle.Names ⟨format, some root⟩ r
          (ReportStyle.displayPath ⟨format, some root⟩ (Path.join root file))) ∧
        ∀ listed cause, r = .failure listed cause →
          ReportStyle.Names ⟨format, some root⟩ r file) ∧
    (Path.IsTrimmed file →
      ReportStyle.displayPath ⟨format, some root⟩ (Path.join root file) = file) ∧
    (root ≠ "" →
      (ReportStyle.displayPath ⟨format, some root⟩ (Path.join root file) = file ↔
        Path.IsTrimmed file) ∧
      (Path.isAbsolute file = false →
        ReportStyle.displayPath ⟨format, some root⟩ (Path.join root file) =
          Path.ofSegments (Path.Parts.trim (Path.segments file))) ∧
      (Path.isAbsolute file →
        ReportStyle.displayPath ⟨format, some root⟩ (Path.join root file) =
          (Path.stripPrefix? root file).getD (Path.dropFirstSegment file))) ∧
    (root = "" →
      ReportStyle.displayPath ⟨format, some root⟩ (Path.join root file) =
        (Path.parts file).text) := by
  refine ⟨fun fs l plugins config r member => ?_, ReportStyle.displayPath_join_of_isTrimmed,
    fun solid => ⟨ReportStyle.displayPath_join_eq_iff solid, ReportStyle.displayPath_join solid,
      ReportStyle.displayPath_of_isAbsolute⟩, ?_⟩
  · rcases Linter.of_mem_records member with ⟨f, rfl, located⟩ | ⟨cause, rfl⟩
    · refine ⟨fun _ _ => ?_, fun _ _ other => by cases other⟩
      rw [← located]
      exact ReportStyle.names_finding f
    · exact ⟨fun _ other => (by cases other), fun _ _ _ => ReportStyle.names_failure _ _⟩
  · rintro rfl
    simp only [Path.join_empty, ReportStyle.displayPath, Option.bind_some, Path.stripPrefix?_empty]

theorem filenames_by_spelling_of_spellings :
    ReportStyle.displayPath ⟨.json, some "sql/."⟩ (Path.join "sql/." "procs//a.sql") =
      "procs//a.sql" ∧
    ReportStyle.displayPath ⟨.json, some "sql"⟩ (Path.join "sql" "././procs//a.sql") =
      "procs//a.sql" ∧
    ReportStyle.displayPath ⟨.json, some "/r"⟩ (Path.join "/r" "/r//a.sql") = "a.sql" ∧
    ReportStyle.displayPath ⟨.json, some "/r"⟩ (Path.join "/r" "/s/a.sql") = "s/a.sql" ∧
    ReportStyle.displayPath ⟨.json, some ""⟩ (Path.join "" "./a.sql/.") = "./a.sql" := by
  refine ⟨?_, ?_, ?_, ?_, ?_⟩
  · refine (filenames_by_spelling "sql/." "procs//a.sql" .json).2.1 (.inr ⟨?_, ?_⟩) <;>
      decide +kernel
  · rw [((filenames_by_spelling "sql" "././procs//a.sql" .json).2.2.1 (by decide)).2.1 (by decide)]
    decide +kernel
  · rw [((filenames_by_spelling "/r" "/r//a.sql" .json).2.2.1 (by decide)).2.2 (by decide)]
    decide +kernel
  · rw [((filenames_by_spelling "/r" "/s/a.sql" .json).2.2.1 (by decide)).2.2 (by decide)]
    decide +kernel
  · rw [(filenames_by_spelling "" "./a.sql/." .json).2.2.2 rfl]
    decide +kernel

/-- A file system in which every file holds the same. -/
def holding (contents : Except AccessError String) : FileSystem where
  kind _ := .file
  read _ := contents
  walk _ := .error .notFound

/-- The records of `./a.sql` below `sql`, when the file holds something. -/
def recordsOfDotted (contents : Except AccessError String) : List Record :=
  (Run.outcome (((Linter.base "sql" [Rules.selectStar]).analyzer (holding contents)).analyze [])
    (.ofKnown ["select-star"]) "sql" "./a.sql").records

/-- A finding shows a file without its `.` component, a failure shows it with it. -/
theorem filenames_of_dotted_differ :
    ∃ finding failure, recordsOfDotted (.ok "SELECT*") = [finding] ∧
      recordsOfDotted (.error .notText) = [failure] ∧
      ReportStyle.line ⟨.json, some "sql"⟩ finding =
        "\x7b\"filename\":\"a.sql\",\"line\":1,\"message\":\"Expected column names in SELECT\","
          ++ "\"patternId\":\"select-star\"\x7d" ∧
      ReportStyle.line ⟨.json, some "sql"⟩ failure =
        "\x7b\"filename\":\"./a.sql\",\"message\":\"could not parse the file\"\x7d" := by
  have found : recordsOfDotted (.ok "SELECT*") = [.finding
      ⟨"sql/./a.sql", 1, 7, "select-star", .error, "Expected column names in SELECT"⟩] := by
    decide +kernel
  refine ⟨_, .failure "./a.sql" _, found, rfl, ?_, ?_⟩
  · decide +kernel
  · rw [line_failure rfl]
    decide +kernel

end SqlLint
