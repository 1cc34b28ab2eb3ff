import Mathlib
import SqlLint.Path

/-!
# Paths joined and stripped again

Joining works on texts and stripping on components, and both are seen here as working on the
segments of texts. A text is its segments with separators between them. Joining puts the segments of
a relative path behind those of the base; stripping passes over as many of them as the base has
names, and idle segments at either end are lost on the way. So a relative path comes back as it was
just if it has none there.
-/

namespace SqlLint.Path

section Segments

variable {path : String} {names : List String}

theorem split_eq_splitOn (cs : List Char) : split cs = cs.splitOn '/' := by
  induction cs with
  | nil => rfl
  | cons c cs ih =>
      rw [split, ih, List.splitOn_cons_eq_if_modifyHead]
      cases some : cs.splitOn '/' with
      | nil => exact absurd some (List.splitOn_ne_nil _ _)
      | cons first others => by_cases separator : c = '/' <;> simp [separator]

theorem segments_ne_nil (path : String) : segments path ≠ [] := by
  simp [segments, split_eq_splitOn]

theorem ofSegments_segments (path : String) : ofSegments (segments path) = path := by
  apply String.toList_injective
  have back : String.toList ∘ String.ofList = id := funext fun _ => String.toList_ofList
  rw [ofSegments, String.toList_intercalate, segments, List.map_map, back, List.map_id,
    split_eq_splitOn]
  exact List.intercalate_splitOn '/'

theorem segments_ofSegments (whole : ∀ name ∈ names, '/' ∉ name.toList) (some : names ≠ []) :
    segments (ofSegments names) = names := by
  have whole' : ∀ cs ∈ names.map String.toList, '/' ∉ cs := by simpa using whole
  have apart := List.splitOn_intercalate '/' whole' (by simpa using some)
  have back : String.ofList ∘ String.toList = id := funext fun _ => String.ofList_toList
  rw [segments, ofSegments, split_eq_splitOn, String.toList_intercalate]
  change (List.splitOn '/' (['/'].intercalate _)).map _ = _
  rw [apart, List.map_map, back, List.map_id]

/-- A separator between two texts ends a segment. -/
theorem segments_append (first second : String) :
    segments (first ++ "/" ++ second) = segments first ++ segments second := by
  have between : (first ++ "/" ++ second).toList = first.toList ++ '/' :: second.toList := by simp
  rw [segments, between, split_eq_splitOn, List.splitOn_append_cons_self, List.map_append,
    ← split_eq_splitOn, ← split_eq_splitOn]
  rfl

theorem not_mem_of_mem_segments {segment : String} (within : segment ∈ segments path) :
    '/' ∉ segment.toList := by
  have whole : ∀ (cs : List Char), ∀ part ∈ split cs, '/' ∉ part := by
    intro cs
    induction cs with
    | nil => simp [split]
    | cons c cs ih =>
        rw [split]
        cases some : split cs with
        | nil => simp [split_eq_splitOn] at some
        | cons first others =>
            rw [some, List.forall_mem_cons] at ih
            by_cases separator : c = '/'
            · simpa [separator] using ih
            · simpa [separator, Ne.symm separator] using ih
  obtain ⟨part, member, rfl⟩ := List.mem_map.mp within
  simpa using whole _ part member

theorem eq_empty_of_segments (only : segments path = [""]) : path = "" := by
  rw [← ofSegments_segments path, only]
  rfl

/-- The segments of an absolute path begin with an empty one. -/
theorem exists_segments_of_isAbsolute (absolute : isAbsolute path) :
    ∃ rest, segments path = "" :: rest := by
  rw [isAbsolute, beq_iff_eq] at absolute
  obtain ⟨cs, written⟩ := List.head?_eq_some_iff.mp absolute
  rw [segments, written, split]
  cases some : split cs with
  | nil => simp [split_eq_splitOn] at some
  | cons first others => exact ⟨(first :: others).map String.ofList, by simp⟩

end Segments

section Parts

variable {base path : String}

theorem parts_of_segments {first : String} {rest : List String}
    (written : segments path = first :: rest) (solid : first = "" → rest ≠ []) :
    parts path =
      if first = "" then ⟨.root, rest⟩
      else if first = "." then ⟨.current, rest⟩
      else ⟨.none, first :: rest⟩ := by
  rw [parts, written]
  by_cases empty : first = ""
  · subst empty
    simp [solid rfl]
  · by_cases dot : first = "."
    · subst dot
      simp
    · rw [if_neg empty, if_neg dot]
      split
      · next same => exact absurd (List.cons.inj same).1 empty
      · next same => exact absurd (List.cons.inj same).1 dot
      · rfl

/-- The segments of a relative path follow those of the base, of which an empty last one is lost. -/
theorem exists_segments_join (solid : base ≠ "") (relative : isAbsolute path = false) :
    ∃ first before trail, (∀ segment ∈ trail, isIdle segment) ∧
      segments base = first :: (before ++ trail) ∧
      segments (join base path) = first :: (before ++ segments path) := by
  have filled : base.isEmpty = false := by simpa using solid
  by_cases ends : base.toList.getLast? = some '/'
  · obtain ⟨front, written⟩ := List.getLast?_eq_some_iff.mp ends
    obtain rfl : base = String.ofList front ++ "/" := by
      apply String.toList_injective
      simpa using written
    obtain ⟨first, before, opened⟩ :=
      List.exists_cons_of_ne_nil (segments_ne_nil (String.ofList front))
    refine ⟨first, before, [""], by simp [isIdle], ?_, ?_⟩
    · have apart := segments_append (String.ofList front) ""
      rw [String.append_empty, opened] at apart
      exact apart
    · rw [join, relative, filled, if_neg (by simp), if_pos (by simp), segments_append,
        opened]
      rfl
  · obtain ⟨first, before, opened⟩ := List.exists_cons_of_ne_nil (segments_ne_nil base)
    refine ⟨first, before, [], by simp, by rw [opened, List.append_nil], ?_⟩
    rw [join, relative, filled, if_neg (by simp), if_neg (by simpa using ends), segments_append,
      opened]
    rfl

/-- A base and a relative path under it are anchored alike, and at a name if at nothing else. -/
theorem exists_parts_join (solid : base ≠ "") (relative : isAbsolute path = false) :
    ∃ anchor before trail, (∀ segment ∈ trail, isIdle segment) ∧
      parts base = ⟨anchor, before ++ trail⟩ ∧
      parts (join base path) = ⟨anchor, before ++ segments path⟩ ∧
      (anchor = .none → ∃ segment ∈ before, isIdle segment = false) := by
  obtain ⟨first, before, trail, idle, written, joined⟩ := exists_segments_join solid relative
  have solid₁ : first = "" → before ++ trail ≠ [] := by
    rintro rfl none
    rw [none] at written
    exact solid (eq_empty_of_segments written)
  have solid₂ : first = "" → before ++ segments path ≠ [] := by
    simp [segments_ne_nil path]
  rw [parts_of_segments written solid₁, parts_of_segments joined solid₂]
  by_cases empty : first = ""
  · rw [if_pos empty, if_pos empty]
    exact ⟨.root, before, trail, idle, rfl, rfl, by simp⟩
  · rw [if_neg empty, if_neg empty]
    by_cases dot : first = "."
    · rw [if_pos dot, if_pos dot]
      exact ⟨.current, before, trail, idle, rfl, rfl, by simp⟩
    · rw [if_neg dot, if_neg dot]
      refine ⟨.none, first :: before, trail, idle, rfl, rfl, fun _ => ?_⟩
      exact ⟨first, List.mem_cons_self, by simp [isIdle, empty, dot]⟩

end Parts

namespace Parts

variable {idle before rest segments : List String}

/-- Passing over the names of some segments leads through all of these, up to idle ones. -/
theorem dropNames_filter (before rest : List String) :
    ∃ idle, (∀ segment ∈ idle, isIdle segment) ∧
      dropNames (before.filter (!isIdle ·)) (before ++ rest) = some (idle ++ rest) := by
  induction before with
  | nil => exact ⟨[], by simp, by simp [dropNames]⟩
  | cons segment before ih =>
      by_cases here : isIdle segment
      · rw [List.filter_cons_of_neg (by simpa using here)]
        cases names : before.filter (!isIdle ·) with
        | nil =>
            refine ⟨segment :: before, List.forall_mem_cons.mpr ⟨here, ?_⟩, rfl⟩
            simpa using List.filter_eq_nil_iff.mp names
        | cons name names' =>
            rw [names] at ih
            rw [List.cons_append, dropNames, if_pos here]
            exact ih
      · rw [List.filter_cons_of_pos (by simpa using here), List.cons_append, dropNames,
          if_neg here, if_pos rfl]
        exact ih

theorem trim_append (passed : ∀ segment ∈ idle, isIdle segment) (rest : List String) :
    trim (idle ++ rest) = trim rest := by
  rw [trim, List.dropWhile_append_of_pos passed, trim]

theorem trimEnd_eq_rdropWhile (segments : List String) :
    trimEnd segments = segments.rdropWhile isIdle := rfl

theorem trim_eq_self (first : ∀ segment ∈ segments.head?, isIdle segment = false)
    (last : ∀ segment ∈ segments.getLast?, isIdle segment = false) : trim segments = segments := by
  have start : segments.dropWhile isIdle = segments := by
    cases segments with
    | nil => rfl
    | cons segment after => exact List.dropWhile_cons_of_neg (by simpa using first segment rfl)
  rw [trim, start, trimEnd_eq_rdropWhile, List.rdropWhile_eq_self_iff]
  intro some
  simpa using last _ (List.getLast?_eq_some_getLast some)

theorem isIdle_of_mem_head?_dropWhile {segment : String}
    (first : segment ∈ (segments.dropWhile isIdle).head?) : isIdle segment = false := by
  have solid := List.head?_dropWhile_not isIdle segments
  rwa [first] at solid

/-- What is left between idle segments begins and ends with a name. -/
theorem isIdle_of_mem_head?_trim {segment : String} (first : segment ∈ (trim segments).head?) :
    isIdle segment = false := by
  obtain ⟨after, whole⟩ := List.rdropWhile_prefix isIdle (segments.dropWhile isIdle)
  refine @isIdle_of_mem_head?_dropWhile segments _ ?_
  rw [← whole, List.head?_append, Option.mem_def]
  rw [trim, trimEnd_eq_rdropWhile, Option.mem_def] at first
  rw [first, Option.some_or]

theorem isIdle_of_mem_getLast?_trim {segment : String}
    (last : segment ∈ (trim segments).getLast?) : isIdle segment = false := by
  rw [trim, trimEnd, List.getLast?_reverse] at last
  exact isIdle_of_mem_head?_dropWhile last

theorem subset_of_trim : trim segments ⊆ segments := by
  intro segment within
  rw [trim, trimEnd, List.mem_reverse] at within
  have within := (List.dropWhile_suffix _).subset within
  rw [List.mem_reverse] at within
  exact (List.dropWhile_suffix _).subset within

end Parts

/-- Whether a path has no idle segment at either end; for the empty path none counts. -/
def IsTrimmed (path : String) : Prop :=
  path = "" ∨ (∀ segment ∈ (segments path).head?, isIdle segment = false) ∧
    ∀ segment ∈ (segments path).getLast?, isIdle segment = false

section Strip

variable {base path : String}

theorem ofSegments_trim_eq_iff :
    ofSegments (Parts.trim (segments path)) = path ↔ IsTrimmed path := by
  constructor
  · intro back
    by_cases none : Parts.trim (segments path) = []
    · rw [none] at back
      exact .inl back.symm
    · have whole : ∀ segment ∈ Parts.trim (segments path), '/' ∉ segment.toList :=
        fun _ within => not_mem_of_mem_segments (Parts.subset_of_trim within)
      have same : segments path = Parts.trim (segments path) := by
        rw [← segments_ofSegments whole none, back]
      refine .inr ⟨fun segment first => ?_, fun segment last => ?_⟩
      · exact Parts.isIdle_of_mem_head?_trim (same ▸ first)
      · exact Parts.isIdle_of_mem_getLast?_trim (same ▸ last)
  · rintro (rfl | ⟨first, last⟩)
    · rfl
    · rw [Parts.trim_eq_self first last, ofSegments_segments]

theorem IsTrimmed.relative (trimmed : IsTrimmed path) : isAbsolute path = false := by
  rcases trimmed with rfl | ⟨first, -⟩
  · rfl
  · by_contra absolute
    obtain ⟨rest, written⟩ := exists_segments_of_isAbsolute (by simpa using absolute)
    cases first "" (by simp [written])

theorem names_ne_nil_of_anchor (solid : base ≠ "") (free : (parts base).anchor = .none) :
    (parts base).names ≠ [] := by
  obtain ⟨anchor, before, trail, -, opened, -, named⟩ := @exists_parts_join base "" solid rfl
  rw [opened] at free ⊢
  obtain ⟨segment, within, solid⟩ := named free
  rw [Parts.names, ne_eq, List.filter_eq_nil_iff]
  intro idle
  simpa [solid] using idle segment (List.mem_append_left _ within)

/-- Stripping works on the segments, unless the base is empty. -/
theorem stripPrefix?_of_ne (solid : base ≠ "") : stripPrefix? base path =
    if (parts base).anchor = (parts path).anchor then
      (Parts.dropNames (parts base).names (parts path).segments).map fun rest =>
        ofSegments (Parts.trim rest)
    else none := by
  rw [stripPrefix?, if_neg]
  rintro ⟨free, nameless⟩
  exact names_ne_nil_of_anchor solid free nameless

theorem names_append_idle {anchor : Anchor} {before trail : List String}
    (idle : ∀ segment ∈ trail, isIdle segment) :
    Parts.names ⟨anchor, before ++ trail⟩ = before.filter (!isIdle ·) := by
  have none : trail.filter (!isIdle ·) = [] := by simpa using idle
  rw [Parts.names, List.filter_append, none, List.append_nil]

/-- Stripping a base from what was joined to it gives the path without idle segments at its ends. -/
theorem stripPrefix?_join (solid : base ≠ "") (relative : isAbsolute path = false) :
    stripPrefix? base (join base path) = some (ofSegments (Parts.trim (segments path))) := by
  obtain ⟨anchor, before, trail, idle, opened, joined, -⟩ := exists_parts_join solid relative
  obtain ⟨passed, isIdle, left⟩ := Parts.dropNames_filter before (segments path)
  rw [stripPrefix?_of_ne solid, opened, joined, if_pos rfl, names_append_idle idle, left,
    Option.map_some, Parts.trim_append isIdle]

/-- Nothing is stripped below the empty base but idle segments at the end. -/
theorem stripPrefix?_empty (path : String) : stripPrefix? "" path = some (parts path).text := by
  rw [stripPrefix?, if_pos (by decide)]

@[simp] theorem join_empty (path : String) : join "" path = path := by
  simp [join]

theorem text_parts_of_isTrimmed (trimmed : IsTrimmed path) : (parts path).text = path := by
  rcases trimmed with rfl | ⟨first, last⟩
  · decide
  · obtain ⟨segment, rest, written⟩ := List.exists_cons_of_ne_nil (segments_ne_nil path)
    have solid : isIdle segment = false := first segment (by simp [written])
    simp only [isIdle, Bool.or_eq_false_iff, beq_eq_false_iff_ne] at solid
    rw [parts_of_segments written (by simp [solid.1]), if_neg solid.1, if_neg solid.2, Parts.text,
      Parts.trimEnd_eq_rdropWhile, ← written, List.rdropWhile_eq_self_iff.mpr]
    · exact ofSegments_segments path
    · intro some
      simpa using last _ (List.getLast?_eq_some_getLast some)

/-- A path without idle segments at its ends comes back from below any base. -/
theorem stripPrefix?_join_of_isTrimmed (base : String) (trimmed : IsTrimmed path) :
    stripPrefix? base (join base path) = some path := by
  by_cases solid : base = ""
  · rw [solid, join_empty, stripPrefix?_empty, text_parts_of_isTrimmed trimmed]
  · rw [stripPrefix?_join solid trimmed.relative, ofSegments_trim_eq_iff.mpr trimmed]

/-- Nothing is left of a base below itself. -/
theorem stripPrefix?_self (base : String) : stripPrefix? base base = some "" := by
  by_cases solid : base = ""
  · rw [solid, stripPrefix?_empty]
    decide
  · obtain ⟨anchor, before, trail, idle, opened, -⟩ := @exists_parts_join base "" solid rfl
    obtain ⟨passed, isIdle, left⟩ := Parts.dropNames_filter before trail
    have none : Parts.trim trail = [] := by
      have none := Parts.trim_append idle []
      rwa [List.append_nil] at none
    rw [stripPrefix?_of_ne solid, opened, if_pos rfl, names_append_idle idle, left,
      Option.map_some, Parts.trim_append isIdle, none]
    rfl

end Strip

section Absolute

variable {base path : String}

theorem join_of_isAbsolute (absolute : isAbsolute path) : join base path = path := by
  simp [join, absolute]

theorem subset_of_dropNames {names segments rest : List String}
    (passed : Parts.dropNames names segments = some rest) : rest ⊆ segments := by
  induction segments generalizing names with
  | nil =>
      cases names with
      | nil => cases passed; exact List.Subset.refl _
      | cons => cases passed
  | cons segment segments ih =>
      cases names with
      | nil =>
          cases passed
          exact List.Subset.refl _
      | cons name names =>
          rw [Parts.dropNames] at passed
          split_ifs at passed
          · exact List.subset_cons_of_subset _ (ih passed)
          · exact List.subset_cons_of_subset _ (ih passed)

theorem segments_parts_subset (path : String) : (parts path).segments ⊆ segments path := by
  rw [parts]
  split
  · next rest written =>
      rw [written]
      split_ifs with none
      · rw [List.isEmpty_iff.mp none]
        exact List.Subset.refl _
      · exact List.subset_cons_self _ _
  · next rest written =>
      rw [written]
      exact List.subset_cons_self _ _
  · exact List.Subset.refl _

/-- What is left of an absolute path below a base is not the path. -/
theorem stripPrefix?_ne_of_isAbsolute (solid : base ≠ "") (absolute : isAbsolute path) :
    stripPrefix? base path ≠ some path := by
  obtain ⟨after, written⟩ := exists_segments_of_isAbsolute absolute
  rw [stripPrefix?_of_ne solid]
  split_ifs
  · intro same
    obtain ⟨rest, passed, back⟩ := Option.map_eq_some_iff.mp same
    by_cases none : Parts.trim rest = []
    · rw [none] at back
      rw [← back] at absolute
      cases absolute
    · have whole : ∀ segment ∈ Parts.trim rest, '/' ∉ segment.toList := fun _ within =>
        not_mem_of_mem_segments (segments_parts_subset path
          (subset_of_dropNames passed (Parts.subset_of_trim within)))
      have opened := segments_ofSegments whole none
      rw [back, written] at opened
      cases Parts.isIdle_of_mem_head?_trim (show "" ∈ (Parts.trim rest).head? by simp [← opened])
  · simp

theorem dropFirstSegment_ne_of_isAbsolute (absolute : isAbsolute path) :
    dropFirstSegment path ≠ path := by
  rw [isAbsolute, beq_iff_eq] at absolute
  obtain ⟨cs, written⟩ := List.head?_eq_some_iff.mp absolute
  intro same
  have shorter := congrArg String.toList same
  rw [dropFirstSegment, written] at shorter
  simp at shorter

end Absolute

/-- Whether a text is the name of an entry of a directory. -/
structure IsEntryName (name : String) : Prop where
  solid : isIdle name = false
  whole : '/' ∉ name.toList

section Entries

variable {names names' : List String} {root first second : String}

theorem segments_entries (each : ∀ name ∈ names, IsEntryName name) (some : names ≠ []) :
    segments (ofSegments names) = names :=
  segments_ofSegments (fun name within => (each name within).whole) some

/-- Names of entries make up a path that comes back from below any base. -/
theorem isTrimmed_ofSegments (each : ∀ name ∈ names, IsEntryName name) :
    IsTrimmed (ofSegments names) := by
  by_cases none : names = []
  · subst none
    exact .inl rfl
  · rw [IsTrimmed, segments_entries each none]
    exact .inr ⟨fun name first => (each name (List.mem_of_mem_head? first)).solid,
      fun name last => (each name (List.mem_of_getLast? last)).solid⟩

theorem ofSegments_ne_empty (each : ∀ name ∈ names, IsEntryName name) (some : names ≠ []) :
    ofSegments names ≠ "" := by
  intro empty
  have written := segments_entries each some
  rw [empty] at written
  have idle := (each "" (by simp [← written, segments, split])).solid
  cases idle

/-- Different names make up different paths. -/
theorem ofSegments_injective (each : ∀ name ∈ names, IsEntryName name)
    (each' : ∀ name ∈ names', IsEntryName name) (same : ofSegments names = ofSegments names') :
    names = names' := by
  by_cases none : names = []
  · by_cases none' : names' = []
    · rw [none, none']
    · subst none
      exact absurd same.symm (ofSegments_ne_empty each' none')
  · by_cases none' : names' = []
    · subst none'
      exact absurd same (ofSegments_ne_empty each none)
    · rw [← segments_entries each none, same, segments_entries each' none']

/-- A base with a separator at its end, unless it is empty. -/
def opened (base : String) : String :=
  if base.isEmpty || base.toList.getLast? == some '/' then base else base ++ "/"

theorem join_of_relative (base : String) (relative : isAbsolute second = false) :
    join base second = opened base ++ second := by
  simp only [join, opened, relative, Bool.false_or, Bool.or_eq_true, String.isEmpty_iff, beq_iff_eq]
  by_cases empty : base = ""
  · simp [empty]
  · by_cases ends : base.toList.getLast? = some '/' <;> simp [empty, ends]

theorem opened_append (base : String) (some : first ≠ "") :
    opened (base ++ first) = base ++ opened first := by
  have last : (base ++ first).toList.getLast? = first.toList.getLast? := by
    have filled : first.toList ≠ [] := by simpa using some
    rw [String.toList_append, List.getLast?_append_of_ne_nil _ filled]
  have filled : (base ++ first).isEmpty = false := by simp [some]
  have filled' : first.isEmpty = false := by simp [some]
  rw [opened, opened, last, filled, filled']
  split_ifs
  · rfl
  · exact String.append_assoc

theorem isAbsolute_append (some : first ≠ "") :
    isAbsolute (first ++ second) = isAbsolute first := by
  have filled : first.toList ≠ [] := by simpa using some
  rw [isAbsolute, isAbsolute, String.toList_append, List.head?_append_of_ne_nil _ filled]

theorem join_assoc (some : first ≠ "") (relative : isAbsolute first = false)
    (relative' : isAbsolute second = false) :
    join (join root first) second = join root (join first second) := by
  have relative₂ : isAbsolute (opened first ++ second) = false := by
    rw [opened]
    split_ifs
    · rwa [isAbsolute_append some]
    · rwa [String.append_assoc, isAbsolute_append some]
  rw [join_of_relative _ relative', join_of_relative _ relative, opened_append _ some,
    join_of_relative _ relative', join_of_relative _ relative₂, String.append_assoc]

theorem ofSegments_singleton (name : String) : ofSegments [name] = name := by
  simp [ofSegments]

theorem segments_entry {name : String} (entry : IsEntryName name) : segments name = [name] := by
  have alone := @segments_entries [name] (by simpa using entry) (by simp)
  rwa [ofSegments_singleton] at alone

theorem IsEntryName.relative {name : String} (entry : IsEntryName name) :
    isAbsolute name = false := by
  have trimmed := @isTrimmed_ofSegments [name] (by simpa using entry)
  rw [ofSegments_singleton] at trimmed
  exact trimmed.relative

theorem join_ofSegments {name : String} (each : ∀ name ∈ names, IsEntryName name)
    (some : names ≠ []) (entry : IsEntryName name) :
    join (ofSegments names) name = ofSegments (names ++ [name]) := by
  have apart : opened (ofSegments names) = ofSegments names ++ "/" := by
    rw [opened, if_neg]
    simp only [Bool.or_eq_true, String.isEmpty_iff, beq_iff_eq, not_or]
    refine ⟨ofSegments_ne_empty each some, fun ends => ?_⟩
    obtain ⟨front, written⟩ := List.getLast?_eq_some_iff.mp ends
    have whole : ofSegments names = String.ofList front ++ "/" ++ "" := by
      apply String.toList_injective
      simpa using written
    have segmented := segments_entries each some
    rw [whole, segments_append] at segmented
    have idle := (each "" (by simp [← segmented, segments, split])).solid
    cases idle
  have both : ∀ n ∈ names ++ [name], IsEntryName n := by
    simp only [List.mem_append, List.mem_singleton]
    rintro n (within | rfl)
    · exact each n within
    · exact entry
  rw [join_of_relative _ entry.relative, apart, ← ofSegments_segments (_ ++ "/" ++ name),
    segments_append, segments_entries each some, segments_entry entry]

/-- Joining names one after the other is joining the path that they make up. -/
theorem foldl_join (root : String) (each : ∀ name ∈ names, IsEntryName name) (some : names ≠ []) :
    names.foldl join root = join root (ofSegments names) := by
  -- From the last name, since a name is joined to all before it.
  induction names using List.reverseRecOn with
  | nil => contradiction
  | append_singleton names name ih =>
      have each' : ∀ n ∈ names, IsEntryName n := fun n within => each n (by simp [within])
      have entry : IsEntryName name := each name (by simp)
      rw [List.foldl_append, List.foldl_cons, List.foldl_nil]
      by_cases none : names = []
      · subst none
        rw [List.foldl_nil, List.nil_append, ofSegments_singleton]
      · rw [ih each' none, join_assoc (ofSegments_ne_empty each' none)
          (isTrimmed_ofSegments each').relative entry.relative, join_ofSegments each' none entry]

/-- The path under which a walk meets an entry is stripped to the names that lead to it. -/
theorem stripPrefix?_foldl_join (root : String) (each : ∀ name ∈ names, IsEntryName name) :
    stripPrefix? root (names.foldl join root) = some (ofSegments names) := by
  by_cases none : names = []
  · subst none
    exact stripPrefix?_self root
  · rw [foldl_join root each none, stripPrefix?_join_of_isTrimmed root (isTrimmed_ofSegments each)]

end Entries

end SqlLint.Path
