import SqlLint.Proofs.Rules.Confinement

/-!
# Outermost transactions

How many transactions are open is told by counting through the script. An outermost transaction runs
from a beginning with none open to the first end behind which none is open again, and all the way
between them at least one is. So the part of the script that has been read tells the outermost
transaction that is still open, and the scan keeps just what it needs of it: where it began, how
many more are open in it, and the databases written to inside of it.
-/

namespace SqlLint.Rules.Transaction

/-- The number of transactions open behind a site, from the number open before it. One that is ended
while none is open does not count. -/
def openBehind (number : Nat) (s : Site) : Nat :=
  if begins s then number + 1 else if ends s then number - 1 else number

/-- The number of transactions open behind consecutive sites. -/
def depth (sites : List Site) : Nat := sites.foldl openBehind 0

/-- An outermost transaction begins at `first`, behind `earlier`, and is still open behind
`body`. -/
structure StillOpen (earlier : List Site) (first : Site) (body : List Site) : Prop where
  begins : begins first
  outside : depth earlier = 0
  inside : ∀ front, front <+: body → 0 < depth (earlier ++ first :: front)

/-- The outermost transaction that begins at `first` ends at `last`, which follows `read`. -/
structure ClosedBy (read : List Site) (first : Site) (body : List Site) (last : Site) : Prop where
  stillOpen : ∃ earlier, read = earlier ++ first :: body ∧ StillOpen earlier first body
  ends : ends last
  settled : depth (read ++ [last]) = 0

/-- A part of consecutive sites is an outermost transaction from its beginning to its end. -/
def Outermost (sites : List Site) (first : Site) (body : List Site) (last : Site) : Prop :=
  ∃ read later, sites = read ++ last :: later ∧ ClosedBy read first body last

/-- The database in a name, as databases are compared: the third part from the end. Nothing stands
for the current database, which is meant where that part is left out or there is none. -/
def NamesDatabase (n : ObjectName) (database : Option String) : Prop :=
  (∃ front t schema object, n.parts = front ++ [some t, schema, object] ∧
    database = some t.foldedName) ∨
  (∀ front t schema object, n.parts ≠ front ++ [some t, schema, object]) ∧ database = none

/-- A statement at the site writes to a database. Its target is the name behind the keyword and
`INTO` or `FROM`, if there is one, and does not begin with a keyword of a clause. -/
def WritesTo (s : Site) (database : Option String) : Prop :=
  s.token.isAnyKeyword ["INSERT", "UPDATE", "DELETE", "MERGE"] ∧
  ∃ into target name, s.after = into ++ target ∧
    (into = [] ∨ ∃ t, into = [t] ∧ t.isAnyKeyword ["INTO", "FROM"]) ∧
    (∀ t ∈ target.head?, t.isAnyKeyword Keyword.clauses = false) ∧
    ObjectName.parse? target = some name ∧ NamesDatabase name database

/-- The statements at the sites write to two databases at least. -/
def CrossesDatabases (body : List Site) : Prop :=
  ∃ a b, a ≠ b ∧ (∃ s ∈ body, WritesTo s a) ∧ ∃ s ∈ body, WritesTo s b

def reported (tokens : List Token) : List Site :=
  (scan none (Site.all tokens)).map Flag.site

def finding (s : Script) (x : Site) : Finding :=
  ⟨s.path, x.token.start.line, x.token.start.column, "cross-database-transaction", .error,
    "Cross database inserts or updates enclosed in a transaction can lead to data corruption"⟩

variable {sites earlier earlier' body body' read rest : List Site}
variable {s first first' last last' : Site}
variable {database : Option String}

section Words

/-- The words with which a transaction begins: `BEGIN`, then `DISTRIBUTED` for a distributed one,
then `TRAN` or `TRANSACTION`. -/
theorem begins_iff : begins s ↔ s.token.isKeyword "BEGIN" ∧
    ∃ distributed t later, s.after = distributed ++ t :: later ∧
      (distributed = [] ∨ ∃ d, distributed = [d] ∧ d.isKeyword "DISTRIBUTED") ∧
      (t.isKeyword "TRAN" ∨ t.isKeyword "TRANSACTION") := by
  rw [begins, Bool.and_eq_true]
  refine and_congr_right fun _ => ?_
  have kind (t : Token) : t.isAnyKeyword ["TRAN", "TRANSACTION"] ↔
      t.isKeyword "TRAN" ∨ t.isKeyword "TRANSACTION" := by
    simp [Token.isAnyKeyword]
  cases after : s.after with
  | nil => simp
  | cons t rest =>
      by_cases distributed : t.isKeyword "DISTRIBUTED"
      · simp only [distributed, if_true, Option.any_eq_true, List.head?_eq_some_iff, kind]
        constructor
        · rintro ⟨u, ⟨later, rfl⟩, word⟩
          exact ⟨[t], u, later, rfl, .inr ⟨t, rfl, distributed⟩, word⟩
        · rintro ⟨_, u, later, split, rfl | ⟨d, rfl, -⟩, word⟩
          · obtain ⟨rfl, -⟩ := List.cons.inj split
            have apart : t.isAnyKeyword ["TRAN", "TRANSACTION"] = false :=
              Token.isAnyKeyword_eq_false distributed (by decide +kernel)
            rw [(kind t).mpr word] at apart
            cases apart
          · exact ⟨u, ⟨later, (List.cons.inj split).2⟩, word⟩
      · simp only [distributed, Bool.false_eq_true, if_false, List.head?_cons, Option.any_some,
          kind]
        constructor
        · exact fun word => ⟨[], t, rest, rfl, .inl rfl, word⟩
        · rintro ⟨_, u, later, split, rfl | ⟨d, rfl, first⟩, word⟩
          · rwa [(List.cons.inj split).1]
          · rw [(List.cons.inj split).1] at distributed
            exact absurd first distributed

/-- The words with which a transaction ends. -/
theorem ends_iff : ends s ↔ s.token.isKeyword "COMMIT" ∨ s.token.isKeyword "ROLLBACK" := by
  simp [ends, Token.isAnyKeyword]

end Words

section Writes

theorem database?_of_parts {front : List (Option Token)} {part schema object : Option Token}
    {length : Nat} : (ObjectName.database? ⟨front ++ [part, schema, object], length⟩).map
      String.toLower = part.map Token.foldedName := by
  cases part <;> simp [ObjectName.database?, Token.foldedName]

theorem namesDatabase_iff {n : ObjectName} :
    NamesDatabase n database ↔ n.database?.map String.toLower = database := by
  obtain ⟨parts, length⟩ := n
  -- The parts are looked at from the end: either there is a third one or there is not.
  match backwards : parts.reverse with
  | object :: schema :: part :: front =>
      obtain rfl : parts = front.reverse ++ [part, schema, object] := by
        simpa using congrArg List.reverse backwards
      rw [database?_of_parts]
      constructor
      · rintro (⟨front', t, schema', object', same, rfl⟩ | ⟨none, rfl⟩)
        · obtain ⟨-, rfl, -, -⟩ : _ ∧ part = some t ∧ _ ∧ _ := by
            simpa using List.append_inj' same rfl
          rfl
        · cases part with
          | none => rfl
          | some t => exact absurd rfl (none _ t schema object)
      · rintro rfl
        cases part with
        | none =>
            refine .inr ⟨fun front' t schema' object' same => ?_, rfl⟩
            simpa using List.append_inj' same rfl
        | some t => exact .inl ⟨_, t, schema, object, rfl, rfl⟩
  | [] | [_] | [_, _] =>
      have none : ObjectName.database? ⟨parts, length⟩ = none := by
        simp [ObjectName.database?, backwards]
      have short (front : List (Option Token)) (t : Token) (schema object : Option Token) :
          parts ≠ front ++ [some t, schema, object] := by
        rintro rfl
        simpa using congrArg List.length backwards
      rw [none]
      constructor
      · rintro (⟨front, t, schema, object, same, _⟩ | ⟨_, rfl⟩)
        · exact absurd same (short front t schema object)
        · rfl
      · rintro rfl
        exact .inr ⟨short, rfl⟩

theorem tableAt?_eq_some_iff {target : List Token} {name : ObjectName} :
    tableAt? target = some name ↔
      (∀ t ∈ target.head?, t.isAnyKeyword Keyword.clauses = false) ∧
        ObjectName.parse? target = some name := by
  cases target with
  | nil => simp [tableAt?, ObjectName.parse?]
  | cons t target => simp [tableAt?]

theorem target?_eq_some_iff {name : ObjectName} : target? s = some name ↔
    ∃ into target, s.after = into ++ target ∧
      (into = [] ∨ ∃ t, into = [t] ∧ t.isAnyKeyword ["INTO", "FROM"]) ∧
      (∀ t ∈ target.head?, t.isAnyKeyword Keyword.clauses = false) ∧
      ObjectName.parse? target = some name := by
  rw [target?_eq]
  constructor
  · intro found
    have parsed := tableAt?_eq_some_iff.mp found
    cases after : s.after with
    | nil => exact ⟨[], [], rfl, .inl rfl, by rwa [after] at parsed⟩
    | cons t rest =>
        by_cases into : t.isAnyKeyword ["INTO", "FROM"]
        · refine ⟨[t], rest, rfl, .inr ⟨t, rfl, into⟩, ?_⟩
          simpa [after, afterInto, into] using parsed
        · refine ⟨[], t :: rest, rfl, .inl rfl, ?_⟩
          simpa [after, afterInto, into] using parsed
  · rintro ⟨into, target, after, either, found⟩
    rw [after]
    rcases either with rfl | ⟨t, rfl, into⟩
    · -- The keywords before a target are keywords of clauses, so none of them begins it.
      cases target with
      | nil => exact tableAt?_eq_some_iff.mpr found
      | cons t target =>
          have plain : t.isAnyKeyword ["INTO", "FROM"] = false := by
            by_contra into
            have clause : t.isAnyKeyword Keyword.clauses :=
              Token.isAnyKeyword_of_subset (by simpa using into) (by decide)
            rw [found.1 t rfl] at clause
            cases clause
          simpa [afterInto, plain] using tableAt?_eq_some_iff.mpr found
    · simpa [afterInto, into] using tableAt?_eq_some_iff.mpr found

theorem writesTo_iff : WritesTo s database ↔ writes? s = some database := by
  rw [WritesTo, writes?]
  split
  case isTrue keyword =>
    simp only [keyword, true_and, Option.map_eq_some_iff, target?_eq_some_iff, namesDatabase_iff]
    constructor
    · rintro ⟨into, target, name, after, either, plain, parsed, named⟩
      exact ⟨name, ⟨into, target, after, either, plain, parsed⟩, named⟩
    · rintro ⟨name, ⟨into, target, after, either, plain, parsed⟩, named⟩
      exact ⟨into, target, name, after, either, plain, parsed, named⟩
  case isFalse other => simp [other]

/-- A statement that writes neither begins nor ends a transaction. -/
theorem WritesTo.plain (writes : WritesTo s database) : begins s = false ∧ ends s = false := by
  obtain ⟨keyword, listed, word⟩ := List.any_eq_true.mp writes.1
  have apart : ∀ keyword ∈ ["INSERT", "UPDATE", "DELETE", "MERGE"],
      ∀ other ∈ ["BEGIN", "COMMIT", "ROLLBACK"],
        Ascii.sameIgnoringCase keyword other = false := by decide +kernel
  have other (word' : String) (listed' : word' ∈ ["BEGIN", "COMMIT", "ROLLBACK"]) :
      s.token.isKeyword word' = false :=
    Token.isKeyword_eq_false word (apart keyword listed word' listed')
  simp only [← Bool.not_eq_true, begins_iff, ends_iff]
  simp [other]

end Writes

section Depth

@[simp] theorem depth_nil : depth [] = 0 := rfl

@[simp] theorem depth_append_singleton : depth (read ++ [s]) = openBehind (depth read) s := by
  simp [depth]

theorem not_ends_of_begins (start : begins s) : ends s = false := by
  exact Token.isAnyKeyword_eq_false (begins_iff.mp start).1 (by decide +kernel)

theorem openBehind_of_ends (stop : ends s) (number : Nat) : openBehind number s = number - 1 := by
  have plain : ¬ begins s := fun start => by simp [not_ends_of_begins start] at stop
  rw [openBehind, if_neg plain, if_pos stop]

/-- The outermost transaction that is open behind a part of the script is the only one: where
another one had begun, there would be one open all the way or none. -/
theorem StillOpen.unique (one : StillOpen earlier first body)
    (other : StillOpen earlier' first' body')
    (same : earlier ++ first :: body = earlier' ++ first' :: body') :
    earlier = earlier' ∧ first = first' ∧ body = body' := by
  have later {e e' b b' d : List Site} {f f' : Site} (here : StillOpen e f b)
      (there : StillOpen e' f' b') (longer : e' = e ++ d) (whole : e ++ f :: b = e' ++ f' :: b') :
      e = e' ∧ f = f' ∧ b = b' := by
    subst longer
    cases d with
    | nil => simpa using whole
    | cons x d =>
        obtain ⟨rfl, rfl⟩ : f = x ∧ b = d ++ f' :: b' := by simpa using whole
        have positive := here.inside d (List.prefix_append d _)
        have none := there.outside
        omega
  rcases List.append_eq_append_iff.mp same with ⟨d, longer, _⟩ | ⟨d, longer, _⟩
  · exact later one other longer same
  · obtain ⟨rfl, rfl, rfl⟩ := later other one longer same.symm
    exact ⟨rfl, rfl, rfl⟩

end Depth

section Scan

/-- What the scan keeps of an outermost transaction that is open behind `body`. -/
structure Keeps (earlier : List Site) (t : Span) (body : List Site) : Prop where
  stillOpen : StillOpen earlier t.opened body
  depth_eq : depth (earlier ++ t.opened :: body) = t.nested + 1
  nodup : t.databases.Nodup
  mem_databases : ∀ database, database ∈ t.databases ↔ ∃ s ∈ body, WritesTo s database

/-- What the scan has kept of the sites it has read: the outermost transaction that is still
open. -/
def Tracks (read : List Site) : Option Span → Prop
  | none => depth read = 0
  | some t => ∃ earlier body, read = earlier ++ t.opened :: body ∧ Keeps earlier t body

variable {open? : Option Span} {t : Span}

theorem StillOpen.snoc (still : StillOpen earlier first body)
    (more : 0 < depth (earlier ++ first :: (body ++ [s]))) :
    StillOpen earlier first (body ++ [s]) := by
  refine ⟨still.begins, still.outside, fun front within => ?_⟩
  rcases List.prefix_concat_iff.mp within with rfl | within
  · exact more
  · exact still.inside front within

theorem Tracks.depth_eq (tracks : Tracks read (some t)) : depth read = t.nested + 1 := by
  obtain ⟨_, _, rfl, keeps⟩ := tracks
  exact keeps.depth_eq

theorem Tracks.nodup (tracks : Tracks read (some t)) : t.databases.Nodup := by
  obtain ⟨_, _, _, keeps⟩ := tracks
  exact keeps.nodup

/-- A site that leaves a transaction open keeps the outermost one, with the databases written to. -/
theorem Tracks.snoc (tracks : Tracks read (some t)) {nested : Nat}
    {databases : List (Option String)}
    (number : openBehind (t.nested + 1) s = nested + 1) (nodup : databases.Nodup)
    (written : ∀ database, database ∈ databases ↔ database ∈ t.databases ∨ WritesTo s database) :
    Tracks (read ++ [s]) (some ⟨t.opened, nested, databases⟩) := by
  obtain ⟨earlier, body, rfl, keeps⟩ := tracks
  have deep : depth (earlier ++ t.opened :: (body ++ [s])) = nested + 1 := by
    rw [← List.cons_append, ← List.append_assoc, depth_append_singleton, keeps.depth_eq, number]
  refine ⟨earlier, body ++ [s], by simp, keeps.stillOpen.snoc ?_, deep, nodup, fun database => ?_⟩
  · rw [deep]
    exact Nat.succ_pos _
  · simp [written, keeps.mem_databases, or_and_right, exists_or]

/-- Where none is open, an outermost transaction begins. -/
theorem Tracks.begins_none (tracks : Tracks read none) (start : begins s) :
    Tracks (read ++ [s]) (some ⟨s, 0, []⟩) := by
  have number : depth (read ++ [s]) = 1 := by
    rw [depth_append_singleton, tracks, openBehind, if_pos start]
  refine ⟨read, [], rfl, ⟨start, tracks, fun front within => ?_⟩, number, .nil, by simp⟩
  obtain rfl := List.prefix_nil.mp within
  rw [number]
  exact Nat.one_pos

theorem not_writesTo_of_begins (start : begins s) : ¬ WritesTo s database := by
  intro writes
  rw [writes.plain.1] at start
  cases start

theorem not_writesTo_of_ends (stop : ends s) : ¬ WritesTo s database := by
  intro writes
  rw [writes.plain.2] at stop
  cases stop

theorem Tracks.not_closedBy (tracks : Tracks read none) : ¬ ClosedBy read first body s := by
  rintro ⟨⟨earlier, rfl, still⟩, _⟩
  have positive := still.inside body (List.prefix_refl body)
  have none : depth (earlier ++ first :: body) = 0 := tracks
  omega

/-- A site closes the outermost transaction that is still open, or none. -/
theorem Tracks.closedBy_iff (tracks : Tracks read (some t)) :
    (∃ body, ClosedBy read first body s ∧ CrossesDatabases body) ↔
      first = t.opened ∧ ends s ∧ t.nested = 0 ∧ 1 < t.databases.length := by
  obtain ⟨earlier, body, rfl, still, number, nodup, known⟩ := tracks
  have several : CrossesDatabases body ↔ 1 < t.databases.length := by
    rw [← List.toFinset_card_of_nodup nodup, Finset.one_lt_card]
    simp only [CrossesDatabases, List.mem_toFinset, known]
    constructor
    · rintro ⟨a, b, apart, writesA, writesB⟩
      exact ⟨a, writesA, b, writesB, apart⟩
    · rintro ⟨a, writesA, b, writesB, apart⟩
      exact ⟨a, b, apart, writesA, writesB⟩
  constructor
  · rintro ⟨body', ⟨⟨earlier', same, still'⟩, stop, settled⟩, crosses⟩
    obtain ⟨rfl, rfl, rfl⟩ := still.unique still' same
    rw [depth_append_singleton, number, openBehind_of_ends stop] at settled
    exact ⟨rfl, stop, by omega, several.mp crosses⟩
  · rintro ⟨rfl, stop, outermost, more⟩
    refine ⟨body, ⟨⟨earlier, rfl, still⟩, stop, ?_⟩, several.mpr more⟩
    rw [depth_append_singleton, number, openBehind_of_ends stop, outermost]

/-- Among consecutive sites behind others, an outermost transaction that crosses databases ends. -/
def Reports (read sites : List Site) (x : Site) : Prop :=
  ∃ front last later body, sites = front ++ last :: later ∧
    ClosedBy (read ++ front) x body last ∧ CrossesDatabases body

theorem reports_cons {x : Site} : Reports read (s :: rest) x ↔
    (∃ body, ClosedBy read x body s ∧ CrossesDatabases body) ∨ Reports (read ++ [s]) rest x := by
  constructor
  · rintro ⟨front, last, later, body, split, closed, crosses⟩
    cases front with
    | nil =>
        cases split
        exact .inl ⟨body, by simpa using closed, crosses⟩
    | cons y front =>
        cases split
        exact .inr ⟨front, last, later, body, rfl, by simpa using closed, crosses⟩
  · rintro (⟨body, closed, crosses⟩ | ⟨front, last, later, body, rfl, closed, crosses⟩)
    · exact ⟨[], s, rest, body, rfl, by simpa using closed, crosses⟩
    · exact ⟨s :: front, last, later, body, rfl, by simpa using closed, crosses⟩

/-- The scan objects to the transactions that end in what it has yet to read. -/
theorem mem_scan_iff {x : Site} (tracks : Tracks read open?) :
    x ∈ (scan open? sites).map Flag.site ↔ Reports read sites x := by
  fun_induction scan open? sites generalizing read with
  | case1 => simp [Reports]
  | case2 s rest start ih =>
      simp [reports_cons, tracks.not_closedBy, ih (tracks.begins_none start)]
  | case3 s rest other ih =>
      have settled : Tracks (read ++ [s]) none := by
        have outside : depth read = 0 := tracks
        simp [Tracks, outside, openBehind, other]
      simp [reports_cons, tracks.not_closedBy, ih settled]
  | case4 t s rest start ih =>
      have deeper : Tracks (read ++ [s]) (some { t with nested := t.nested + 1 }) :=
        tracks.snoc (by simp [openBehind, start]) tracks.nodup
          (by simp [not_writesTo_of_begins start])
      simp [reports_cons, tracks.closedBy_iff, not_ends_of_begins start, ih deeper]
  | case5 t s rest other stop outermost ih =>
      have settled : Tracks (read ++ [s]) none := by
        simp [Tracks, tracks.depth_eq, outermost, openBehind_of_ends stop]
      rw [reports_cons, tracks.closedBy_iff, List.map_append, List.mem_append, ih settled]
      simp [Span.flag?, stop, outermost, and_comm, eq_comm]
  | case6 t s rest other stop outer inner ih =>
      have shallower : Tracks (read ++ [s]) (some { t with nested := outer }) :=
        tracks.snoc (by simp [openBehind_of_ends stop, inner]) tracks.nodup
          (by simp [not_writesTo_of_ends stop])
      simp [reports_cons, tracks.closedBy_iff, inner, ih shallower]
  | case7 t s rest other still database written ih =>
      have more : Tracks (read ++ [s]) (some { t with databases := t.databases.insert database }) :=
        tracks.snoc (by simp [openBehind, other, still]) (tracks.nodup.insert)
          (by simp [writesTo_iff, written, or_comm, eq_comm])
      simp [reports_cons, tracks.closedBy_iff, still, ih more]
  | case8 t s rest other still none ih =>
      have same : Tracks (read ++ [s]) (some t) :=
        tracks.snoc (by simp [openBehind, other, still]) tracks.nodup
          (by simp [writesTo_iff, none])
      simp [reports_cons, tracks.closedBy_iff, still, ih same]

/-- The scan objects to a transaction once, and in the order in which they begin. -/
theorem sublist_scan :
    ((scan open? sites).map Flag.site).Sublist (open?.toList.map Span.opened ++ sites) := by
  fun_induction scan open? sites with
  | case1 => simp
  | case2 s rest start ih => simpa using ih
  | case3 s rest other ih => exact ih.trans (by simp)
  | case4 t s rest start ih => exact ih.trans (by simp)
  | case5 t s rest other stop outermost ih =>
      have flagged : (t.flag?.toList.map Flag.site).Sublist [t.opened] := by
        rw [Span.flag?]
        split <;> simp
      simpa using flagged.append (ih.cons s)
  | case6 t s rest other stop outer inner ih => exact ih.trans (by simp)
  | case7 t s rest other still database written ih => exact ih.trans (by simp)
  | case8 t s rest other still none ih => exact ih.trans (by simp)

theorem remark_of_mem_scan {f : Flag} (member : f ∈ scan open? sites) (u : Script) :
    crossDatabaseTransaction.finding u f.remark = finding u f.site := by
  fun_induction scan open? sites with
  | case1 => cases member
  | case5 t s rest other stop outermost ih =>
      rcases List.mem_append.mp member with flagged | later
      · rw [Span.flag?] at flagged
        split at flagged
        · rw [List.mem_singleton.mp flagged]
          rfl
        · cases flagged
      · exact ih later
  | case2 s rest start ih => exact ih member
  | case3 s rest other ih => exact ih member
  | case4 t s rest start ih => exact ih member
  | case6 t s rest other stop outer inner ih => exact ih member
  | case7 t s rest other still database written ih => exact ih member
  | case8 t s rest other still none ih => exact ih member

end Scan

theorem check_eq (s : Script) :
    crossDatabaseTransaction.check s = (reported s.tokens).map (finding s) := by
  rw [reported, List.map_map]
  change List.map (crossDatabaseTransaction.finding s) (List.map Flag.remark _) = _
  rw [List.map_map]
  exact List.map_congr_left fun f member => remark_of_mem_scan member s

/-- A site begins one outermost transaction at most: the first end behind which none is open closes
it, and no end behind that one does. -/
theorem Outermost.unique (nodup : sites.Nodup) (one : Outermost sites first body last)
    (other : Outermost sites first body' last') : body = body' ∧ last = last' := by
  have later {e b b' d l l' : List Site} {f x x' : Site} (settled : depth (e ++ f :: b ++ [x]) = 0)
      (still : StillOpen e f b') (longer : b' = b ++ d) (whole : b ++ x :: l = b' ++ x' :: l') :
      b = b' ∧ x = x' := by
    subst longer
    cases d with
    | nil =>
        rw [List.append_nil] at whole
        exact ⟨by simp, (List.cons.inj (List.append_cancel_left whole)).1⟩
    | cons y d =>
        obtain ⟨rfl, -⟩ : x = y ∧ l = d ++ x' :: l' := by simpa using whole
        have positive := still.inside (b ++ [x]) ⟨d, by simp⟩
        rw [List.append_assoc, List.cons_append] at settled
        omega
  obtain ⟨_, rest, rfl, ⟨⟨earlier, rfl, still⟩, _, settled⟩⟩ := one
  obtain ⟨_, rest', same, ⟨⟨earlier', rfl, still'⟩, _, settled'⟩⟩ := other
  simp only [List.append_assoc, List.cons_append] at same nodup
  have apart := List.nodup_middle.mp nodup
  rw [List.nodup_cons, List.mem_append, not_or] at apart
  obtain ⟨rfl, -, tails⟩ := (List.append_cons_inj_of_notMem apart.1.1 apart.1.2).mp same
  rcases List.append_eq_append_iff.mp tails with ⟨d, longer, _⟩ | ⟨d, longer, _⟩
  · exact later settled still' longer tails
  · obtain ⟨rfl, rfl⟩ := later settled' still longer tails.symm
    exact ⟨rfl, rfl⟩

/-- The rule objects to an outermost transaction that has been closed and writes to two databases at
least, and to nothing else: its findings stand where these transactions begin, once and in order. No
two outermost transactions begin at one site. -/
theorem reported_once_per_outermost (tokens : List Token) :
    (∀ s : Script, s.tokens = tokens →
      crossDatabaseTransaction.check s = (reported tokens).map (finding s)) ∧
    (reported tokens).Nodup ∧ (reported tokens).Sublist (Site.all tokens) ∧
    (∀ x, x ∈ reported tokens ↔
      ∃ body last, Outermost (Site.all tokens) x body last ∧ CrossesDatabases body) ∧
    ∀ x body last body' last', Outermost (Site.all tokens) x body last →
      Outermost (Site.all tokens) x body' last' → body = body' ∧ last = last' := by
  have nodup : (Site.all tokens).Nodup := Site.nodup_following [] tokens
  have inOrder : (reported tokens).Sublist (Site.all tokens) := sublist_scan
  refine ⟨?_, nodup.sublist inOrder, inOrder, fun x => ?_, ?_⟩
  · rintro s rfl
    exact check_eq s
  · have outside : Tracks [] none := depth_nil
    rw [reported, mem_scan_iff outside, Reports]
    constructor
    · rintro ⟨front, last, later, body, split, closed, crosses⟩
      exact ⟨body, last, ⟨front, later, split, closed⟩, crosses⟩
    · rintro ⟨body, last, ⟨front, later, split, closed⟩, crosses⟩
      exact ⟨front, last, later, body, split, closed, crosses⟩
  · intro x body last body' last' one other
    exact one.unique nodup other

/-- An end of no transaction, then a transaction with another one inside that writes to a database
and, behind the inner one, to the current database. -/
def nestedTransactions : String :=
  "COMMIT\nBEGIN TRAN UPDATE [Log]..t BEGIN DISTRIBUTED TRANSACTION COMMIT DELETE FROM t ROLLBACK"

theorem reported_once_per_outermost_of_nestedTransactions : ∃ s,
    Script.ofText "q.sql" "" 120 nestedTransactions = .ok s ∧ ∃ x body last,
    crossDatabaseTransaction.check s = [finding s x] ∧
    (x.token.start.line, x.token.start.column) = (2, 1) ∧
    Outermost (Site.all s.tokens) x body last ∧ CrossesDatabases body ∧
    ∀ body' last', Outermost (Site.all s.tokens) x body' last' → body = body' ∧ last = last' := by
  obtain ⟨s, made, places⟩ : ∃ s, Script.ofText "q.sql" "" 120 nestedTransactions = .ok s ∧
      (reported s.tokens).map (fun x => (x.token.start.line, x.token.start.column)) = [(2, 1)] := by
    refine ⟨_, by cbv, ?_⟩
    decide +kernel
  obtain ⟨x, only, place⟩ := List.map_eq_singleton_iff.mp places
  obtain ⟨found, _, _, closed, unique⟩ := reported_once_per_outermost s.tokens
  obtain ⟨body, last, outermost, crosses⟩ := (closed x).mp (only ▸ List.mem_singleton_self x)
  refine ⟨s, made, x, body, last, ?_, place, outermost, crosses, fun body' last' => ?_⟩
  · rw [found s rfl, only]
    rfl
  · exact unique x body last body' last' outermost

end SqlLint.Rules.Transaction
