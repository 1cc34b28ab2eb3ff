import SqlLint.Proofs.Indexed.References

/-!
# Open transactions counted

The transactions that are open are counted, and an end of a transaction is only looked at while the
count is not zero, so taking it off never takes the count below zero. The count and the databases
follow the transaction that the rule keeps: one more is open than are nested in it.
-/

namespace SqlLint.Indexed

open Rules.Transaction (Span scan afterInto tableAt?)

/-- The transactions that are open: how many, the index at which the outermost one begins, and the
databases written to since. -/
structure Count where
  depth : Nat
  openedAt : Nat
  databases : List (Option String)

def Count.enter (c : Count) (i : Nat) : Count :=
  if c.depth = 0 then ⟨1, i, []⟩ else { c with depth := c.depth + 1 }

/-- The remark on the outermost transaction, if it has just been ended. -/
def Count.remark? (tokens : List Token) (c : Count) : Checked (Option Remark) :=
  if c.depth = 0 && 1 < c.databases.length then do
    return some (remarkAt (fun _ => "Cross database inserts or updates enclosed in a transaction "
      ++ "can lead to data corruption") (← item tokens c.openedAt))
  else return none

def beginsAt (tokens : List Token) (i : Nat) : Checked Bool := do
  if (← item tokens i).isKeyword "BEGIN" then
    return tokens[skip (·.isKeyword "DISTRIBUTED") tokens (i + 1)]?.any
      (·.isAnyKeyword ["TRAN", "TRANSACTION"])
  else return false

def writtenTable (tokens : List Token) (i : Nat) : Option Name :=
  let start := skip (·.isAnyKeyword ["INTO", "FROM"]) tokens (i + 1)
  match tokens[start]? with
  | none => none
  | some first => if first.isAnyKeyword Keyword.clauses then none else parse tokens start

def Count.note (c : Count) : Option Name → Checked Count
  | some name => do
    let database ← name.database
    return { c with databases := c.databases.insert (database.map String.toLower) }
  | none => return c

/-- The count behind a token with an index that neither begins nor ends a transaction. -/
def Count.write (tokens : List Token) (c : Count) (t : Token) (i : Nat) : Checked Count :=
  if 0 < c.depth && t.isAnyKeyword ["INSERT", "UPDATE", "DELETE", "MERGE"] then
    c.note (writtenTable tokens i)
  else return c

/-- The count behind a token with an index, and the remark that the token gives rise to. -/
def Count.step (tokens : List Token) (c : Count) (t : Token) (i : Nat) :
    Checked (Count × Option Remark) := do
  if ← beginsAt tokens i then return (c.enter i, none)
  else if 0 < c.depth && t.isAnyKeyword ["COMMIT", "ROLLBACK"] then
    let ended : Count := { c with depth := ← minus c.depth 1 }
    return (ended, ← ended.remark? tokens)
  else return (← c.write tokens t i, none)

/-- The remarks that consecutive tokens with their indices give rise to. -/
def Count.run (tokens : List Token) (c : Count) : List (Token × Nat) → Checked (List Remark)
  | [] => return []
  | (t, i) :: rest => do
    let (next, here) ← c.step tokens t i
    let others ← next.run tokens rest
    return here.toList ++ others

def crossDatabaseTransaction : Inspection where
  toDescriptor := Rules.crossDatabaseTransaction.toDescriptor
  inspect tokens := Count.run tokens ⟨0, 0, []⟩ tokens.zipIdx

/-- What a count says of the transaction that is open. -/
def Count.Tracks (tokens : List Token) (c : Count) : Option Span → Prop
  | none => c.depth = 0
  | some t => c.depth = t.nested + 1 ∧ c.databases = t.databases ∧ t.opened ∈ Site.all tokens ∧
      c.openedAt = t.opened.index

variable {tokens : List Token} {s : Site} {c : Count} {open? : Option Span}

theorem beginsAt_eq (h : s ∈ Site.all tokens) :
    beginsAt tokens s.index = .ok (Rules.Transaction.begins s) := by
  rw [beginsAt, item_eq_ok_iff.mpr (Site.getElem?_index h), Checked.ok_bind,
    Rules.Transaction.begins, ← List.head?_drop, drop_skip, Site.drop_succ_index h]
  cases s.token.isKeyword "BEGIN" with
  | false => rfl
  | true => cases s.after <;> rfl

theorem drop_skip_into (h : s ∈ Site.all tokens) :
    tokens.drop (skip (·.isAnyKeyword ["INTO", "FROM"]) tokens (s.index + 1)) =
      afterInto s.after := by
  rw [drop_skip, Site.drop_succ_index h]
  cases s.after <;> rfl

theorem writtenTable_eq (h : s ∈ Site.all tokens) : ∃ start, writtenTable tokens s.index =
    (Rules.Transaction.target? s).map fun n => ⟨n.parts, start + n.length⟩ := by
  refine ⟨skip (·.isAnyKeyword ["INTO", "FROM"]) tokens (s.index + 1), ?_⟩
  rw [writtenTable, Rules.Transaction.target?_eq, ← List.head?_drop, parse_eq, drop_skip_into h]
  cases afterInto s.after with
  | nil => rfl
  | cons first rest =>
      rw [List.head?_cons, tableAt?]
      cases clause : first.isAnyKeyword Keyword.clauses <;> simp [clause]

theorem write_eq (enclosed : ∀ t ∈ tokens, t.Enclosed) (h : s ∈ Site.all tokens)
    (inside : 0 < c.depth) : c.write tokens s.token s.index =
      .ok (match Rules.Transaction.writes? s with
        | some database => { c with databases := c.databases.insert database }
        | none => c) := by
  obtain ⟨start, written⟩ := writtenTable_eq h
  rw [Count.write, Rules.Transaction.writes?, written]
  by_cases writes : s.token.isAnyKeyword ["INSERT", "UPDATE", "DELETE", "MERGE"]
  · cases target : Rules.Transaction.target? s with
    | none => simp [inside, writes, Count.note]
    | some n =>
        have parts (t : Token) (part : some t ∈ n.parts) : t.Enclosed := by
          rw [Rules.Transaction.target?_eq, ← drop_skip_into h] at target
          have read := Rules.Transaction.parse?_of_tableAt? target
          exact enclosed t (List.mem_of_mem_drop (ObjectName.mem_of_parse? read part))
        simp [inside, writes, Count.note, Name.database_eq parts]
  · simp [writes]

/-- The remark on a transaction that has just been ended is the rule's. -/
theorem remark?_eq {t : Span} (closed : c.depth = 0) (databases : c.databases = t.databases)
    (opened : t.opened ∈ Site.all tokens) (openedAt : c.openedAt = t.opened.index) :
    c.remark? tokens = .ok (t.flag?.map Flag.remark) := by
  rw [Count.remark?, Span.flag?, databases, openedAt,
    item_eq_ok_iff.mpr (Site.getElem?_index opened)]
  by_cases several : 1 < t.databases.length
  · simp [closed, several, remarkAt, Flag.remark]
  · simp [several]

/-- Whether the step at a site comes to a count that tracks what the rule keeps behind the site, and
to the remark that the rule makes there. -/
def Count.Follows (tokens : List Token) (c : Count) (open? : Option Span) (s : Site) : Prop :=
  ∃ (next : Count) (after? : Option Span) (flag? : Option Flag),
    c.step tokens s.token s.index = .ok (next, flag?.map Flag.remark) ∧
    next.Tracks tokens after? ∧
    ∀ rest, scan open? (s :: rest) = flag?.toList ++ scan after? rest

/-- Outside of all transactions, a token can only begin one. -/
theorem follows_of_closed (h : s ∈ Site.all tokens) (closed : c.depth = 0) :
    c.Follows tokens none s := by
  rw [Count.Follows, Count.step, beginsAt_eq h, Checked.ok_bind]
  by_cases begins : Rules.Transaction.begins s
  · exact ⟨⟨1, s.index, []⟩, some ⟨s, 0, []⟩, none, by simp [begins, Count.enter, closed],
      ⟨rfl, rfl, h, rfl⟩, fun rest => by simp [scan, begins]⟩
  · exact ⟨c, none, none, by simp [begins, closed, Count.write], closed,
      fun rest => by simp [scan, begins]⟩

section Inside

variable {t : Span} (h : s ∈ Site.all tokens) (tracks : c.Tracks tokens (some t))
include h tracks

/-- Inside of a transaction, another one that begins is counted. -/
theorem follows_of_begins (begins : Rules.Transaction.begins s) : c.Follows tokens (some t) s := by
  obtain ⟨depth, databases, opened, openedAt⟩ := tracks
  rw [Count.Follows, Count.step, beginsAt_eq h, Checked.ok_bind]
  exact ⟨{ c with depth := c.depth + 1 }, some { t with nested := t.nested + 1 }, none,
    by simp [begins, Count.enter, depth], ⟨congrArg (· + 1) depth, databases, opened, openedAt⟩,
    fun rest => by simp [scan, begins]⟩

/-- Inside of a transaction the count is above zero, so that one can be taken off it at an end. -/
theorem follows_of_ends (noBegin : ¬ Rules.Transaction.begins s) (ends : Rules.Transaction.ends s) :
    c.Follows tokens (some t) s := by
  obtain ⟨depth, databases, opened, openedAt⟩ := tracks
  have word : s.token.isAnyKeyword ["COMMIT", "ROLLBACK"] := ends
  rw [Count.Follows, Count.step, beginsAt_eq h, Checked.ok_bind]
  cases nested : t.nested with
  | zero =>
      have remark : Count.remark? tokens { c with depth := 0 } = _ :=
        remark?_eq rfl databases opened openedAt
      exact ⟨{ c with depth := 0 }, none, t.flag?,
        by simp [noBegin, word, depth, nested, remark], rfl,
        fun rest => by simp [scan, noBegin, ends, nested]⟩
  | succ outer =>
      have remark : Count.remark? tokens { c with depth := outer + 1 } = .ok none := by
        simp [Count.remark?]
      exact ⟨{ c with depth := outer + 1 }, some { t with nested := outer }, none,
        by simp [noBegin, word, depth, nested, remark], ⟨rfl, databases, opened, openedAt⟩,
        fun rest => by simp [scan, noBegin, ends, nested]⟩

/-- Inside of a transaction, any other token may write to a table. -/
theorem follows_of_neither (enclosed : ∀ t ∈ tokens, t.Enclosed)
    (noBegin : ¬ Rules.Transaction.begins s) (noEnd : ¬ Rules.Transaction.ends s) :
    c.Follows tokens (some t) s := by
  obtain ⟨depth, databases, opened, openedAt⟩ := tracks
  have noWord : s.token.isAnyKeyword ["COMMIT", "ROLLBACK"] = false := Bool.eq_false_iff.mpr noEnd
  have inside : 0 < c.depth := depth ▸ Nat.succ_pos _
  rw [Count.Follows, Count.step, beginsAt_eq h, Checked.ok_bind, write_eq enclosed h inside]
  cases written : Rules.Transaction.writes? s with
  | none =>
      exact ⟨c, some t, none, by simp [noBegin, noWord], ⟨depth, databases, opened, openedAt⟩,
        fun rest => by simp [scan, noBegin, noEnd, written]⟩
  | some database =>
      exact ⟨{ c with databases := c.databases.insert database },
        some { t with databases := t.databases.insert database }, none,
        by simp [noBegin, noWord],
        ⟨depth, congrArg (List.insert database) databases, opened, openedAt⟩,
        fun rest => by simp [scan, noBegin, noEnd, written]⟩

end Inside

/-- With each token, the count goes on to track what the rule keeps, and the same is remarked. -/
theorem follows (enclosed : ∀ t ∈ tokens, t.Enclosed) (h : s ∈ Site.all tokens)
    (tracks : c.Tracks tokens open?) : c.Follows tokens open? s := by
  cases open? with
  | none => exact follows_of_closed h tracks
  | some t =>
      by_cases begins : Rules.Transaction.begins s
      · exact follows_of_begins h tracks begins
      · by_cases ends : Rules.Transaction.ends s
        · exact follows_of_ends h tracks begins ends
        · exact follows_of_neither h tracks enclosed begins ends

/-- The remarks on consecutive sites are the rule's, when the count tracks what the rule keeps. -/
theorem run_eq (enclosed : ∀ t ∈ tokens, t.Enclosed) {sites : List Site}
    (inside : ∀ s ∈ sites, s ∈ Site.all tokens) (tracks : c.Tracks tokens open?) :
    c.run tokens (sites.map fun s => (s.token, s.index)) =
      .ok ((scan open? sites).map Flag.remark) := by
  induction sites generalizing c open? with
  | nil => cases open? <;> simp [Count.run, scan]
  | cons s sites ih =>
      obtain ⟨first, others⟩ := List.forall_mem_cons.mp inside
      obtain ⟨next, after?, flag?, step, tracks, scanned⟩ := follows enclosed first tracks
      rw [List.map_cons, Count.run, step, Checked.ok_bind]
      dsimp only
      rw [ih others tracks, Checked.ok_bind, scanned]
      cases flag? <;> rfl

theorem agrees_crossDatabaseTransaction :
    crossDatabaseTransaction.Agrees Rules.crossDatabaseTransaction := by
  refine ⟨rfl, fun s enclosed => ?_⟩
  have started : (⟨0, 0, []⟩ : Count).Tracks s.tokens none := rfl
  have followed := run_eq enclosed (fun _ member => member) started
  rwa [← zipIdx_eq_map_all] at followed

end SqlLint.Indexed
