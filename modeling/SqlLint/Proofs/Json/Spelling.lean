import SqlLint.Proofs.Json.Reading
import SqlLint.Proofs.Outcome
import SqlLint.Text.WhiteSpace

/-!
# Documents as the tokens they are written with

A well formed document is written with tokens in one way only, blanks apart: `Document.tokens` is
that way, and it is the other direction of reading. Reading tokens up to the end of a document gives
the document whose tokens they are, and reading the tokens of a well formed document gives it back.
So the texts that are exactly one document are known without going through the steps of reading.

For the first direction each state of reading is held against the tokens that led to it: those of
the containers that are open, and those of what was read last. A step adds one token to both sides.
-/

namespace SqlLint.Json

namespace Document

mutual

/-- The tokens a well formed document is written with. -/
def tokens : Document → List Token
  | .null => [.null]
  | .bool b => [.bool b]
  | .number text => [.number text]
  | .string raw => [.string raw]
  | .array items _ => .openArray :: ([Token.comma].intercalate (itemTokens items) ++ [.closeArray])
  | .object members _ =>
    .openObject :: ([Token.comma].intercalate (memberTokens members) ++ [.closeObject])
  | .broken => [.bad]

/-- The tokens of each item of an array. -/
def itemTokens : List Document → List (List Token)
  | [] => []
  | item :: rest => item.tokens :: itemTokens rest

/-- The tokens of each member of an object. -/
def memberTokens : List (List Char × Document) → List (List Token)
  | [] => []
  | (key, value) :: rest => (.string key :: .colon :: value.tokens) :: memberTokens rest

end

variable {items : List Document} {members : List (List Char × Document)}

@[simp] theorem itemTokens_append (items others : List Document) :
    itemTokens (items ++ others) = itemTokens items ++ itemTokens others := by
  induction items with
  | nil => rfl
  | cons item items ih => simp [itemTokens, ih]

@[simp] theorem memberTokens_append (members others : List (List Char × Document)) :
    memberTokens (members ++ others) = memberTokens members ++ memberTokens others := by
  induction members with
  | nil => rfl
  | cons member members ih => simp [memberTokens, ih]

theorem areComplete_iff : areComplete items ↔ ∀ item ∈ items, item.isComplete := by
  induction items with
  | nil => simp [areComplete]
  | cons item items ih => simp [areComplete, ih]

theorem haveCompleteValues_iff :
    haveCompleteValues members ↔ ∀ member ∈ members, member.2.isComplete := by
  induction members with
  | nil => simp [haveCompleteValues]
  | cons member members ih => simp [haveCompleteValues, ih]

theorem tokens_ne_nil (d : Document) : d.tokens ≠ [] := by
  cases d <;> simp [tokens]

end Document

/-- Parts with a comma behind each. -/
def listed (parts : List (List Token)) : List Token := parts.flatMap (· ++ [.comma])

@[simp] theorem listed_append (parts others : List (List Token)) :
    listed (parts ++ others) = listed parts ++ listed others := by
  simp [listed]

@[simp] theorem listed_singleton (part : List Token) : listed [part] = part ++ [.comma] := by
  simp [listed]

theorem intercalate_append_singleton (parts : List (List Token)) (last : List Token) :
    [Token.comma].intercalate (parts ++ [last]) = listed parts ++ last := by
  induction parts with
  | nil => simp [listed]
  | cons part parts ih =>
      have more : parts ++ [last] ≠ [] := by simp
      rw [List.cons_append, List.intercalate_cons_of_ne_nil more, ih]
      simp [listed]

namespace Frame

/-- The tokens of an open container up to the place where a value comes next. -/
def tokens : Frame → List Token
  | .items done => .openArray :: listed (Document.itemTokens done.reverse)
  | .members done key =>
    .openObject :: (listed (Document.memberTokens done.reverse) ++ [.string key, .colon])

/-- Whether everything that was read in an open container is well formed. -/
def isComplete : Frame → Bool
  | .items done => Document.areComplete done
  | .members done _ => Document.haveCompleteValues done

end Frame

/-- Tokens that open containers, with only well formed values inside. -/
structure Opens (stack : List Frame) (tokens : List Token) : Prop where
  complete : ∀ frame ∈ stack, frame.isComplete
  tokens : tokens = stack.reverse.flatMap Frame.tokens

namespace Opens

variable {stack : List Frame} {tokens : List Token} {key : List Char} {d : Document}
variable {items : List Document} {members : List (List Char × Document)}

theorem nil : Opens [] [] := ⟨by simp, rfl⟩

theorem cons_iff {frame : Frame} : Opens (frame :: stack) tokens ↔
    frame.isComplete ∧ ∃ before, Opens stack before ∧ tokens = before ++ frame.tokens := by
  constructor
  · rintro ⟨complete, rfl⟩
    rw [List.forall_mem_cons] at complete
    exact ⟨complete.1, _, ⟨complete.2, rfl⟩, by simp⟩
  · rintro ⟨complete, before, opens, rfl⟩
    exact ⟨List.forall_mem_cons.mpr ⟨complete, opens.complete⟩, by simp [opens.tokens]⟩

theorem array (opens : Opens stack tokens) :
    Opens (.items [] :: stack) (tokens ++ [.openArray]) :=
  cons_iff.mpr ⟨rfl, tokens, opens, rfl⟩

theorem object (opens : Opens stack tokens) :
    Opens (.members [] key :: stack) (tokens ++ [.openObject, .string key, .colon]) :=
  cons_iff.mpr ⟨rfl, tokens, opens, rfl⟩

/-- A comma behind an item makes room for the next one. -/
theorem nextItem (opens : Opens (.items items :: stack) tokens) (complete : d.isComplete) :
    Opens (.items (d :: items) :: stack) (tokens ++ d.tokens ++ [.comma]) := by
  obtain ⟨earlier, before, outside, rfl⟩ := cons_iff.mp opens
  refine cons_iff.mpr ⟨?_, before, outside, ?_⟩
  · simpa [Frame.isComplete, Document.areComplete, complete] using earlier
  · simp [Frame.tokens, Document.itemTokens]

/-- A comma behind a member makes room for the next key. -/
theorem nextMember {next : List Char} (opens : Opens (.members members key :: stack) tokens)
    (complete : d.isComplete) : Opens (.members ((key, d) :: members) next :: stack)
      (tokens ++ d.tokens ++ [.comma, .string next, .colon]) := by
  obtain ⟨earlier, before, outside, rfl⟩ := cons_iff.mp opens
  refine cons_iff.mpr ⟨?_, before, outside, ?_⟩
  · simpa [Frame.isComplete, Document.haveCompleteValues, complete] using earlier
  · simp [Frame.tokens, Document.memberTokens]

end Opens

namespace Reading

/-- Whether reading stands where tokens lead that are well formed so far. States in which the text
went wrong say nothing of the tokens. -/
def Follows (tokens : List Token) : Reading → Prop
  | .value stack => Opens stack tokens
  | .firstItem stack => ∃ before, Opens stack before ∧ tokens = before ++ [.openArray]
  | .firstKey stack => ∃ before, Opens stack before ∧ tokens = before ++ [.openObject]
  | .nextKey done stack => ∀ key,
      Opens (.members done key :: stack) (tokens ++ [.string key, .colon])
  | .colon done key stack => Opens (.members done key :: stack) (tokens ++ [.colon])
  | .afterItem done stack => ∃ item earlier before, done = item :: earlier ∧ item.isComplete ∧
      Opens (.items earlier :: stack) before ∧ tokens = before ++ item.tokens
  | .afterMember done stack => ∃ key value earlier before, done = (key, value) :: earlier ∧
      value.isComplete ∧ Opens (.members earlier key :: stack) before ∧
      tokens = before ++ value.tokens
  | .complete d => d.isComplete ∧ tokens = d.tokens
  | .halted _ | .overrun _ => True

section Sound

variable {stack : List Frame} {before tokens : List Token} {token : Token} {d : Document}
variable {r : Reading}

theorem follows_place (opens : Opens stack before) (complete : d.isComplete) :
    Follows (before ++ d.tokens) (place d stack) := by
  cases stack with
  | nil =>
      obtain ⟨-, rfl⟩ := opens
      exact ⟨complete, rfl⟩
  | cons frame stack =>
      cases frame with
      | items done => exact ⟨d, done, before, rfl, complete, opens, rfl⟩
      | members done key => exact ⟨key, d, done, before, rfl, complete, opens, rfl⟩

theorem follows_begin (opens : Opens stack before) :
    Follows (before ++ [token]) (begin stack token) := by
  cases token with
  | null => exact follows_place opens (d := .null) rfl
  | bool b => exact follows_place opens (d := .bool b) rfl
  | number text => exact follows_place opens (d := .number text) rfl
  | string raw => exact follows_place opens (d := .string raw) rfl
  | openArray | openObject => exact ⟨before, opens, rfl⟩
  | closeArray | closeObject | colon | comma | bad => trivial

/-- One more token leads one step further. -/
theorem Follows.step (follows : Follows tokens r) : Follows (tokens ++ [token]) (r.step token) := by
  cases r with
  | value stack => exact follows_begin follows
  | firstItem stack =>
      obtain ⟨before, opens, rfl⟩ := follows
      cases token with
      | closeArray =>
          rw [List.append_assoc]
          exact follows_place opens (d := .array [] true) rfl
      | bad => trivial
      | null | bool | number | string | openArray | openObject | closeObject | colon | comma =>
          exact follows_begin opens.array
  | firstKey stack =>
      obtain ⟨before, opens, rfl⟩ := follows
      cases token with
      | closeObject =>
          rw [List.append_assoc]
          exact follows_place opens (d := .object [] .closed) rfl
      | string raw =>
          have inside : Opens (.members [] raw :: stack) _ := opens.object
          simpa [Follows, Reading.step] using inside
      | null | bool | number | openArray | closeArray | openObject | colon | comma | bad => trivial
  | nextKey done stack =>
      cases token with
      | string raw => simpa [Follows, Reading.step] using follows raw
      | null | bool | number | openArray | closeArray | openObject | closeObject | colon | comma
      | bad => trivial
  | colon done key stack =>
      cases token with
      | colon => exact follows
      | null | bool | number | string | openArray | closeArray | openObject | closeObject | comma
      | bad => trivial
  | afterItem done stack =>
      obtain ⟨item, earlier, before, rfl, complete, opens, rfl⟩ := follows
      cases token with
      | comma => exact opens.nextItem complete
      | closeArray =>
          obtain ⟨inside, before, outside, rfl⟩ := Opens.cons_iff.mp opens
          have whole := follows_place outside (d := .array (item :: earlier).reverse true) (by
            simp only [Document.isComplete, Document.areComplete_iff, Bool.true_and,
              List.mem_reverse, List.forall_mem_cons]
            exact ⟨complete, Document.areComplete_iff.mp inside⟩)
          simpa [Reading.step, Document.tokens, Frame.tokens, Document.itemTokens,
            intercalate_append_singleton] using whole
      | null | bool | number | string | openArray | openObject | closeObject | colon | bad =>
          trivial
  | afterMember done stack =>
      obtain ⟨key, value, earlier, before, rfl, complete, opens, rfl⟩ := follows
      cases token with
      | comma =>
          intro next
          have inside : Opens (.members _ next :: stack) _ := opens.nextMember complete
          simpa using inside
      | closeObject =>
          obtain ⟨inside, before, outside, rfl⟩ := Opens.cons_iff.mp opens
          have whole := follows_place outside
            (d := .object ((key, value) :: earlier).reverse .closed) (by
              simp only [Document.isComplete, Document.haveCompleteValues_iff, List.mem_reverse,
                List.forall_mem_cons]
              exact ⟨complete, Document.haveCompleteValues_iff.mp inside⟩)
          simpa [Reading.step, Document.tokens, Frame.tokens, Document.memberTokens,
            intercalate_append_singleton] using whole
      | null | bool | number | string | openArray | closeArray | openObject | colon | bad =>
          trivial
  | complete | halted | overrun => trivial

theorem follows_ofTokens (tokens : List Token) : Follows tokens (ofTokens tokens) := by
  -- From the last token: what follows is said of the tokens already taken.
  induction tokens using List.reverseRecOn with
  | nil => exact Opens.nil
  | append_singleton tokens token ih =>
      rw [ofTokens, List.foldl_append]
      exact ih.step

end Sound

section Complete

/-- A key and its colon lead to where the value of the member is awaited. -/
theorem foldl_member (key : List Char) (tokens : List Token) (done : List (List Char × Document))
    (stack : List Frame) : (.string key :: .colon :: tokens).foldl step (enterMember stack done) =
      tokens.foldl step (.value (.members done key :: stack)) := by
  rw [List.foldl_cons, awaitsKey_enterMember]
  rfl

mutual

/-- The tokens of a well formed document take any state that awaits a value to the one behind it. -/
theorem foldl_tokens : ∀ (d : Document), d.isComplete → ∀ {r stack}, Awaits r stack →
    d.tokens.foldl step r = place d stack
  | .null, _, _, _, awaits => awaits _ (by simp) (by simp)
  | .bool _, _, _, _, awaits => awaits _ (by simp) (by simp)
  | .number _, _, _, _, awaits => awaits _ (by simp) (by simp)
  | .string _, _, _, _, awaits => awaits _ (by simp) (by simp)
  | .array items true, sound, r, stack, awaits => by
      have inside : Document.areComplete items := by simpa [Document.isComplete] using sound
      rw [Document.tokens, List.foldl_cons, awaits _ (by simp) (by simp), List.foldl_append]
      change ([Token.closeArray] : List Token).foldl step
        (([Token.comma].intercalate _).foldl step (enterItem stack [])) = _
      by_cases none : items = []
      · subst none
        rfl
      · rw [foldl_itemTokens items inside none]
        simp [step]
  | .object members .closed, sound, r, stack, awaits => by
      rw [Document.tokens, List.foldl_cons, awaits _ (by simp) (by simp), List.foldl_append]
      change ([Token.closeObject] : List Token).foldl step
        (([Token.comma].intercalate _).foldl step (enterMember stack [])) = _
      by_cases none : members = []
      · subst none
        rfl
      · rw [foldl_memberTokens members sound none]
        simp [step]

theorem foldl_itemTokens : ∀ (items : List Document), Document.areComplete items → items ≠ [] →
    ∀ {done stack}, ([Token.comma].intercalate (Document.itemTokens items)).foldl step
      (enterItem stack done) = .afterItem (items.reverse ++ done) stack
  | [item], sound, _, done, stack => by
      have first : item.isComplete := by simpa [Document.areComplete] using sound
      rw [Document.itemTokens, Document.itemTokens, List.intercalate_singleton]
      exact foldl_tokens item first (awaits_enterItem stack done)
  | item :: next :: rest, sound, _, done, stack => by
      rw [Document.areComplete, Bool.and_eq_true] at sound
      rw [Document.itemTokens, List.intercalate_cons_of_ne_nil (by simp [Document.itemTokens]),
        List.foldl_append, List.foldl_append,
        foldl_tokens item sound.1 (awaits_enterItem stack done)]
      have others := @foldl_itemTokens (next :: rest) sound.2 (by simp) (item :: done) stack
      rw [List.reverse_cons, List.append_assoc]
      exact others

theorem foldl_memberTokens : ∀ (members : List (List Char × Document)),
    Document.haveCompleteValues members → members ≠ [] → ∀ {done stack},
      ([Token.comma].intercalate (Document.memberTokens members)).foldl step
        (enterMember stack done) = .afterMember (members.reverse ++ done) stack
  | [(key, d)], sound, _, done, stack => by
      have first : d.isComplete := by simpa [Document.haveCompleteValues] using sound
      rw [Document.memberTokens, Document.memberTokens, List.intercalate_singleton, foldl_member]
      exact foldl_tokens d first (awaits_value _)
  | (key, d) :: next :: rest, sound, _, done, stack => by
      rw [Document.haveCompleteValues, Bool.and_eq_true] at sound
      rw [Document.memberTokens,
        List.intercalate_cons_of_ne_nil (by cases next; simp [Document.memberTokens]),
        List.foldl_append, List.foldl_append, foldl_member,
        foldl_tokens d sound.1 (awaits_value _)]
      have others := @foldl_memberTokens (next :: rest) sound.2 (by simp) ((key, d) :: done) stack
      rw [List.reverse_cons, List.append_assoc]
      exact others

end

end Complete

/-- Tokens are read as a document just if they are the ones it is written with. -/
theorem ofTokens_eq_complete_iff {tokens : List Token} {d : Document} :
    ofTokens tokens = .complete d ↔ d.isComplete ∧ tokens = d.tokens := by
  constructor
  · intro done
    have follows := follows_ofTokens tokens
    rwa [done] at follows
  · rintro ⟨complete, rfl⟩
    exact foldl_tokens d complete (awaits_value [])

end Reading

/-- Whether a text is exactly one document: it is well formed and its tokens are those of the
document. -/
structure Spells (text : String) (d : Document) : Prop where
  complete : d.isComplete
  tokens : Token.ofText text = d.tokens

theorem ofText_eq_complete_iff {text : String} {d : Document} :
    Reading.ofText text = .complete d ↔ Spells text d := by
  rw [Reading.ofText, Reading.ofTokens_eq_complete_iff]
  exact ⟨fun h => ⟨h.1, h.2⟩, fun h => ⟨h.complete, h.tokens⟩⟩

theorem Spells.unique {text : String} {d d' : Document} (h : Spells text d) (h' : Spells text d') :
    d = d' := by
  have read := ofText_eq_complete_iff.mpr h
  rw [ofText_eq_complete_iff.mpr h'] at read
  exact (Reading.complete.inj read).symm

/-- A text is decoded just if it is exactly one document, which is decoded. -/
theorem read_eq_ok_iff {α : Type} {decode : Document → Decoded α} {text : String} {a : α} :
    read decode text = .ok a ↔ ∃ d, Spells text d ∧ decode d = .ok a := by
  rw [read]
  constructor
  · intro decoded
    obtain ⟨a', decoded, exactly⟩ := Except.bind_eq_ok_iff.mp decoded
    split at exactly
    · next exact =>
        cases exactly
        cases reading : Reading.ofText text with
        | complete d =>
            rw [reading] at decoded
            exact ⟨d, ofText_eq_complete_iff.mp reading, decoded⟩
        | _ =>
            rw [reading] at exact
            cases exact
    · cases exactly
  · rintro ⟨d, spelled, decoded⟩
    rw [ofText_eq_complete_iff.mpr spelled]
    exact Except.bind_eq_ok_iff.mpr ⟨a, decoded, rfl⟩

section Start

variable {d : Document}

theorem isWhiteSpace_of_isBlank {c : Char} (blank : isBlank c) :
    WhiteSpace.isWhiteSpace c := by
  simp only [isBlank, Bool.or_eq_true, decide_eq_true_eq] at blank
  rcases blank with ((rfl | rfl) | rfl) | rfl <;> decide

theorem trimStart_dropWhile (text : List Char) :
    WhiteSpace.trimStart (text.dropWhile isBlank) = WhiteSpace.trimStart text := by
  induction text with
  | nil => rfl
  | cons c text ih =>
      by_cases blank : isBlank c
      · rw [List.dropWhile_cons_of_pos blank, ih, WhiteSpace.trimStart, WhiteSpace.trimStart,
          List.dropWhile_cons_of_pos (isWhiteSpace_of_isBlank blank)]
      · rw [List.dropWhile_cons_of_neg blank]

/-- No token starts with white space; what is blank is passed over before. -/
theorem scan_of_isWhiteSpace {c : Char} (white : WhiteSpace.isWhiteSpace c) (tail : List Char) :
    Token.scan (c :: tail) = none := by
  rw [Token.scan.eq_def]
  split
  case h_1 => rfl
  case h_13 same =>
    obtain ⟨rfl, rfl⟩ := List.cons.inj same
    rw [if_neg]
    intro digit
    simp only [WhiteSpace.isWhiteSpace, Char.isDigit, Bool.and_eq_true, Bool.or_eq_true,
      decide_eq_true_eq, beq_iff_eq, ge_iff_le, UInt32.le_iff_toNat_le] at white digit
    change 48 ≤ c.toNat ∧ c.toNat ≤ 57 at digit
    omega
  all_goals
    next same =>
      obtain ⟨rfl, rfl⟩ := List.cons.inj same
      cases white

theorem scan_eq_openObject {c : Char} {tail rest : List Char}
    (scanned : Token.scan (c :: tail) = some (.openObject, rest)) : c = '\x7b' := by
  rw [Token.scan.eq_def] at scanned
  split at scanned
  case h_4 same => exact (List.cons.inj same).1
  case h_13 =>
    split_ifs at scanned
    obtain ⟨_, _, other⟩ := Option.map_eq_some_iff.mp scanned
    cases other
  all_goals
    first
    | cases scanned
    | obtain ⟨_, _, other⟩ := Option.map_eq_some_iff.mp scanned
      cases other

theorem exists_object_of_tokens {more : List Token} (complete : d.isComplete)
    (tokens : d.tokens = .openObject :: more) : ∃ raw, d = .object raw .closed := by
  cases d with
  | object raw ending =>
      cases ending with
      | closed => exact ⟨raw, rfl⟩
      | broken | strayKey => cases complete
  | _ => simp [Document.tokens] at tokens

/-- A text that is one document begins as an object does just if the document is one. -/
theorem Spells.head?_trimStart_iff {text : String} (spelled : Spells text d) :
    (WhiteSpace.trimStart text.toList).head? = some '\x7b' ↔
      ∃ raw, d = .object raw .closed := by
  have cut := spelled.tokens
  rw [Token.ofText, Token.cut_eq] at cut
  rw [← trimStart_dropWhile]
  cases solid : text.toList.dropWhile isBlank with
  | nil =>
      rw [solid] at cut
      exact absurd cut.symm d.tokens_ne_nil
  | cons c tail =>
      rw [solid] at cut
      simp only at cut
      cases scanned : Token.scan (c :: tail) with
      | none =>
          rw [scanned] at cut
          have complete := spelled.complete
          cases d <;> simp [Document.tokens] at cut
          cases complete
      | some read =>
          obtain ⟨token, rest⟩ := read
          rw [scanned] at cut
          have black : ¬ WhiteSpace.isWhiteSpace c := by
            intro white
            rw [scan_of_isWhiteSpace white] at scanned
            cases scanned
          rw [WhiteSpace.trimStart, List.dropWhile_cons_of_neg black, List.head?_cons,
            Option.some_inj]
          constructor
          · rintro rfl
            cases scanned
            exact exists_object_of_tokens spelled.complete cut.symm
          · rintro ⟨raw, rfl⟩
            obtain ⟨rfl, -⟩ := List.cons.inj cut
            exact scan_eq_openObject scanned

end Start

end SqlLint.Json
