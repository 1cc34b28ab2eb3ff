import SqlLint.Proofs.Script.Grammar

/-!
# The scan reads the grammar

What `Lexeme.scan` says of the front of a text is what the grammar says: it finds a lexeme exactly
when one of the forms is there, with its kind and its length, and it fails exactly when a construct
is opened that is never closed. The two searches for an end, of delimiters and of comments, are
treated first; each finds the end that the grammar describes and no other.
-/

namespace SqlLint.Lexeme

section Delimiters

variable {close : Char} {seen n : Nat} {text : List Char}

theorem closeLength?_append {body rest : List Char} (inside : Doubled close body)
    (closed : rest.head? ≠ some close) :
    closeLength? close seen (body ++ close :: rest) = some (seen + body.length + 1) := by
  induction inside generalizing seen with
  | nil =>
      cases rest with
      | nil => simp [closeLength?]
      | cons d rest =>
          have other : d ≠ close := by simpa using closed
          simp [closeLength?, other]
  | @plain c text other _ ih =>
      obtain ⟨d, more, next⟩ : ∃ d more, text ++ close :: rest = d :: more :=
        List.exists_cons_of_ne_nil (by simp)
      rw [List.cons_append, next, closeLength?, if_neg other, ← next, ih, List.length_cons]
      congr 1
      omega
  | pair _ ih =>
      simp only [List.cons_append, closeLength?, if_true, ih, List.length_cons]
      congr 1
      omega

theorem exists_of_closeLength?_eq_some (h : closeLength? close seen text = some n) :
    ∃ body rest, text = body ++ close :: rest ∧ Doubled close body ∧ rest.head? ≠ some close ∧
      n = seen + body.length + 1 := by
  induction seen, text using closeLength?.induct close with
  | case1 => simp [closeLength?] at h
  | case2 seen =>
      simp only [closeLength?, if_true, Option.some.injEq] at h
      exact ⟨[], [], rfl, .nil, by simp, h.symm⟩
  | case3 seen c other => simp [closeLength?, other] at h
  | case4 seen rest ih =>
      simp only [closeLength?, if_true] at h
      obtain ⟨body, after, rfl, inside, closed, rfl⟩ := ih h
      refine ⟨close :: close :: body, after, rfl, .pair inside, closed, ?_⟩
      simp only [List.length_cons]
      omega
  | case5 seen d rest other =>
      simp only [closeLength?, if_true, if_neg other, Option.some.injEq] at h
      exact ⟨[], d :: rest, rfl, .nil, by simpa using other, h.symm⟩
  | case6 seen c d rest other ih =>
      simp only [closeLength?, if_neg other] at h
      obtain ⟨body, after, split, inside, closed, rfl⟩ := ih h
      refine ⟨c :: body, after, by rw [split]; rfl, .plain other inside, closed, ?_⟩
      simp only [List.length_cons]
      omega

variable {construct : Unclosed} {opener : List Char} {kind : TokenKind}

theorem form_of_closeLength? (delimited : Delimited construct opener close kind)
    (h : closeLength? close seen text = some n) :
    ∃ body rest, text = body ++ rest ∧ n = seen + body.length ∧
      Form (.token kind) (opener ++ body) rest := by
  obtain ⟨body, rest, rfl, inside, closed, rfl⟩ := exists_of_closeLength?_eq_some h
  refine ⟨body ++ [close], rest, by simp, by simp [Nat.add_assoc], ?_⟩
  rw [← List.append_assoc]
  exact .delimited delimited inside closed

theorem neverClosed_of_closeLength? (delimited : Delimited construct opener close kind)
    (h : closeLength? close seen text = none) : NeverClosed construct (opener ++ text) := by
  refine .delimited delimited ?_
  rintro body rest rfl inside
  apply Classical.byContradiction
  intro closed
  rw [closeLength?_append inside closed] at h
  cases h

theorem closeLength?_eq_none
    (paired : ∀ body rest, text = body ++ close :: rest → Doubled close body →
      rest.head? = some close) : closeLength? close seen text = none := by
  cases h : closeLength? close seen text with
  | none => rfl
  | some n =>
      obtain ⟨body, rest, split, inside, closed, _⟩ := exists_of_closeLength?_eq_some h
      exact absurd (paired body rest split inside) closed

end Delimiters

section Comments

/-- Marks that leave `depth + 1` open comments with their last mark and not before. -/
inductive Exits : Nat → List Mark → Prop
  | last : Exits 0 [.closing]
  | opening {depth : Nat} {rest : List Mark} (exits : Exits (depth + 1) rest) :
      Exits depth (.opening :: rest)
  | closing {depth : Nat} {rest : List Mark} (exits : Exits depth rest) :
      Exits (depth + 1) (.closing :: rest)
  | plain {depth : Nat} {c : Char} {rest : List Mark} (exits : Exits depth rest) :
      Exits depth (.plain c :: rest)

theorem Balanced.exits_append {depth : Nat} {inner rest : List Mark} (balanced : Balanced inner)
    (exits : Exits depth rest) : Exits depth (inner ++ rest) := by
  induction balanced generalizing depth rest with
  | nil => exact exits
  | plain _ ih => exact .plain (ih exits)
  | nested _ _ inside after =>
      have closed := inside (.closing (after exits))
      simpa using Exits.opening closed

/-- The marks up to the one that closes the innermost comment are balanced. -/
theorem Exits.exists_balanced {depth : Nat} {all : List Mark} (exits : Exits depth all) :
    ∃ inner rest, all = inner ++ .closing :: rest ∧ Balanced inner ∧
      (depth = 0 ∧ rest = [] ∨ ∃ outer, depth = outer + 1 ∧ Exits outer rest) := by
  induction n : all.length using Nat.strongRecOn generalizing depth all with
  | ind n ih =>
      subst n
      cases exits with
      | last => exact ⟨[], [], rfl, .nil, .inl ⟨rfl, rfl⟩⟩
      | @closing outer rest exits => exact ⟨[], rest, rfl, .nil, .inr ⟨outer, rfl, exits⟩⟩
      | plain exits =>
          obtain ⟨inner, rest, rfl, balanced, after⟩ := ih _ (by simp) exits rfl
          exact ⟨_ :: inner, rest, rfl, .plain balanced, after⟩
      | opening exits =>
          -- The comment opened here is closed first, and then the one around it.
          obtain ⟨inner, rest, rfl, inside, after⟩ := ih _ (by simp) exits rfl
          obtain ⟨none, _⟩ | ⟨outer, same, exits⟩ := after
          · cases none
          · cases same
            obtain ⟨more, last, rfl, balanced, after⟩ := ih _ (by simp; omega) exits rfl
            exact ⟨.opening :: (inner ++ .closing :: more), last, by simp,
              .nested inside balanced, after⟩

theorem exits_zero_iff {all : List Mark} :
    Exits 0 all ↔ ∃ inner, all = inner ++ [.closing] ∧ Balanced inner := by
  constructor
  · intro exits
    obtain ⟨inner, rest, rfl, balanced, ⟨_, rfl⟩ | ⟨outer, same, _⟩⟩ := exits.exists_balanced
    · exact ⟨inner, rfl, balanced⟩
    · cases same
  · rintro ⟨inner, rfl, balanced⟩
    exact balanced.exits_append .last

variable {depth seen n : Nat} {text : List Char}

theorem marks_eq_nil_iff : marks text = [] ↔ text = [] := by
  constructor
  · intro h
    induction text using marks.induct with
    | case1 | case2 => simp [marks] at h
    | case3 c rest noOpening noClosing => simp [marks.eq_3 _ _ noOpening noClosing] at h
    | case4 => rfl
  · rintro rfl
    rfl

theorem commentLength?_append {body : List Char} (exits : Exits depth (marks body))
    (rest : List Char) : commentLength? depth seen (body ++ rest) = some (seen + body.length) := by
  induction body using marks.induct generalizing depth seen with
  | case1 body ih =>
      simp only [marks] at exits
      cases exits with
      | opening exits =>
          simp only [List.cons_append, commentLength?, ih exits, List.length_cons]
          congr 1
          omega
  | case2 body ih =>
      simp only [marks] at exits
      generalize after : marks body = rest at exits
      cases exits with
      | last =>
          rw [marks_eq_nil_iff] at after
          subst after
          rfl
      | closing exits =>
          subst after
          simp only [List.cons_append, commentLength?, ih exits, List.length_cons]
          congr 1
          omega
  | case3 c body noOpening noClosing ih =>
      rw [marks.eq_3 _ _ noOpening noClosing] at exits
      cases exits with
      | plain exits =>
          have nonempty : body ≠ [] := by
            rintro rfl
            cases exits
          obtain ⟨d, more, rfl⟩ := List.exists_cons_of_ne_nil nonempty
          rw [List.cons_append, commentLength?.eq_4, ih exits]
          · simp only [List.length_cons]
            congr 1
            omega
          · rintro tail rfl next
            exact noOpening _ rfl (by cases next; rfl)
          · rintro tail rfl next
            exact noClosing _ rfl (by cases next; rfl)
  | case4 => cases exits

theorem exists_of_commentLength?_eq_some (h : commentLength? depth seen text = some n) :
    ∃ body rest, text = body ++ rest ∧ Exits depth (marks body) ∧ n = seen + body.length := by
  induction depth, seen, text using commentLength?.induct with
  | case1 depth seen rest ih =>
      simp only [commentLength?] at h
      obtain ⟨body, after, rfl, exits, rfl⟩ := ih h
      refine ⟨'/' :: '*' :: body, after, rfl, .opening exits, ?_⟩
      simp only [List.length_cons]
      omega
  | case2 seen rest =>
      simp only [commentLength?, Option.some.injEq] at h
      exact ⟨['*', '/'], rest, rfl, .last, h.symm⟩
  | case3 seen rest outer ih =>
      simp only [commentLength?] at h
      obtain ⟨body, after, rfl, exits, rfl⟩ := ih h
      refine ⟨'*' :: '/' :: body, after, rfl, .closing exits, ?_⟩
      simp only [List.length_cons]
      omega
  | case4 depth seen c rest noOpening noClosing ih =>
      rw [commentLength?.eq_4 _ _ _ _ noOpening noClosing] at h
      obtain ⟨body, after, rfl, exits, rfl⟩ := ih h
      refine ⟨c :: body, after, rfl, ?_, ?_⟩
      · rw [marks.eq_3]
        · exact .plain exits
        · rintro tail rfl rfl
          exact noOpening _ rfl rfl
        · rintro tail rfl rfl
          exact noClosing _ rfl rfl
      · simp only [List.length_cons]
        omega
  | case5 => simp [commentLength?] at h

theorem blockComment_iff {piece : List Char} :
    BlockComment piece ↔ ∃ body, piece = '/' :: '*' :: body ∧ Exits 0 (marks body) := by
  simp only [BlockComment, exits_zero_iff]
  constructor
  · rintro ⟨inner, marked, balanced⟩
    cases piece using marks.fun_cases with
    | case1 rest =>
        simp only [marks, List.cons.injEq, true_and] at marked
        exact ⟨rest, rfl, inner, marked, balanced⟩
    | case2 => simp [marks] at marked
    | case3 c rest noOpening noClosing => simp [marks.eq_3 _ _ noOpening noClosing] at marked
    | case4 => simp [marks] at marked
  · rintro ⟨body, rfl, inner, marked, balanced⟩
    exact ⟨inner, by simp [marks, marked], balanced⟩

theorem form_of_commentLength? (h : commentLength? 0 seen text = some n) :
    ∃ body rest, text = body ++ rest ∧ n = seen + body.length ∧
      Form .blockComment ('/' :: '*' :: body) rest := by
  obtain ⟨body, rest, rfl, exits, rfl⟩ := exists_of_commentLength?_eq_some h
  exact ⟨body, rest, rfl, rfl, .blockComment (blockComment_iff.mpr ⟨body, rfl, exits⟩)⟩

theorem neverClosed_of_commentLength? (h : commentLength? 0 seen text = none) :
    NeverClosed .blockComment ('/' :: '*' :: text) := by
  refine .blockComment fun piece rest split comment => ?_
  obtain ⟨body, rfl, exits⟩ := blockComment_iff.mp comment
  obtain rfl : text = body ++ rest := by simpa using split
  rw [commentLength?_append exits] at h
  cases h

theorem commentLength?_eq_none
    (unended : ∀ piece rest, '/' :: '*' :: text = piece ++ rest → ¬ BlockComment piece) :
    commentLength? 0 seen text = none := by
  cases h : commentLength? 0 seen text with
  | none => rfl
  | some n =>
      obtain ⟨body, rest, rfl, exits, _⟩ := exists_of_commentLength?_eq_some h
      exact absurd (blockComment_iff.mpr ⟨body, rfl, exits⟩) (unended _ rest rfl)

end Comments

section Runs

variable {p : Char → Bool}

theorem runLength_append {body rest : List Char} (inside : ∀ d ∈ body, p d)
    (stops : StopsAt p rest) : runLength p (body ++ rest) = body.length := by
  rw [runLength, List.takeWhile_append_of_pos inside]
  cases rest with
  | nil => simp
  | cons d rest => simp [StopsAt.cons_iff.mp stops]

theorem exists_of_runLength (p : Char → Bool) (text : List Char) :
    ∃ body rest, text = body ++ rest ∧ runLength p text = body.length ∧ (∀ d ∈ body, p d) ∧
      StopsAt p rest := by
  refine ⟨text.takeWhile p, text.dropWhile p, List.takeWhile_append_dropWhile.symm, rfl, ?_, ?_⟩
  · intro d member
    exact List.all_eq_true.mp List.all_takeWhile d member
  · intro d first
    have := List.head?_dropWhile_not p text
    rw [first] at this
    simpa using this

end Runs

section Characters

variable {c : Char}

theorem startsWord_eq_false_of_isDigit (digit : c.isDigit) : startsWord c = false := by
  have underscore : c ≠ '_' := by rintro rfl; cases digit
  have hash : c ≠ '#' := by rintro rfl; cases digit
  have code : c.toNat = c.val.toNat := rfl
  simp only [Char.isDigit, Bool.and_eq_true, decide_eq_true_eq, UInt32.le_iff_toNat_le] at digit
  simp [startsWord, Char.isAlpha, Char.isUpper, Char.isLower, UInt32.le_iff_toNat_le, underscore,
    hash]
  simp at digit
  omega

/-- A character that `p` tells apart from another one is not that one. -/
theorem ne_of_apply {p : Char → Bool} (h : p c) {d : Char} (other : p d = false) : c ≠ d := by
  rintro rfl
  rw [h] at other
  cases other

end Characters

variable {c : Char} {kind : LexemeKind} {text body rest : List Char} {n : Nat}

/-- Where a form is, the scan finds it. -/
theorem scan_of_form (form : Form kind (c :: body) rest) :
    scan c (body ++ rest) = .ok (kind, body.length) := by
  generalize whole : c :: body = piece at form
  cases form with
  | blank blank =>
      cases whole
      simp [scan, blank]
  | @lineComment body rest inside stops =>
      cases whole
      have run : runLength (· ≠ '\n') ('-' :: body ++ rest) = ('-' :: body).length :=
        runLength_append (by simpa using inside) stops
      simpa [scan, isBlank] using run
  | blockComment comment =>
      subst whole
      obtain ⟨tail, whole, exits⟩ := blockComment_iff.mp comment
      cases whole
      simp [scan, isBlank, commentLength?_append exits, Nat.add_comm]
  | delimited delimited inside closed =>
      cases delimited with
      | string | bracket | doubleQuote =>
          cases whole
          simp [scan, isBlank, closeLength?_append inside closed]
      | national marker =>
          cases whole
          obtain rfl | rfl := marker <;>
            simp [scan, isBlank, closeLength?_append inside closed, Nat.add_comm]
  | variableName inside stops =>
      cases whole
      simp [scan, isBlank, runLength_append inside stops]
  | number digit inside stops =>
      cases whole
      have other {d : Char} := ne_of_apply (d := d) digit
      simp [scan, isBlank, runLength_append inside stops, other, digit]
  | word starts plain inside stops =>
      cases whole
      have other (d : Char) (h : startsWord d = false) : c ≠ d := ne_of_apply starts h
      have noDigit : c.isDigit = false := by
        cases digit : c.isDigit with
        | false => rfl
        | true => simp [startsWord_eq_false_of_isDigit digit] at starts
      have blank : isBlank c = false := by
        simp [isBlank, other ' ' rfl, other '\t' rfl, other '\r' rfl, other '\n' rfl]
      rw [OpensNational] at plain
      simp only [scan, blank, other '-' rfl, other '/' rfl, other '\'' rfl, other '[' rfl,
        other '"' rfl, other '@' rfl, plain, noDigit, starts, runLength_append inside stops]
      simp
  | symbol single =>
      cases whole
      simp only [Opens, not_or] at single
      obtain ⟨blank, line, block, quote, bracket, double, sign, digit, noWord⟩ := single
      have national : ¬ OpensNational c rest := by
        rintro ⟨rfl | rfl, _⟩ <;> exact noWord rfl
      rw [OpensNational] at national
      simp only [List.nil_append, scan, blank, line, block, quote, national, bracket, double, sign,
        digit, noWord]
      rfl

/-- What the scan finds is a form, and where it fails a construct is never closed. -/
theorem scan_sound (c : Char) (text : List Char) :
    match scan c text with
    | .ok (kind, n) =>
        ∃ body rest, text = body ++ rest ∧ n = body.length ∧ Form kind (c :: body) rest
    | .error construct => NeverClosed construct (c :: text) := by
  fun_cases scan c text with
  | case1 blank => exact ⟨[], text, rfl, rfl, .blank blank⟩
  | case2 _ opens =>
      obtain ⟨rfl, next⟩ := opens
      obtain ⟨rest, rfl⟩ := List.head?_eq_some_iff.mp next
      obtain ⟨body, after, rfl, length, inside, stops⟩ := exists_of_runLength (· ≠ '\n') rest
      refine ⟨'-' :: body, after, rfl, ?_, .lineComment (by simpa using inside) stops⟩
      simpa [runLength] using length
  | case3 _ _ opens n found =>
      obtain ⟨rfl, next⟩ := opens
      obtain ⟨rest, rfl⟩ := List.head?_eq_some_iff.mp next
      obtain ⟨body, after, rfl, rfl, form⟩ := form_of_commentLength? found
      exact ⟨'*' :: body, after, rfl, by simp [Nat.add_comm], form⟩
  | case4 _ _ opens missing =>
      obtain ⟨rfl, next⟩ := opens
      obtain ⟨rest, rfl⟩ := List.head?_eq_some_iff.mp next
      exact neverClosed_of_commentLength? missing
  | case5 _ _ _ opens n found =>
      subst opens
      simpa using form_of_closeLength? .string found
  | case6 _ _ _ opens missing =>
      subst opens
      exact neverClosed_of_closeLength? .string missing
  | case7 _ _ _ _ opens n found =>
      obtain ⟨marker, next⟩ := opens
      obtain ⟨rest, rfl⟩ := List.head?_eq_some_iff.mp next
      obtain ⟨body, after, rfl, rfl, form⟩ := form_of_closeLength? (.national marker) found
      exact ⟨'\'' :: body, after, rfl, by simp [Nat.add_comm], form⟩
  | case8 _ _ _ _ opens missing =>
      obtain ⟨marker, next⟩ := opens
      obtain ⟨rest, rfl⟩ := List.head?_eq_some_iff.mp next
      exact neverClosed_of_closeLength? (.national marker) missing
  | case9 _ _ _ _ _ opens n found =>
      subst opens
      simpa using form_of_closeLength? .bracket found
  | case10 _ _ _ _ _ opens missing =>
      subst opens
      exact neverClosed_of_closeLength? .bracket missing
  | case11 _ _ _ _ _ _ opens n found =>
      subst opens
      simpa using form_of_closeLength? .doubleQuote found
  | case12 _ _ _ _ _ _ opens missing =>
      subst opens
      exact neverClosed_of_closeLength? .doubleQuote missing
  | case13 _ _ _ _ _ _ _ opens =>
      subst opens
      obtain ⟨body, rest, rfl, length, inside, stops⟩ := exists_of_runLength _ text
      exact ⟨body, rest, rfl, length, .variableName inside stops⟩
  | case14 _ _ _ _ _ _ _ _ digit =>
      obtain ⟨body, rest, rfl, length, inside, stops⟩ := exists_of_runLength _ text
      exact ⟨body, rest, rfl, length, .number digit inside stops⟩
  | case15 _ _ _ _ plain _ _ _ _ starts =>
      obtain ⟨body, rest, rfl, length, inside, stops⟩ := exists_of_runLength _ text
      exact ⟨body, rest, rfl, length, .word starts plain inside stops⟩
  | case16 blank line block quote national bracket double sign digit word =>
      refine ⟨[], text, rfl, rfl, .symbol ?_⟩
      simp only [Opens, not_or]
      exact ⟨blank, line, block, quote, bracket, double, sign, digit, word⟩

/-- Where a construct is never closed, the scan fails. -/
theorem scan_of_neverClosed {construct : Unclosed} (h : NeverClosed construct (c :: text)) :
    scan c text = .error construct := by
  generalize whole : c :: text = all at h
  cases h with
  | delimited delimited paired =>
      cases delimited with
      | string | bracket | doubleQuote =>
          cases whole
          simp [scan, isBlank, closeLength?_eq_none paired]
      | national marker =>
          cases whole
          obtain rfl | rfl := marker <;> simp [scan, isBlank, closeLength?_eq_none paired]
  | blockComment unended =>
      cases whole
      simp [scan, isBlank, commentLength?_eq_none unended]

theorem scan_eq_ok_iff : scan c text = .ok (kind, n) ↔
    ∃ body rest, text = body ++ rest ∧ n = body.length ∧ Form kind (c :: body) rest := by
  constructor
  · intro found
    simpa [found] using scan_sound c text
  · rintro ⟨body, rest, rfl, rfl, form⟩
    exact scan_of_form form

theorem scan_eq_error_iff {construct : Unclosed} :
    scan c text = .error construct ↔ NeverClosed construct (c :: text) := by
  constructor
  · intro failed
    simpa [failed] using scan_sound c text
  · exact scan_of_neverClosed

end SqlLint.Lexeme
