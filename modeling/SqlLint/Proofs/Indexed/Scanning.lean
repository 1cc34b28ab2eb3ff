import SqlLint.Proofs.Indexed.Places

/-!
# Scanning bytes is scanning characters

Whatever the scan of a text asks about a character is told by each of its bytes: the bytes of a
character outside of ASCII are in no construct but words and the bodies of literals, names and
comments. So a loop over bytes that starts in front of a character comes to stand where the loop
over characters does, and no lexeme ends inside of a character.
-/

namespace SqlLint.Indexed

/-- Whether each byte of a character tells about a property of the character. -/
def Tells (p : UInt8 → Bool) (q : Char → Bool) : Prop := ∀ c, ∀ b ∈ utf8 [c], p b = q c

namespace Tells

variable {p p' : UInt8 → Bool} {q q' : Char → Bool} {c d : Char}

theorem or (h : Tells p q) (h' : Tells p' q') :
    Tells (fun b => p b || p' b) (fun c => q c || q' c) := by
  intro c b member
  simp only [h c b member, h' c b member]

theorem is (ascii : d.toNat < 128) : Tells (· == d.toUInt8) (· == d) := by
  intro c b member
  rw [Bool.eq_iff_iff, beq_iff_eq, beq_iff_eq]
  constructor
  · rintro rfl
    rw [mem_utf8_iff (by rwa [toNat_toUInt8 ascii]), toNat_toUInt8 ascii] at member
    exact Char.toNat_inj.mp member
  · rintro rfl
    rwa [utf8_of_ascii ascii, List.mem_singleton] at member

theorem wide : Tells (fun b => 0x80 ≤ b) (fun c => c.val ≥ 128) := by
  intro c b member
  rw [decide_eq_decide, UInt8.le_iff_toNat_le, ge_iff_le, UInt32.le_iff_toNat_le]
  by_cases low : c.toNat < 128
  · rw [utf8_of_ascii low, List.mem_singleton] at member
    rw [member, toNat_toUInt8 low]
    rfl
  · exact iff_of_true (le_of_mem_utf8 (Nat.le_of_not_lt low) member) (Nat.le_of_not_lt low)

theorem between (low high : Char) (ordered : low.toNat ≤ high.toNat) (ascii : high.toNat < 128) :
    Tells (fun b => low.toUInt8 ≤ b && b ≤ high.toUInt8)
      (fun c => decide (c.val ≥ low.val) && decide (c.val ≤ high.val)) := by
  intro c b member
  have code (c : Char) : c.val.toNat = c.toNat := rfl
  beta_reduce
  rw [← Bool.decide_and, ← Bool.decide_and, decide_eq_decide, UInt8.le_iff_toNat_le,
    UInt8.le_iff_toNat_le, toNat_toUInt8 ascii, toNat_toUInt8 (Nat.lt_of_le_of_lt ordered ascii),
    ge_iff_le, UInt32.le_iff_toNat_le, UInt32.le_iff_toNat_le, code, code, code]
  by_cases small : c.toNat < 128
  · rw [utf8_of_ascii small, List.mem_singleton] at member
    rw [member, toNat_toUInt8 small]
  · have := le_of_mem_utf8 (Nat.le_of_not_lt small) member
    omega

theorem isLetter : Tells isLetter Char.isAlpha := by
  have upper : Tells (fun b => 'A'.toUInt8 ≤ b && b ≤ 'Z'.toUInt8) Char.isUpper := by
    intro c
    rw [Char.isUpper, Bool.decide_and]
    exact between 'A' 'Z' (by decide) (by decide) c
  exact upper.or (between 'a' 'z' (by decide) (by decide))

theorem isDigit : Tells isDigit Char.isDigit :=
  between '0' '9' (by decide) (by decide)

theorem isBlank : Tells isBlank Lexeme.isBlank :=
  (((is (by decide)).or (is (by decide))).or (is (by decide))).or (is (by decide))

theorem startsWord : Tells startsWord Lexeme.startsWord :=
  ((isLetter.or (is (by decide))).or (is (by decide))).or wide

theorem continuesWord : Tells continuesWord Lexeme.continuesWord :=
  ((((isLetter.or isDigit).or (is (by decide))).or (is (by decide))).or (is (by decide))).or wide

end Tells

section Loops

variable {p : UInt8 → Bool} {q : Char → Bool} {c d close : Char} {before rest after : List Char}

/-- The byte at an offset belongs to the character there. -/
theorem item_utf8_append (before after : List Char) (c : Char) : ∃ b more, utf8 [c] = b :: more ∧
    item (utf8 (before ++ c :: after)) (utf8 before).length = .ok b := by
  obtain ⟨b, more, bytes⟩ := List.exists_cons_of_length_pos (l := utf8 [c])
    (length_utf8_pos (List.cons_ne_nil _ _))
  refine ⟨b, more, bytes, ?_⟩
  rw [utf8_append, utf8_cons, bytes, List.cons_append]
  exact item_append_length _ _ b

/-- Behind a character of ASCII, the byte at the next offset tells whether the character there is
another one of ASCII. -/
theorem getElem?_utf8_append (single : c.utf8Size = 1) (ascii : d.toNat < 128) :
    (utf8 (before ++ c :: after))[(utf8 before).length + 1]? = some d.toUInt8 ↔
      after.head? = some d := by
  have split : utf8 (before ++ c :: after) = utf8 (before ++ [c]) ++ utf8 after := by
    rw [← utf8_append, List.append_assoc, List.singleton_append]
  have index : (utf8 before).length + 1 = (utf8 (before ++ [c])).length := by
    simp [single]
  rw [split, index, List.getElem?_append_right (Nat.le_refl _), Nat.sub_self]
  cases after with
  | nil => simp
  | cons e after =>
      obtain ⟨b, more, bytes⟩ := List.exists_cons_of_length_pos (l := utf8 [e])
        (length_utf8_pos (List.cons_ne_nil _ _))
      have told := Tells.is ascii e b (by simp [bytes])
      rw [Bool.eq_iff_iff, beq_iff_eq, beq_iff_eq] at told
      rw [utf8_cons, bytes, List.cons_append, List.getElem?_cons_zero, List.head?_cons,
        Option.some_inj, Option.some_inj, told]

/-- A loop that passes over each byte of a character passes over the character. -/
theorem pass {α : Type} {f : Nat → α} (before after : List Char) (c : Char)
    (step : ∀ i b, b ∈ utf8 [c] → (utf8 (before ++ c :: after))[i]? = some b → f i = f (i + 1)) :
    f (utf8 before).length = f (utf8 (before ++ [c])).length := by
  have run : ∀ middle front back : List UInt8,
      utf8 (before ++ c :: after) = front ++ (middle ++ back) → (∀ b ∈ middle, b ∈ utf8 [c]) →
      f front.length = f (front ++ middle).length := by
    intro middle
    induction middle with
    | nil => simp
    | cons b middle ih =>
        intro front back split all
        obtain ⟨first, others⟩ := List.forall_mem_cons.mp all
        have rest := ih (front ++ [b]) back (by simp [split]) others
        rw [step _ b first (by simp [split]), List.append_cons, ← rest]
        simp
  rw [utf8_append before [c]]
  exact run (utf8 [c]) (utf8 before) (utf8 after) (by rw [utf8_append, utf8_cons])
    fun _ member => member

theorem lt_of_getElem?_eq_some {bytes : List UInt8} {i : Nat} {b : UInt8}
    (h : bytes[i]? = some b) : i < bytes.length :=
  (List.getElem?_eq_some_iff.mp h).1

/-- A run of bytes ends where a run of characters does. -/
theorem runEnd_eq (told : Tells p q) (before rest : List Char) :
    runEnd p (utf8 (before ++ rest)) (utf8 before).length =
      .ok (utf8 (before ++ rest.takeWhile q)).length := by
  induction rest generalizing before with
  | nil =>
      rw [runEnd, if_neg (by simp)]
      simp
  | cons c rest ih =>
      by_cases inside : q c
      · rw [pass (f := runEnd p (utf8 (before ++ c :: rest))) before rest c]
        · have next := ih (before ++ [c])
          rw [List.append_assoc, List.singleton_append] at next
          rw [next, List.takeWhile_cons_of_pos inside, List.append_assoc, List.singleton_append]
        · intro i b member found
          have continues : p b = true := (told c b member).trans inside
          rw [runEnd, if_pos (lt_of_getElem?_eq_some found), item_eq_ok_iff.mpr found]
          simp [continues]
      · obtain ⟨b, more, bytes, found⟩ := item_utf8_append before rest c
        have stops : p b = false := (told c b (by simp [bytes])).trans (by simpa using inside)
        rw [runEnd, if_pos (lt_of_getElem?_eq_some (item_eq_ok_iff.mp found)), found,
          List.takeWhile_cons_of_neg inside, List.append_nil]
        simp [stops]

theorem utf8Size_of_ascii (ascii : c.toNat < 128) : c.utf8Size = 1 := by
  rw [← length_utf8_singleton, utf8_of_ascii ascii]
  rfl

theorem quotedEnd_delimiter (ascii : close.toNat < 128) (before rest : List Char) :
    quotedEnd close.toUInt8 (utf8 (before ++ close :: rest)) (utf8 before).length =
      if rest.head? = some close then
        quotedEnd close.toUInt8 (utf8 (before ++ close :: rest)) ((utf8 before).length + 2)
      else .ok (some ((utf8 before).length + 1)) := by
  obtain ⟨b, more, bytes, found⟩ := item_utf8_append before rest close
  have same : b = close.toUInt8 := by
    have := utf8_of_ascii ascii
    rw [bytes] at this
    exact (List.cons.inj this).1
  rw [quotedEnd, if_pos (lt_of_getElem?_eq_some (item_eq_ok_iff.mp found)), found]
  simp only [Checked.ok_bind, same, if_true, getElem?_utf8_append (utf8Size_of_ascii ascii) ascii]
  rfl

theorem quotedEnd_other (ascii : close.toNat < 128) (other : c ≠ close) (before rest : List Char) :
    quotedEnd close.toUInt8 (utf8 (before ++ c :: rest)) (utf8 before).length =
      quotedEnd close.toUInt8 (utf8 (before ++ c :: rest)) (utf8 (before ++ [c])).length := by
  refine pass before rest c fun i b member found => ?_
  have different : b ≠ close.toUInt8 := by
    have told := Tells.is ascii c b member
    rw [Bool.eq_iff_iff, beq_iff_eq, beq_iff_eq] at told
    exact mt told.mp other
  rw [quotedEnd, if_pos (lt_of_getElem?_eq_some found), item_eq_ok_iff.mpr found]
  simp only [Checked.ok_bind, if_neg different]

/-- An end that is counted from behind some characters, counted from in front of them. -/
theorem map_take_append (before passed rest : List Char) {seen : Nat} {n? : Option Nat}
    (more : ∀ n, n? = some n → seen + passed.length ≤ n) :
    (n?.map fun n =>
        (utf8 (before ++ passed ++ rest.take (n - (seen + passed.length)))).length) =
      n?.map fun n => (utf8 (before ++ (passed ++ rest).take (n - seen))).length := by
  cases n? with
  | none => rfl
  | some n =>
      have le := more n rfl
      have taken : (passed ++ rest).take (n - seen) =
          passed ++ rest.take (n - (seen + passed.length)) := by
        rw [List.take_append, List.take_of_length_le (by omega), Nat.sub_sub]
      rw [Option.map_some, Option.map_some, taken, List.append_assoc]

theorem le_of_closeLength?_eq_some {seen n : Nat}
    (h : Lexeme.closeLength? close seen rest = some n) : seen ≤ n := by
  obtain ⟨_, _, _, _, _, rfl⟩ := Lexeme.exists_of_closeLength?_eq_some h
  omega

/-- Bytes are closed where characters are. -/
theorem quotedEnd_eq (ascii : close.toNat < 128) (seen : Nat) (before rest : List Char) :
    quotedEnd close.toUInt8 (utf8 (before ++ rest)) (utf8 before).length =
      .ok ((Lexeme.closeLength? close seen rest).map fun n =>
        (utf8 (before ++ rest.take (n - seen))).length) := by
  induction seen, rest using Lexeme.closeLength?.induct close generalizing before with
  | case1 seen =>
      rw [quotedEnd, if_neg (by simp)]
      rfl
  | case2 seen =>
      rw [quotedEnd_delimiter ascii]
      simp [Lexeme.closeLength?, utf8Size_of_ascii ascii]
  | case3 seen c other =>
      rw [quotedEnd_other ascii other, quotedEnd, if_neg (by simp)]
      simp [Lexeme.closeLength?, other]
  | case4 seen rest ih =>
      have next := ih (before ++ [close, close])
      have length : (utf8 (before ++ [close, close])).length = (utf8 before).length + 2 := by
        simp [utf8Size_of_ascii ascii]
      have split : before ++ [close, close] ++ rest = before ++ close :: close :: rest := by simp
      rw [split, length] at next
      rw [quotedEnd_delimiter ascii, if_pos (List.head?_cons), next, Lexeme.closeLength?,
        if_pos rfl, if_pos rfl]
      exact congrArg Except.ok
        (map_take_append before [close, close] rest fun _ => le_of_closeLength?_eq_some)
  | case5 seen d rest other =>
      rw [quotedEnd_delimiter ascii, if_neg (by simpa using other), Lexeme.closeLength?, if_pos rfl,
        if_neg other, Option.map_some, Nat.add_sub_cancel_left]
      simp [utf8Size_of_ascii ascii]
  | case6 seen c d rest other ih =>
      have next := ih (before ++ [c])
      rw [List.append_assoc, List.singleton_append] at next
      rw [quotedEnd_other ascii other, next, Lexeme.closeLength?, if_neg other]
      exact congrArg Except.ok
        (map_take_append before [c] (d :: rest) fun _ => le_of_closeLength?_eq_some)

/-- Whether two bytes are the marker that the characters `c` and `d` make up. -/
theorem marker_iff (ascii : c.toNat < 128) (ascii' : d.toNat < 128) {e : Char} {b : UInt8}
    (member : b ∈ utf8 [e]) (before rest : List Char) :
    (b = c.toUInt8 ∧ (utf8 (before ++ e :: rest))[(utf8 before).length + 1]? = some d.toUInt8) ↔
      (e = c ∧ rest.head? = some d) := by
  have told := Tells.is ascii e b member
  rw [Bool.eq_iff_iff, beq_iff_eq, beq_iff_eq] at told
  rw [told]
  refine and_congr_right fun same => ?_
  subst same
  exact getElem?_utf8_append (utf8Size_of_ascii ascii) ascii'

theorem commentEnd_succ {bytes : List UInt8} {depth i : Nat}
    (noOpening : ¬ (bytes[i]? = some '/'.toUInt8 ∧ bytes[i + 1]? = some '*'.toUInt8))
    (noClosing : ¬ (bytes[i]? = some '*'.toUInt8 ∧ bytes[i + 1]? = some '/'.toUInt8)) :
    commentEnd bytes depth i = commentEnd bytes depth (i + 1) := by
  by_cases inside : i + 1 < bytes.length
  · have first := List.getElem?_eq_getElem (Nat.lt_of_succ_lt inside)
    have second := List.getElem?_eq_getElem inside
    rw [first, second, Option.some_inj, Option.some_inj] at noOpening noClosing
    rw [commentEnd, if_pos inside, item_eq_ok_iff.mpr first, item_eq_ok_iff.mpr second]
    simp only [Checked.ok_bind, if_neg noOpening, if_neg noClosing]
  · rw [commentEnd, if_neg inside, commentEnd, if_neg (by omega)]

section Comments

variable {depth seen n : Nat}

theorem getElem?_utf8_pair (ascii : c.toNat < 128) (ascii' : d.toNat < 128)
    (before rest : List Char) :
    (utf8 (before ++ c :: d :: rest))[(utf8 before).length]? = some c.toUInt8 ∧
      (utf8 (before ++ c :: d :: rest))[(utf8 before).length + 1]? = some d.toUInt8 := by
  rw [utf8_append, utf8_cons, utf8_cons d, utf8_of_ascii ascii, utf8_of_ascii ascii']
  simp

theorem commentEnd_opening (before rest : List Char) :
    commentEnd (utf8 (before ++ '/' :: '*' :: rest)) depth (utf8 before).length =
      commentEnd (utf8 (before ++ '/' :: '*' :: rest)) (depth + 1) ((utf8 before).length + 2) := by
  obtain ⟨first, second⟩ := getElem?_utf8_pair (c := '/') (d := '*') (by decide) (by decide)
    before rest
  rw [commentEnd, if_pos (lt_of_getElem?_eq_some second), item_eq_ok_iff.mpr first,
    item_eq_ok_iff.mpr second]
  simp

theorem commentEnd_closing (before rest : List Char) :
    commentEnd (utf8 (before ++ '*' :: '/' :: rest)) (depth + 1) (utf8 before).length =
      if depth = 0 then .ok (some ((utf8 before).length + 2))
      else commentEnd (utf8 (before ++ '*' :: '/' :: rest)) depth ((utf8 before).length + 2) := by
  obtain ⟨first, second⟩ := getElem?_utf8_pair (c := '*') (d := '/') (by decide) (by decide)
    before rest
  have different : ¬ ('*'.toUInt8 = '/'.toUInt8 ∧ '/'.toUInt8 = '*'.toUInt8) := by decide
  rw [commentEnd, if_pos (lt_of_getElem?_eq_some second), item_eq_ok_iff.mpr first,
    item_eq_ok_iff.mpr second]
  simp only [Checked.ok_bind, if_neg different, and_self, if_true,
    minus_of_le (Nat.le_add_left 1 depth), Nat.add_sub_cancel]
  rfl

theorem commentEnd_plain (noOpening : c = '/' → rest.head? ≠ some '*')
    (noClosing : c = '*' → rest.head? ≠ some '/') (before : List Char) :
    commentEnd (utf8 (before ++ c :: rest)) depth (utf8 before).length =
      commentEnd (utf8 (before ++ c :: rest)) depth (utf8 (before ++ [c])).length := by
  by_cases ascii : c.toNat < 128
  · obtain ⟨b, more, bytes, found⟩ := item_utf8_append before rest c
    have member : b ∈ utf8 [c] := by simp [bytes]
    have next : (utf8 (before ++ [c])).length = (utf8 before).length + 1 := by
      simp [utf8Size_of_ascii ascii]
    rw [next, commentEnd_succ]
    · rw [item_eq_ok_iff.mp found, Option.some_inj,
        marker_iff (by decide) (by decide) member before rest]
      exact fun ⟨slash, star⟩ => noOpening slash star
    · rw [item_eq_ok_iff.mp found, Option.some_inj,
        marker_iff (by decide) (by decide) member before rest]
      exact fun ⟨star, slash⟩ => noClosing star slash
  · refine pass before rest c fun i b member found => ?_
    have high := le_of_mem_utf8 (Nat.le_of_not_lt ascii) member
    have other (d : Char) (low : d.toNat < 128) : b ≠ d.toUInt8 := by
      rintro rfl
      rw [toNat_toUInt8 low] at high
      omega
    rw [commentEnd_succ] <;> rw [found, Option.some_inj]
    · exact fun marker => other '/' (by decide) marker.1
    · exact fun marker => other '*' (by decide) marker.1

theorem le_of_commentLength?_eq_some (h : Lexeme.commentLength? depth seen rest = some n) :
    seen ≤ n := by
  obtain ⟨_, _, _, _, rfl⟩ := Lexeme.exists_of_commentLength?_eq_some h
  omega

/-- Among bytes, a comment is closed where it is among characters. -/
theorem commentEnd_eq (depth seen : Nat) (before rest : List Char) :
    commentEnd (utf8 (before ++ rest)) (depth + 1) (utf8 before).length =
      .ok ((Lexeme.commentLength? depth seen rest).map fun n =>
        (utf8 (before ++ rest.take (n - seen))).length) := by
  induction depth, seen, rest using Lexeme.commentLength?.induct generalizing before with
  | case1 depth seen rest ih =>
      have next := ih (before ++ ['/', '*'])
      have length : (utf8 (before ++ ['/', '*'])).length = (utf8 before).length + 2 := by
        rw [utf8_append, List.length_append]
        rfl
      rw [List.append_assoc, length] at next
      rw [commentEnd_opening, Lexeme.commentLength?]
      exact next.trans (congrArg Except.ok
        (map_take_append before ['/', '*'] rest fun _ => le_of_commentLength?_eq_some))
  | case2 seen rest =>
      rw [commentEnd_closing, if_pos rfl, Lexeme.commentLength?, Option.map_some,
        Nat.add_sub_cancel_left, utf8_append, List.length_append]
      rfl
  | case3 seen rest depth ih =>
      have next := ih (before ++ ['*', '/'])
      have length : (utf8 (before ++ ['*', '/'])).length = (utf8 before).length + 2 := by
        rw [utf8_append, List.length_append]
        rfl
      rw [List.append_assoc, length] at next
      rw [commentEnd_closing, if_neg (Nat.succ_ne_zero _), Lexeme.commentLength?]
      exact next.trans (congrArg Except.ok
        (map_take_append before ['*', '/'] rest fun _ => le_of_commentLength?_eq_some))
  | case4 depth seen c rest noOpening noClosing ih =>
      have next := ih (before ++ [c])
      rw [List.append_assoc, List.singleton_append] at next
      rw [commentEnd_plain, next, Lexeme.commentLength?.eq_4 _ _ _ _ noOpening noClosing]
      · exact congrArg Except.ok
          (map_take_append before [c] rest fun _ => le_of_commentLength?_eq_some)
      · rintro rfl star
        obtain ⟨tail, rfl⟩ := List.head?_eq_some_iff.mp star
        exact noOpening tail rfl rfl
      · rintro rfl slash
        obtain ⟨tail, rfl⟩ := List.head?_eq_some_iff.mp slash
        exact noClosing tail rfl rfl
  | case5 depth seen =>
      rw [commentEnd, if_neg (by simp)]
      rfl

end Comments

end Loops

end SqlLint.Indexed
