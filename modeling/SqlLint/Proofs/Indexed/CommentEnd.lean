import SqlLint.Proofs.Indexed.Tokenizing
import SqlLint.Proofs.Script.Boundaries

/-!
# Where a comment ends

The markers of comments are read two bytes at a time, from left to right, and a byte of one marker is
no part of the next: in `/*/` there is one marker, not two. A comment ends at the first end of a
marker by which as many comments have been closed as opened. The search for this end counts the
comments that are open. It begins at a marker that opens one, and stops when the last one is closed,
so the count is never taken below zero, and the markers that it comes by are all those up to the end.
-/

namespace SqlLint.Indexed

open String.Pos.Raw (IsValid)

/-- The markers of comments. -/
inductive Marker
  | opening
  | closing
deriving DecidableEq, Repr

/-- The marker that two bytes make up. -/
def marker? (a b : UInt8) : Option Marker :=
  if a = '/'.toUInt8 ∧ b = '*'.toUInt8 then some .opening
  else if a = '*'.toUInt8 ∧ b = '/'.toUInt8 then some .closing
  else none

/-- The markers among bytes of which the first one has the offset `i`, read from the left and without
overlap, each with the offset behind it. -/
def markersFrom (i : Nat) : List UInt8 → List (Marker × Nat)
  | a :: b :: rest =>
    match marker? a b with
    | some m => (m, i + 2) :: markersFrom (i + 2) rest
    | none => markersFrom (i + 1) (b :: rest)
  | _ => []

/-- How many markers of a kind end at an offset or before it. -/
def metBy (m : Marker) (e : Nat) (met : List (Marker × Nat)) : Nat :=
  met.countP fun (n, stop) => n = m ∧ stop ≤ e

/-- The ends of markers by which as many comments have been closed as opened, with `depth` of them
open before the first marker. -/
def evenEnds (depth : Nat) (met : List (Marker × Nat)) : List Nat :=
  (met.map Prod.snd).filter fun e => depth + metBy .opening e met = metBy .closing e met

section Ends

variable {m : Marker} {met : List (Marker × Nat)} {depth stop e i : Nat} {rest : List UInt8}

theorem lt_of_mem_markersFrom {x : Marker × Nat} (member : x ∈ markersFrom i rest) : i < x.2 := by
  fun_induction markersFrom i rest with
  | case1 i a b rest n _ ih =>
      rcases List.mem_cons.mp member with rfl | later
      · show i < i + 2
        omega
      · have := ih later
        omega
  | case2 i a b rest _ ih =>
      have := ih member
      omega
  | case3 => cases member

/-- Markers do not overlap, so their ends increase. -/
theorem pairwise_markersFrom (i : Nat) (rest : List UInt8) :
    (markersFrom i rest).Pairwise fun x y => x.2 < y.2 := by
  fun_induction markersFrom i rest with
  | case1 i a b rest n _ ih =>
      refine .cons ?_ ih
      intro x later
      exact lt_of_mem_markersFrom later
  | case2 _ _ _ _ _ ih => exact ih
  | case3 => exact .nil

theorem pairwise_evenEnds (ordered : met.Pairwise fun x y => x.2 < y.2) (depth : Nat) :
    (evenEnds depth met).Pairwise (· < ·) := by
  apply List.Pairwise.filter
  rw [List.pairwise_map]
  exact ordered

/-- No marker is met by an offset before its end. -/
theorem metBy_eq_zero (later : ∀ x ∈ met, e < x.2) : metBy m e met = 0 := by
  rw [metBy, List.countP_eq_zero]
  intro x member
  have := later x member
  simp only [decide_eq_true_eq]
  omega

theorem metBy_cons (n : Marker) (reached : stop ≤ e) :
    metBy m e ((n, stop) :: met) = (if n = m then 1 else 0) + metBy m e met := by
  simp [metBy, List.countP_cons, reached, Nat.add_comm]

/-- Behind the first marker, the comments that are open are those that were open before it, one more
or one less. If there are none, its end is an even one. -/
theorem evenEnds_cons (ordered : ∀ x ∈ met, stop < x.2) (n : Marker) {left : Nat}
    (counted : depth + (if n = .opening then 1 else 0) = left + if n = .closing then 1 else 0) :
    evenEnds depth ((n, stop) :: met) =
      (if left = 0 then [stop] else []) ++ evenEnds left met := by
  have even {e : Nat} (reached : stop ≤ e) :
      depth + metBy .opening e ((n, stop) :: met) = metBy .closing e ((n, stop) :: met) ↔
        left + metBy .opening e met = metBy .closing e met := by
    rw [metBy_cons n reached, metBy_cons n reached]
    omega
  have own : depth + metBy .opening stop ((n, stop) :: met) =
      metBy .closing stop ((n, stop) :: met) ↔ left = 0 := by
    rw [even (Nat.le_refl stop), metBy_eq_zero ordered, metBy_eq_zero ordered, Nat.add_zero]
  have later : (met.map Prod.snd).filter (fun e => depth + metBy .opening e ((n, stop) :: met) =
      metBy .closing e ((n, stop) :: met)) = evenEnds left met := by
    apply List.filter_congr
    intro e member
    obtain ⟨x, inside, rfl⟩ := List.mem_map.mp member
    rw [decide_eq_decide, even (Nat.le_of_lt (ordered x inside))]
  rw [evenEnds, List.map_cons, List.filter_cons, later]
  simp only [decide_eq_true_eq, own]
  split
  · rfl
  · rfl

end Ends

theorem head?_eq_some_iff_isLeast {l : List Nat} (ordered : l.Pairwise (· < ·)) {e : Nat} :
    l.head? = some e ↔ IsLeast {x | x ∈ l} e := by
  cases l with
  | nil => simp [IsLeast]
  | cons first l =>
      have least : IsLeast {x | x ∈ first :: l} first := by
        refine ⟨List.mem_cons_self, ?_⟩
        intro x member
        rcases List.mem_cons.mp member with rfl | later
        · exact Nat.le_refl _
        · exact Nat.le_of_lt (List.rel_of_pairwise_cons ordered later)
      rw [List.head?_cons, Option.some_inj]
      constructor
      · rintro rfl
        exact least
      · intro other
        exact least.unique other

section Search

variable {depth : Nat}

/-- One step of the search, at two bytes that it still has before it. -/
theorem commentEnd_cons (front rest : List UInt8) (a b : UInt8) (depth : Nat) :
    commentEnd (front ++ a :: b :: rest) depth front.length =
      match marker? a b with
      | some .opening => commentEnd (front ++ a :: b :: rest) (depth + 1) (front.length + 2)
      | some .closing => do
        let outer ← minus depth 1
        if outer = 0 then return some (front.length + 2)
        else commentEnd (front ++ a :: b :: rest) outer (front.length + 2)
      | none => commentEnd (front ++ a :: b :: rest) depth (front.length + 1) := by
  have inside : front.length + 1 < (front ++ a :: b :: rest).length := by simp
  have second : item (front ++ a :: b :: rest) (front.length + 1) = .ok b := by
    simp [item_eq_ok_iff]
  rw [commentEnd, if_pos inside, item_append_length, second, marker?]
  simp only [Checked.ok_bind]
  split
  · rfl
  · split <;> rfl

/-- With comments open, the search finds the first end by which they are all closed. No count is
taken below zero on the way. -/
theorem commentEnd_eq_head? (front rest : List UInt8) (depth : Nat) :
    commentEnd (front ++ rest) (depth + 1) front.length =
      .ok (evenEnds (depth + 1) (markersFrom front.length rest)).head? := by
  generalize place : front.length = i
  fun_induction markersFrom i rest generalizing front depth with
  | case1 i a b rest m found ih =>
      subst place
      have next (depth : Nat) := ih (front ++ [a, b]) depth (by simp)
      have later : ∀ x ∈ markersFrom (front.length + 2) rest, front.length + 2 < x.2 :=
        fun _ member => lt_of_mem_markersFrom member
      simp only [List.append_assoc, List.cons_append, List.nil_append] at next
      rw [commentEnd_cons, found]
      cases m with
      | opening =>
          rw [evenEnds_cons later .opening (depth + 1 + 1).add_zero.symm]
          exact next (depth + 1)
      | closing =>
          rw [evenEnds_cons later .closing (depth + 1).add_zero,
            minus_of_le (Nat.le_add_left 1 depth), Checked.ok_bind, Nat.add_sub_cancel]
          cases depth with
          | zero => rfl
          | succ depth => exact next depth
  | case2 i a b rest noMarker ih =>
      subst place
      have next := ih (front ++ [a]) depth (by simp)
      rw [List.append_assoc, List.singleton_append] at next
      rw [commentEnd_cons, noMarker]
      exact next
  | case3 rest i short =>
      subst place
      have outside : ¬ front.length + 1 < (front ++ rest).length := by
        rcases rest with _ | ⟨a, _ | ⟨b, rest⟩⟩
        · simp
        · simp
        · exact absurd rfl (short a b rest)
      rw [commentEnd, if_neg outside]
      rfl

/-- A search that begins at a marker which opens a comment. -/
theorem commentEnd_opened (front rest : List UInt8) :
    commentEnd (front ++ '/'.toUInt8 :: '*'.toUInt8 :: rest) 0 front.length =
      .ok (evenEnds 0
        (markersFrom front.length ('/'.toUInt8 :: '*'.toUInt8 :: rest))).head? := by
  have opens : marker? '/'.toUInt8 '*'.toUInt8 = some .opening := rfl
  have later : ∀ x ∈ markersFrom (front.length + 2) rest, front.length + 2 < x.2 :=
    fun _ member => lt_of_mem_markersFrom member
  have next := commentEnd_eq_head? (front ++ ['/'.toUInt8, '*'.toUInt8]) rest 0
  simp only [List.append_assoc, List.cons_append, List.nil_append, List.length_append,
    List.length_cons, List.length_nil] at next
  rw [commentEnd_cons, opens, markersFrom, opens]
  rw [evenEnds_cons later .opening (0 + 1).add_zero.symm]
  exact next

end Search

/-- The ends of markers by which as many comments have been closed as opened, reading a text from an
offset on. -/
def evenEndsIn (text : String) (i : Nat) : List Nat :=
  evenEnds 0 (markersFrom i ((bytes text).drop i))

theorem pairwise_evenEndsIn (text : String) (i : Nat) :
    (evenEndsIn text i).Pairwise (· < ·) :=
  pairwise_evenEnds (pairwise_markersFrom i _) 0

/-- A marker of a comment stands between two characters, since its bytes are in ASCII. -/
theorem exists_append_of_opening {text : String} {i : Nat}
    (opens : (bytes text)[i]? = some '/'.toUInt8 ∧ (bytes text)[i + 1]? = some '*'.toUInt8) :
    ∃ before rest, text.toList = before ++ '/' :: '*' :: rest ∧ (utf8 before).length = i := by
  have valid : IsValid text ⟨i⟩ :=
    isValid_iff_firstByte.mpr (.inr ⟨_, opens.1, isUTF8FirstByte_of_ascii (by decide)⟩)
  rw [← String.ofList_toList (s := text), isValid_iff_exists_append] at valid
  obtain ⟨before, after, split, rfl⟩ := valid
  rw [bytes_eq, split] at opens
  cases after with
  | nil => simp at opens
  | cons c after =>
      obtain ⟨b, more, encoded, found⟩ := item_utf8_append before after c
      have here : b = '/'.toUInt8 := Option.some.inj ((item_eq_ok_iff.mp found).symm.trans opens.1)
      have member : b ∈ utf8 [c] := by simp [encoded]
      obtain ⟨rfl, next⟩ :=
        (marker_iff (by decide) (by decide) member before after).mp ⟨here, opens.2⟩
      obtain ⟨rest, rfl⟩ := List.head?_eq_some_iff.mp next
      exact ⟨before, rest, split, rfl⟩

theorem commentEnd_bytes {text : String} {i : Nat} {before rest : List Char}
    (split : text.toList = before ++ '/' :: '*' :: rest) (place : (utf8 before).length = i) :
    commentEnd (bytes text) 0 i = .ok (evenEndsIn text i).head? := by
  have encoded : bytes text = utf8 before ++ '/'.toUInt8 :: '*'.toUInt8 :: utf8 rest := by
    rw [bytes_eq, split, utf8_append, utf8_cons, utf8_cons '*']
    rfl
  have searched := commentEnd_opened (utf8 before) (utf8 rest)
  rw [evenEndsIn, encoded, ← place, List.drop_left]
  exact searched

/-- What the lexeme is that begins at a marker which opens a comment. -/
theorem scan_opening (rest : List Char) : Lexeme.scan '/' ('*' :: rest) =
    match Lexeme.commentLength? 0 1 rest with
    | some n => .ok (.blockComment, n)
    | none => .error .blockComment := by
  cases ended : Lexeme.commentLength? 0 1 rest <;> simp [Lexeme.scan, Lexeme.isBlank, ended]

/-- A comment that is opened anywhere in a text ends at the least end of a marker by which as many
comments have been closed as opened, reading from there, and it is never closed if there is no such
end. The search for the end takes no counter below zero, and the end lies between two characters. -/
theorem comment_ends_at_least_even_end (text : String) (i : Nat)
    (opens : (bytes text)[i]? = some '/'.toUInt8 ∧ (bytes text)[i + 1]? = some '*'.toUInt8) :
    ∃ before rest, text.toList = before ++ '/' :: '*' :: rest ∧ (utf8 before).length = i ∧
      (∀ e, IsLeast {e | e ∈ evenEndsIn text i} e ↔
        ∃ n, Lexeme.scan '/' ('*' :: rest) = .ok (.blockComment, n) ∧
          (utf8 (before ++ '/' :: ('*' :: rest).take n)).length = e) ∧
      ((∀ e, e ∉ evenEndsIn text i) ↔
        Lexeme.scan '/' ('*' :: rest) = .error .blockComment) ∧
      (∃ end?, commentEnd (bytes text) 0 i = .ok end? ∧
        ∀ e, end? = some e ↔ IsLeast {e | e ∈ evenEndsIn text i} e) ∧
      ∀ e, IsLeast {e | e ∈ evenEndsIn text i} e → IsValid text ⟨e⟩ := by
  obtain ⟨before, rest, split, place⟩ := exists_append_of_opening opens
  have searched := commentEnd_bytes split place
  have least (e : Nat) : (evenEndsIn text i).head? = some e ↔
      IsLeast {e | e ∈ evenEndsIn text i} e :=
    head?_eq_some_iff_isLeast (pairwise_evenEndsIn text i)
  -- Bytes and characters are searched alike, so the first even end is where the lexeme ends.
  have found : (evenEndsIn text i).head? = (Lexeme.commentLength? 0 1 rest).map fun n =>
      (utf8 (before ++ '/' :: ('*' :: rest).take n)).length := by
    have alike := commentEnd_behind before rest
    rw [← split, ← bytes_eq, place, searched] at alike
    exact Except.ok.inj alike
  refine ⟨before, rest, split, place, ?_, ?_, ⟨_, searched, least⟩, ?_⟩
  · intro e
    rw [← least, found, scan_opening]
    cases Lexeme.commentLength? 0 1 rest <;> simp
  · rw [← List.eq_nil_iff_forall_not_mem, ← List.head?_eq_none_iff, found, scan_opening]
    cases Lexeme.commentLength? 0 1 rest <;> simp
  · intro e isLeast
    rw [← least, found] at isLeast
    obtain ⟨n, _, stop⟩ := Option.map_eq_some_iff.mp isLeast
    have whole : text.toList =
        (before ++ '/' :: ('*' :: rest).take n) ++ ('*' :: rest).drop n := by
      rw [split, List.append_assoc, List.cons_append, List.take_append_drop]
    rw [← String.ofList_toList (s := text)]
    exact Lexeme.isValid_of_append whole stop.symm

/-- Two comments, one in the other, with markers that overlap, and a marker that closes none. -/
def overlapping : String := "é /*/*/ */ ü**/ x*/"

theorem comment_ends_at_least_even_end_of_overlapping : evenEndsIn overlapping 3 = [17] ∧
    ∃ before rest, overlapping.toList = before ++ '/' :: '*' :: rest ∧
      (∃ n, Lexeme.scan '/' ('*' :: rest) = .ok (.blockComment, n) ∧
        (utf8 (before ++ '/' :: ('*' :: rest).take n)).length = 17) ∧
      commentEnd (bytes overlapping) 0 3 = .ok (some 17) ∧ IsValid overlapping ⟨17⟩ := by
  have ends : evenEndsIn overlapping 3 = [17] := by decide +kernel
  have least : IsLeast {e | e ∈ evenEndsIn overlapping 3} 17 := by
    rw [ends]
    exact ⟨List.mem_singleton_self 17, fun e member => (List.mem_singleton.mp member).ge⟩
  obtain ⟨before, rest, split, _, scanned, _, ⟨end?, searched, ended⟩, valid⟩ :=
    comment_ends_at_least_even_end overlapping 3 (by decide +kernel)
  refine ⟨ends, before, rest, split, (scanned 17).mp least, ?_, valid 17 least⟩
  rw [searched, (ended 17).mpr least]

end SqlLint.Indexed
