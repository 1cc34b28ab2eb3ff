import SqlLint.Proofs.Text.Utf8

/-!
# Access by number

Texts, lists and counters can be handled by number: an item by its index, a part of a text by the
byte offsets at which it begins and ends, a counter by taking something off it. Each such access is
a fault when the number is out of place. A reading that is written with these accesses shows by its
result that every number in it is in place.
-/

namespace SqlLint.Indexed

/-- What can be wrong with an access by number. -/
inductive Fault
  /-- An index, or an end of a range, lies outside. -/
  | outOfRange
  /-- A text is cut inside of a character. -/
  | offBoundary
  /-- A counter is taken below zero. -/
  | underflow
  /-- A scan does not move on. -/
  | stalled
deriving DecidableEq, Repr

/-- The result of a computation in which an access may be a fault. -/
abbrev Checked := Except Fault

namespace Checked

variable {α β : Type}

@[simp] theorem ok_bind (a : α) (f : α → Checked β) : ((.ok a : Checked α) >>= f) = f a := rfl

@[simp] theorem pure_eq_ok (a : α) : (pure a : Checked α) = .ok a := rfl

end Checked

section Primitives

variable {α : Type}

def item (items : List α) (i : Nat) : Checked α :=
  match items[i]? with
  | some a => .ok a
  | none => .error .outOfRange

/-- A counter less some amount. -/
def minus (n amount : Nat) : Checked Nat :=
  if amount ≤ n then .ok (n - amount) else .error .underflow

/-- The items of a list before an index. -/
def upTo (items : List α) (stop : Nat) : Checked (List α) :=
  if stop ≤ items.length then .ok (items.take stop) else .error .outOfRange

/-- The runs of `size` neighbours in a list, in order. -/
def windowsOf (size : Nat) : List α → List (List α)
  | [] => []
  | a :: rest =>
    if size ≤ rest.length + 1 then (a :: rest).take size :: windowsOf size rest else []

/-- The runs of `size` neighbours in a list, in order. There is no such thing as a run of none. -/
def windows (size : Nat) (items : List α) : Checked (List (List α)) :=
  if size = 0 then .error .outOfRange else .ok (windowsOf size items)

/-- The characters of a text from a byte offset on. -/
def dropBytes (n : Nat) : List Char → Checked (List Char)
  | [] => if n = 0 then .ok [] else .error .outOfRange
  | c :: text =>
    if n = 0 then .ok (c :: text)
    else if c.utf8Size ≤ n then dropBytes (n - c.utf8Size) text
    else .error .offBoundary

/-- The characters of a text before a byte offset. -/
def takeBytes (n : Nat) : List Char → Checked (List Char)
  | [] => if n = 0 then .ok [] else .error .outOfRange
  | c :: text =>
    if n = 0 then .ok []
    else if c.utf8Size ≤ n then (takeBytes (n - c.utf8Size) text).map (c :: ·)
    else .error .offBoundary

/-- The characters of a text between two byte offsets. -/
def slice (text : List Char) (start stop : Nat) : Checked (List Char) :=
  if start ≤ stop then do takeBytes (stop - start) (← dropBytes start text)
  else .error .outOfRange

end Primitives

section Items

variable {α : Type} {items : List α} {i : Nat} {a : α}

theorem item_eq_ok_iff : item items i = .ok a ↔ items[i]? = some a := by
  rw [item]
  cases items[i]? <;> simp

theorem item_append_length (before after : List α) (a : α) :
    item (before ++ a :: after) before.length = .ok a := by
  simp [item_eq_ok_iff]

@[simp] theorem minus_of_le {n amount : Nat} (le : amount ≤ n) :
    minus n amount = .ok (n - amount) :=
  if_pos le

theorem upTo_length_append (before after : List α) :
    upTo (before ++ after) before.length = .ok before := by
  simp [upTo]

end Items

section Slices

variable {text before middle after : List Char} {n start stop : Nat}

@[simp] theorem dropBytes_zero (text : List Char) : dropBytes 0 text = .ok text := by
  cases text <;> rfl

@[simp] theorem takeBytes_zero (text : List Char) : takeBytes 0 text = .ok [] := by
  cases text <;> rfl

/-- A text can be cut where one part of it ends and the next one begins. -/
@[simp] theorem dropBytes_append (before after : List Char) :
    dropBytes (utf8 before).length (before ++ after) = .ok after := by
  induction before with
  | nil => exact dropBytes_zero after
  | cons c before ih =>
      have := c.utf8Size_pos
      rw [length_utf8_cons, List.cons_append, dropBytes, if_neg (by omega), if_pos (by omega),
        Nat.add_sub_cancel_left, ih]

@[simp] theorem takeBytes_append (before after : List Char) :
    takeBytes (utf8 before).length (before ++ after) = .ok before := by
  induction before with
  | nil => exact takeBytes_zero after
  | cons c before ih =>
      have := c.utf8Size_pos
      rw [length_utf8_cons, List.cons_append, takeBytes, if_neg (by omega), if_pos (by omega),
        Nat.add_sub_cancel_left, ih]
      rfl

/-- Where a text can be cut, one part of it ends and the next one begins. -/
theorem exists_of_dropBytes_eq_ok (h : dropBytes n text = .ok after) :
    ∃ before, n = (utf8 before).length ∧ text = before ++ after := by
  induction text generalizing n with
  | nil =>
      rw [dropBytes] at h
      split at h
      case isTrue none =>
        cases h
        exact ⟨[], none, rfl⟩
      case isFalse => cases h
  | cons c text ih =>
      rw [dropBytes] at h
      split at h
      case isTrue none =>
        cases h
        exact ⟨[], none, rfl⟩
      case isFalse =>
        split at h
        case isTrue inside =>
          obtain ⟨before, length, rfl⟩ := ih h
          exact ⟨c :: before, by rw [length_utf8_cons]; omega, rfl⟩
        case isFalse => cases h

theorem exists_of_takeBytes_eq_ok (h : takeBytes n text = .ok before) :
    n = (utf8 before).length ∧ ∃ after, text = before ++ after := by
  induction text generalizing n before with
  | nil =>
      rw [takeBytes] at h
      split at h
      case isTrue none =>
        cases h
        exact ⟨none, [], rfl⟩
      case isFalse => cases h
  | cons c text ih =>
      rw [takeBytes] at h
      split at h
      case isTrue none =>
        cases h
        exact ⟨none, c :: text, rfl⟩
      case isFalse =>
        split at h
        case isTrue inside =>
          cases taken : takeBytes (n - c.utf8Size) text with
          | error _ =>
              rw [taken] at h
              cases h
          | ok others =>
              rw [taken] at h
              cases h
              obtain ⟨length, after, rfl⟩ := ih taken
              exact ⟨by rw [length_utf8_cons]; omega, after, rfl⟩
        case isFalse => cases h

theorem slice_append (first : start = (utf8 before).length)
    (last : stop = (utf8 (before ++ middle)).length) :
    slice (before ++ (middle ++ after)) start stop = .ok middle := by
  subst first last
  have ordered : (utf8 before).length ≤ (utf8 (before ++ middle)).length := by simp
  have length : (utf8 (before ++ middle)).length - (utf8 before).length = (utf8 middle).length := by
    simp
  rw [slice, if_pos ordered, dropBytes_append, length]
  exact takeBytes_append middle after

/-- A slice is a part of its text. -/
theorem exists_of_slice_eq_ok (h : slice text start stop = .ok middle) :
    ∃ before after, text = before ++ (middle ++ after) ∧ start = (utf8 before).length ∧
      stop = (utf8 (before ++ middle)).length := by
  rw [slice] at h
  split at h
  case isFalse => cases h
  case isTrue ordered =>
    cases dropped : dropBytes start text with
    | error _ =>
        rw [dropped] at h
        cases h
    | ok rest =>
        rw [dropped] at h
        obtain ⟨before, length, rfl⟩ := exists_of_dropBytes_eq_ok dropped
        obtain ⟨length', after, rfl⟩ := exists_of_takeBytes_eq_ok h
        refine ⟨before, after, rfl, length, ?_⟩
        rw [utf8_append, List.length_append]
        omega

end Slices

end SqlLint.Indexed
