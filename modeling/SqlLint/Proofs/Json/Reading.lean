import SqlLint.Proofs.Json.Digits
import SqlLint.Proofs.Json.Escape

/-!
# Reading what is written

A text is read token by token. Here this is seen from the side of the text: what the state of
reading becomes behind a piece of text, whatever follows. A piece that is the text of a value takes
any state that awaits a value to the one with that value in its place. The pieces of arrays and
objects are put together from those of their parts, with blanks between the tokens or without, so
nothing here depends on how a printer lays out its lines.
-/

namespace SqlLint.Json

/-- Whether a text consists of blanks. -/
def IsGap (text : List Char) : Prop := ∀ c ∈ text, isBlank c

@[simp] theorem isGap_nil : IsGap [] := by simp [IsGap]

namespace Token

theorem cut_eq (text : List Char) : cut text =
    match text.dropWhile isBlank with
    | [] => []
    | c :: tail =>
      match scan (c :: tail) with
      | none => [.bad]
      | some (token, rest) => token :: cut rest := by
  rw [cut]
  split
  · next none => rw [none]
  · next c tail solid =>
      rw [solid]
      split
      · next none => simp only [none]
      · next scanned => simp only [scanned]

theorem cut_nil : cut [] = [] := cut_eq []

theorem cut_blank {c : Char} (blank : isBlank c) (text : List Char) :
    cut (c :: text) = cut text := by
  rw [cut_eq, cut_eq text, List.dropWhile_cons_of_pos blank]

theorem cut_of_scan {text rest : List Char} {token : Token} (solid : ∀ c ∈ text.head?, ¬ isBlank c)
    (scanned : scan text = some (token, rest)) : cut text = token :: cut rest := by
  cases text with
  | nil => cases scanned
  | cons c text => simp only [cut_eq (c :: text), List.dropWhile_cons_of_neg (solid c rfl), scanned]

end Token

namespace Reading

/-- Where reading stands after a text, from a state on. -/
def run (r : Reading) (text : List Char) : Reading := (Token.cut text).foldl step r

@[simp] theorem run_nil (r : Reading) : r.run [] = r := by
  rw [run, Token.cut_nil]
  rfl

theorem run_of_scan {text rest : List Char} {token : Token} (r : Reading)
    (solid : ∀ c ∈ text.head?, ¬ isBlank c) (scanned : Token.scan text = some (token, rest)) :
    r.run text = (r.step token).run rest := by
  rw [run, Token.cut_of_scan solid scanned]
  rfl

@[simp] theorem run_gap {gap : List Char} (blank : IsGap gap) (r : Reading) (rest : List Char) :
    r.run (gap ++ rest) = r.run rest := by
  induction gap with
  | nil => rfl
  | cons c gap ih =>
      rw [List.cons_append, run, Token.cut_blank (blank c List.mem_cons_self)]
      exact ih fun d member => blank d (List.mem_cons_of_mem c member)

section Marks

variable (r : Reading) (rest : List Char)

theorem run_openArray : r.run ('[' :: rest) = (r.step .openArray).run rest :=
  run_of_scan r (by simp [isBlank]) rfl

theorem run_closeArray : r.run (']' :: rest) = (r.step .closeArray).run rest :=
  run_of_scan r (by simp [isBlank]) rfl

theorem run_openObject : r.run ('\x7b' :: rest) = (r.step .openObject).run rest :=
  run_of_scan r (by simp [isBlank]) rfl

theorem run_closeObject : r.run ('\x7d' :: rest) = (r.step .closeObject).run rest :=
  run_of_scan r (by simp [isBlank]) rfl

theorem run_colon : r.run (':' :: rest) = (r.step .colon).run rest :=
  run_of_scan r (by simp [isBlank]) rfl

theorem run_comma : r.run (',' :: rest) = (r.step .comma).run rest :=
  run_of_scan r (by simp [isBlank]) rfl

theorem run_string (text : List Char) :
    r.run ('"' :: escape text ++ '"' :: rest) = (r.step (.string (escape text))).run rest :=
  run_of_scan r (by simp [isBlank]) (by simp [Token.scan])

end Marks

end Reading

open Reading

/-- Whether the next token is read as the first one of a value inside open containers. -/
def Awaits (r : Reading) (stack : List Frame) : Prop :=
  ∀ token, token ≠ .closeArray → token ≠ .bad → r.step token = begin stack token

/-- Whether the next token is read as a key of an object with some members. -/
def AwaitsKey (r : Reading) (done : List (List Char × Document)) (stack : List Frame) : Prop :=
  ∀ raw, r.step (.string raw) = .colon done raw stack

theorem awaits_value (stack : List Frame) : Awaits (.value stack) stack := fun _ _ _ => rfl

/-- Whether a text is read as a document, wherever a value is awaited and whatever follows. -/
def Reads (text : List Char) (d : Document) : Prop :=
  ∀ r stack rest, Awaits r stack → Detached rest → r.run (text ++ rest) = (place d stack).run rest

/-- Whether a text is read as a member of an object, wherever a key is awaited. -/
def ReadsMember (text : List Char) (member : List Char × Document) : Prop :=
  ∀ r done stack rest, AwaitsKey r done stack → Detached rest →
    r.run (text ++ rest) = (Reading.afterMember (member :: done) stack).run rest

/-- A value of one token. -/
theorem Reads.of_scan {text : List Char} {d : Document} (token : Token)
    (solid : ∀ c ∈ text.head?, ¬ isBlank c) (nonempty : text ≠ [])
    (scanned : ∀ rest, Detached rest → Token.scan (text ++ rest) = some (token, rest))
    (begins : ∀ stack, begin stack token = place d stack) (noEnd : token ≠ .closeArray)
    (noBreak : token ≠ .bad) : Reads text d := by
  intro r stack rest awaits detached
  have solid' : ∀ c ∈ (text ++ rest).head?, ¬ isBlank c := by
    rw [List.head?_append_of_ne_nil _ nonempty]
    exact solid
  rw [run_of_scan r solid' (scanned rest detached), awaits token noEnd noBreak, begins]

theorem reads_null : Reads ['n', 'u', 'l', 'l'] .null :=
  .of_scan .null (by simp [isBlank]) (by simp) (fun _ _ => rfl) (fun _ => rfl) (by simp) (by simp)

theorem reads_true : Reads ['t', 'r', 'u', 'e'] (.bool true) :=
  .of_scan (.bool true) (by simp [isBlank]) (by simp) (fun _ _ => rfl) (fun _ => rfl) (by simp)
    (by simp)

theorem reads_false : Reads ['f', 'a', 'l', 's', 'e'] (.bool false) :=
  .of_scan (.bool false) (by simp [isBlank]) (by simp) (fun _ _ => rfl) (fun _ => rfl) (by simp)
    (by simp)

theorem reads_string (text : List Char) :
    Reads ('"' :: escape text ++ ['"']) (.string (escape text)) :=
  .of_scan (.string (escape text)) (by simp [isBlank]) (by simp) (fun _ _ => by simp [Token.scan])
    (fun _ => rfl) (by simp) (by simp)

/-- A text that starts with a digit is scanned as a number. -/
theorem scan_of_isDigit {text : List Char} (digit : ∃ c ∈ text.head?, c.isDigit = true) :
    Token.scan text = (scanNumber false text).map fun (n, rest) => (.number n, rest) := by
  obtain ⟨c, head, digit⟩ := digit
  cases text with
  | nil => cases head
  | cons d text =>
      obtain rfl : d = c := Option.some.inj head
      rw [Token.scan.eq_def]
      split
      case h_13 same =>
        obtain ⟨rfl, rfl⟩ := List.cons.inj same
        rw [if_pos digit]
      all_goals
        next same =>
          cases same
          try cases digit

theorem reads_number (n : Nat) : Reads (Nat.toDigits 10 n) (.number (.ofNat n)) := by
  obtain ⟨c, more, written⟩ := List.exists_cons_of_ne_nil (Nat.toDigits_ne_nil (b := 10) (n := n))
  have digit : c.isDigit = true := isDigit_of_mem_toDigits (n := n) (by simp [written])
  refine .of_scan (.number (.ofNat n)) ?_ Nat.toDigits_ne_nil ?_ (fun _ => rfl) (by simp) (by simp)
  · intro d head
    rw [written] at head
    obtain rfl : c = d := Option.some.inj head
    intro blank
    simp only [isBlank, Bool.or_eq_true, decide_eq_true_eq] at blank
    rcases blank with ((rfl | rfl) | rfl) | rfl <;> cases digit
  · intro rest detached
    rw [scan_of_isDigit ⟨c, by simp [written], digit⟩, scanNumber_toDigits detached]
    rfl

theorem detached_comma (rest : List Char) : Detached (',' :: rest) :=
  detached_cons (by decide) (by decide) (by decide) (by decide) rest

theorem IsGap.detached_append {gap rest : List Char} (blank : IsGap gap)
    (detached : Detached rest) : Detached (gap ++ rest) := by
  cases gap with
  | nil => exact detached
  | cons c gap =>
      have here := blank c List.mem_cons_self
      simp only [isBlank, Bool.or_eq_true, decide_eq_true_eq] at here
      rcases here with ((rfl | rfl) | rfl) | rfl <;>
        exact detached_cons (by decide) (by decide) (by decide) (by decide) _

/-- Parts that are read one after the other, with commas between them. `enter` is the state in which
the next part is awaited and `after` the state behind a part, each behind some parts, the last one
first. The hypotheses are about one part, and so this serves arrays and objects alike. -/
theorem run_parts {α : Type} (enter after : List α → Reading) {gap : List Char}
    {texts : List (List Char)} {parts : List α} (blank : IsGap gap)
    (comma : ∀ part done, (after (part :: done)).step .comma = enter (part :: done))
    (each : List.Forall₂ (fun text part => ∀ done rest, Detached rest →
      (enter done).run (text ++ rest) = (after (part :: done)).run rest) texts parts)
    (some : parts ≠ []) (done : List α) {rest : List Char} (detached : Detached rest) :
    (enter done).run ((',' :: gap).intercalate texts ++ rest) =
      (after (parts.reverse ++ done)).run rest := by
  induction each generalizing done with
  | nil => contradiction
  | @cons text part texts parts here others ih =>
      cases others with
      | nil =>
          rw [List.intercalate_singleton, here done rest detached]
          rfl
      | cons =>
          rw [List.intercalate_cons_cons, List.append_assoc, List.append_assoc, List.cons_append,
            here done _ (detached_comma _), run_comma, comma, run_gap blank, ih (by simp)]
          simp

section Arrays

/-- Where the next item of an array is awaited. -/
def enterItem (stack : List Frame) : List Document → Reading
  | [] => .firstItem stack
  | item :: done => .value (.items (item :: done) :: stack)

theorem awaits_enterItem (stack : List Frame) (done : List Document) :
    Awaits (enterItem stack done) (.items done :: stack) := by
  intro token noEnd noBreak
  cases done with
  | nil => cases token <;> first | rfl | contradiction
  | cons => rfl

variable {gap close : List Char}

/-- An array, with blanks in front of each item and in front of the closing bracket. -/
theorem Reads.array {texts : List (List Char)} {items : List Document}
    (each : List.Forall₂ Reads texts items) (blank : IsGap gap) (blank' : IsGap close) :
    Reads ('[' :: gap ++ (',' :: gap).intercalate texts ++ close ++ [']']) (.array items true) := by
  intro r stack rest awaits _
  have detached : Detached (close ++ ']' :: rest) := by
    refine blank'.detached_append ?_
    exact detached_cons (by decide) (by decide) (by decide) (by decide) rest
  have parts : List.Forall₂ (fun text item => ∀ done rest, Detached rest →
      (enterItem stack done).run (text ++ rest) =
        (Reading.afterItem (item :: done) stack).run rest) texts items := by
    refine each.imp fun text item reads done rest detached => ?_
    exact reads _ _ _ (awaits_enterItem stack done) detached
  simp only [List.cons_append, List.append_assoc, List.nil_append]
  rw [run_openArray, awaits _ (by simp) (by simp), run_gap blank]
  change (enterItem stack []).run _ = _
  by_cases none : items = []
  · subst none
    cases each
    rw [List.intercalate_nil, List.nil_append, run_gap blank', run_closeArray]
    rfl
  · rw [run_parts _ (.afterItem · stack) blank (fun _ _ => rfl) parts none [] detached,
      run_gap blank', run_closeArray]
    simp [step]

end Arrays

section Objects

/-- Where the next key of an object is awaited. -/
def enterMember (stack : List Frame) : List (List Char × Document) → Reading
  | [] => .firstKey stack
  | member :: done => .nextKey (member :: done) stack

theorem awaitsKey_enterMember (stack : List Frame) (done : List (List Char × Document)) :
    AwaitsKey (enterMember stack done) done stack := by
  intro raw
  cases done <;> rfl

variable {gap close : List Char}

/-- A member, with blanks behind the colon. -/
theorem ReadsMember.of_reads {text : List Char} {d : Document} (reads : Reads text d)
    (key : List Char) (blank : IsGap gap) :
    ReadsMember ('"' :: escape key ++ '"' :: ':' :: gap ++ text) (escape key, d) := by
  intro r done stack rest awaits detached
  simp only [List.cons_append, List.append_assoc]
  rw [← List.cons_append, run_string, awaits, run_colon, run_gap blank]
  exact reads _ _ _ (awaits_value _) detached

/-- An object, with blanks in front of each member and in front of the closing brace. -/
theorem Reads.object {texts : List (List Char)} {members : List (List Char × Document)}
    (each : List.Forall₂ ReadsMember texts members) (blank : IsGap gap) (blank' : IsGap close) :
    Reads ('\x7b' :: gap ++ (',' :: gap).intercalate texts ++ close ++ ['\x7d'])
      (.object members .closed) := by
  intro r stack rest awaits _
  have detached : Detached (close ++ '\x7d' :: rest) := by
    refine blank'.detached_append ?_
    exact detached_cons (by decide) (by decide) (by decide) (by decide) rest
  have parts : List.Forall₂ (fun text member => ∀ done rest, Detached rest →
      (enterMember stack done).run (text ++ rest) =
        (Reading.afterMember (member :: done) stack).run rest) texts members := by
    refine each.imp fun text member reads done rest detached => ?_
    exact reads _ _ _ _ (awaitsKey_enterMember stack done) detached
  simp only [List.cons_append, List.append_assoc, List.nil_append]
  rw [run_openObject, awaits _ (by simp) (by simp), run_gap blank]
  change (enterMember stack []).run _ = _
  by_cases none : members = []
  · subst none
    cases each
    rw [List.intercalate_nil, List.nil_append, run_gap blank', run_closeObject]
    rfl
  · rw [run_parts _ (.afterMember · stack) blank (fun _ _ => rfl) parts none [] detached,
      run_gap blank', run_closeObject]
    simp [step]

end Objects

section Texts

variable {text gap : String} {d : Document}

/-- A text that is read as a document holds it and nothing else, also with blanks behind it. -/
theorem Reads.ofText_append_eq (reads : Reads text.toList d) (blank : IsGap gap.toList) :
    Reading.ofText (text ++ gap) = .complete d := by
  have whole := reads _ _ gap.toList (awaits_value [])
    (by simpa using blank.detached_append detached_nil)
  have ends : (Reading.complete d).run gap.toList = .complete d := by
    simpa using run_gap blank (.complete d) []
  rw [place, ends, ← String.toList_append] at whole
  exact whole

theorem Reads.ofText_eq (reads : Reads text.toList d) : Reading.ofText text = .complete d := by
  have none : IsGap "".toList := isGap_nil
  simpa using reads.ofText_append_eq none

end Texts

end SqlLint.Json
