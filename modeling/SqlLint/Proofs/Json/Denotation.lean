import SqlLint.Proofs.Json.Record

/-!
# What values denote

Each decoder accepts just the documents that denote a value of its kind: a text, an integer in a
range, a word, an object. So what a decoder does can be said without its steps, and without the
problems that it reports.
-/

namespace SqlLint.Json

theorem mismatch_ne_ok {α : Type} (wanted : String) (found : Decoded Found) (a : α) :
    mismatch wanted found ≠ .ok a := by
  intro decoded
  obtain ⟨_, _, refused⟩ := Except.bind_eq_ok_iff.mp decoded
  cases refused

namespace Document

/-- Whether a document is a string that stands for a text once its escapes are resolved. -/
def HasText (d : Document) (text : String) : Prop :=
  ∃ raw, d = .string raw ∧ resolved raw = .ok text

/-- Whether a document is an integer of at least zero, with nothing but its digits. -/
def HasNatural (d : Document) (n : Nat) : Prop :=
  ∃ digits, d = .number ⟨false, digits, [], none⟩ ∧ decimalValue digits = n

/-- Members as they are written, and with the escapes in their keys resolved. -/
def Keyed : List (List Char × Document) → List (String × Document) → Prop :=
  List.Forall₂ fun written member => resolved written.1 = .ok member.1 ∧ written.2 = member.2

/-- Whether a document is an object with some members. -/
def HasMembers (d : Document) (members : List (String × Document)) : Prop :=
  ∃ raw, d = .object raw .closed ∧ Keyed raw members

/-- Whether a document names a word: as a text, or as the only key of an object whose value is
`null`. -/
def NamesWord (d : Document) (word : String) : Prop :=
  d.HasText word ∨ d.HasMembers [(word, .null)]

variable {α : Type} {d : Document} {raw : List (List Char × Document)}
variable {members members' : List (String × Document)}

theorem Keyed.unique (h : Keyed raw members) (h' : Keyed raw members') : members = members' := by
  refine Relator.RightUnique.forall₂ ?_ h h'
  rintro ⟨key, value⟩ ⟨first, _⟩ ⟨second, _⟩ ⟨read, rfl⟩ ⟨read', rfl⟩
  cases read.symm.trans read'
  rfl

theorem HasMembers.unique (h : d.HasMembers members) (h' : d.HasMembers members') :
    members = members' := by
  obtain ⟨raw, rfl, keyed⟩ := h
  obtain ⟨_, same, keyed'⟩ := h'
  cases same
  exact keyed.unique keyed'

theorem text_eq_ok_iff {wanted text : String} : d.text wanted = .ok text ↔ d.HasText text := by
  cases d with
  | string raw =>
      constructor
      · intro read
        exact ⟨raw, rfl, read⟩
      · rintro ⟨_, same, read⟩
        cases same
        exact read
  | _ =>
      constructor
      · intro read
        exact absurd read (mismatch_ne_ok _ _ _)
      · rintro ⟨_, other, _⟩
        cases other

/-- An integer of at least zero is kept as an integer just if it has 64 bits and no sign. -/
theorem value?_eq_some_integer_iff {t : NumberText} {n : Nat} :
    t.value? = some (.integer n) ↔ ∃ digits, t = ⟨false, digits, [], none⟩ ∧
      decimalValue digits = n ∧ n < 0x10000000000000000 := by
  obtain ⟨negative, whole, fraction, exponent⟩ := t
  constructor
  · intro valued
    rw [NumberText.value?] at valued
    split_ifs at valued with positive below
    · simp only [NumberText.isWhole, Bool.and_eq_true, Bool.not_eq_true', List.isEmpty_iff,
        Option.isNone_iff_eq_none, decide_eq_true_eq] at positive
      obtain ⟨⟨⟨rfl, rfl⟩, rfl⟩, small⟩ := positive
      obtain rfl : decimalValue whole = n := by simpa using valued
      exact ⟨whole, rfl, rfl, small⟩
    · simp only [Bool.and_eq_true, decide_eq_true_eq] at below
      have negated : -(decimalValue whole : Int) = n := by simpa using valued
      omega
    · obtain ⟨_, _, real⟩ := Option.map_eq_some_iff.mp valued
      cases real
  · rintro ⟨digits, same, rfl, small⟩
    cases same
    simp [NumberText.value?, NumberText.isWhole, small]

/-- An integer of 64 bits is read without loss. -/
theorem natural_eq_ok_iff {wanted : String} {most n : Nat} (small : most < 0x10000000000000000) :
    d.natural wanted most = .ok n ↔ d.HasNatural n ∧ n ≤ most := by
  constructor
  · intro read
    cases d with
    | number t =>
        obtain ⟨number, valued, read⟩ := Except.bind_eq_ok_iff.mp read
        rw [NumberText.number] at valued
        split at valued
        · next value found =>
            cases valued
            cases number with
            | real => exact absurd read (mismatch_ne_ok _ _ _)
            | integer value =>
                simp only at read
                split_ifs at read with range
                cases read
                obtain ⟨n, rfl⟩ := Int.eq_ofNat_of_zero_le range.1
                obtain ⟨digits, rfl, same, -⟩ := value?_eq_some_integer_iff.mp found
                exact ⟨⟨digits, rfl, same⟩, by simpa using range.2⟩
        · cases valued
    | _ => exact absurd read (mismatch_ne_ok _ _ _)
  · rintro ⟨⟨digits, rfl, same⟩, bounded⟩
    have found := value?_eq_some_integer_iff.mpr
      ⟨digits, rfl, same, Nat.lt_of_le_of_lt bounded small⟩
    have range : 0 ≤ (n : Int) ∧ (n : Int) ≤ most := ⟨by simp, by simpa using bounded⟩
    simp only [Document.natural, NumberText.number, found, bind, Except.bind, if_pos range,
      Int.toNat_natCast]

theorem optional_eq_ok_iff {decode : Document → Decoded α} {a : Option α} :
    d.optional decode = .ok a ↔ d = .null ∧ a = none ∨
      d ≠ .null ∧ ∃ value, decode d = .ok value ∧ some value = a := by
  cases d with
  | null => simp [Document.optional, eq_comm]
  | _ => simp only [Document.optional, Except.map_eq_ok_iff, reduceCtorEq, false_and, false_or,
      ne_eq, not_false_eq_true, true_and]

theorem choice_eq_ok_iff {alternatives : List (String × α)} {word : String} {a : α} :
    choice alternatives word = .ok a ↔ alternatives.lookup word = some a := by
  rw [choice]
  split <;> simp [*]

theorem atEnd_eq_ok_iff {ending : Ending} : atEnd ending = .ok () ↔ ending = .closed := by
  cases ending <;> simp [atEnd]

/-- A word is read just if the document names one of the alternatives. -/
theorem word_eq_ok_iff {alternatives : List (String × α)} {a : α} :
    d.word alternatives = .ok a ↔ ∃ word, d.NamesWord word ∧ alternatives.lookup word = some a := by
  cases d with
  | string raw =>
      simp only [Document.word, Except.bind_eq_ok_iff, choice_eq_ok_iff]
      refine exists_congr fun word => and_congr_left fun _ => ?_
      constructor
      · intro read
        exact .inl ⟨raw, rfl, read⟩
      · rintro (⟨_, same, read⟩ | ⟨_, other, _⟩)
        · cases same
          exact read
        · cases other
  | object members ending =>
      constructor
      · intro read
        cases members with
        | nil =>
            cases ending with
            | strayKey => exact absurd read (mismatch_ne_ok _ _ _)
            | _ => cases read
        | cons written rest =>
            obtain ⟨rawKey, value⟩ := written
            obtain ⟨word, resolves, read⟩ := Except.bind_eq_ok_iff.mp read
            obtain ⟨chosen, found, read⟩ := Except.bind_eq_ok_iff.mp read
            cases value with
            | null =>
                simp only at read
                split_ifs at read with only
                obtain ⟨_, ended, rfl⟩ := Except.map_eq_ok_iff.mp read
                rw [List.isEmpty_iff] at only
                rw [only, atEnd_eq_ok_iff.mp ended]
                refine ⟨word, .inr ⟨_, rfl, .cons ⟨resolves, rfl⟩ .nil⟩, ?_⟩
                exact choice_eq_ok_iff.mp found
            | _ => exact absurd read (mismatch_ne_ok _ _ _)
      · rintro ⟨word, ⟨_, other, _⟩ | ⟨raw, same, keyed⟩, found⟩
        · cases other
        · cases same
          cases keyed with
          | @cons written _ _ _ here none =>
              obtain ⟨key, value⟩ := written
              obtain ⟨read, same⟩ := here
              cases same
              cases none
              refine Except.bind_eq_ok_iff.mpr ⟨word, read, ?_⟩
              exact Except.bind_eq_ok_iff.mpr ⟨a, choice_eq_ok_iff.mpr found, rfl⟩
  | _ =>
      constructor
      · intro read
        cases read
      · rintro ⟨_, ⟨_, other, _⟩ | ⟨_, other, _⟩, _⟩ <;> cases other

/-- The members of an object are read just if their keys and values are. -/
theorem entries_eq_ok_iff {wanted : String} {decode : Document → Decoded α}
    {values : List (String × α)} : d.entries wanted decode = .ok values ↔
      ∃ members, d.HasMembers members ∧
        List.Forall₂ (fun m v => m.1 = v.1 ∧ decode m.2 = .ok v.2) members values := by
  -- One member is read just if it has a key and a value that is decoded.
  have paired : ∀ {raw : List (List Char × Document)} {values : List (String × α)},
      (List.Forall₂ (fun member v => (do
        return (← resolved member.1, ← decode member.2) : Decoded (String × α)) = .ok v)
          raw values) ↔
      ∃ members, Keyed raw members ∧
        List.Forall₂ (fun m v => m.1 = v.1 ∧ decode m.2 = .ok v.2) members values := by
    intro raw values
    constructor
    · intro each
      induction each with
      | nil => exact ⟨[], .nil, .nil⟩
      | @cons written value _ _ here _ ih =>
          obtain ⟨members, keyed, decoded⟩ := ih
          obtain ⟨key, read, here⟩ := Except.bind_eq_ok_iff.mp here
          obtain ⟨a, decoded', same⟩ := Except.bind_eq_ok_iff.mp here
          cases same
          exact ⟨(key, written.2) :: members, .cons ⟨read, rfl⟩ keyed,
            .cons ⟨rfl, decoded'⟩ decoded⟩
    · rintro ⟨members, keyed, decoded⟩
      induction keyed generalizing values with
      | nil =>
          cases decoded
          exact .nil
      | cons here _ ih =>
          cases decoded with
          | cons first others =>
              refine .cons ?_ (ih others)
              rw [here.1, here.2, first.1, first.2]
              rfl
  cases d with
  | object raw ending =>
      constructor
      · intro read
        obtain ⟨values', decoded, closed⟩ := Except.bind_eq_ok_iff.mp read
        obtain ⟨_, ended, rfl⟩ := Except.map_eq_ok_iff.mp closed
        obtain ⟨members, keyed, each⟩ := paired.mp (Except.mapM_eq_ok_iff.mp decoded)
        exact ⟨members, ⟨raw, by rw [atEnd_eq_ok_iff.mp ended], keyed⟩, each⟩
      · rintro ⟨members, ⟨_, same, keyed⟩, each⟩
        cases same
        refine Except.bind_eq_ok_iff.mpr ⟨values, Except.mapM_eq_ok_iff.mpr ?_, rfl⟩
        exact paired.mpr ⟨members, keyed, each⟩
  | _ =>
      constructor
      · intro read
        exact absurd read (mismatch_ne_ok _ _ _)
      · rintro ⟨_, ⟨_, other, _⟩, _⟩
        cases other

end Document

end SqlLint.Json
