import SqlLint.Proofs.Rules.Sites
import SqlLint.Proofs.Rules.Spelling

/-!
# Dotted names

A dotted name is made of identifiers with dots between them, of which several in a row stand for
parts that are left out. The parser reads such a name to its end, whatever follows, unless another
dot does.

In any token sequence the parser reads from an identifier on as far as a name goes on, which is told
token by token: at a dot that an identifier or another dot follows, and at an identifier behind a
dot. Each of these dots brings a part.
-/

namespace SqlLint

namespace ObjectName

/-- Identifiers with dots between them. -/
inductive Dotted : List Token → Prop
  | single {t : Token} (identifier : t.isIdentifier) : Dotted [t]
  | qualified {t : Token} {dots name : List Token} (identifier : t.isIdentifier)
      (some : dots ≠ []) (all : ∀ dot ∈ dots, dot.isSymbol '.') (dotted : Dotted name) :
      Dotted (t :: (dots ++ name))

variable {t : Token} {dots name rest : List Token}

theorem isIdentifier_eq_false_of_isSymbol {c : Char} (symbol : t.isSymbol c) :
    t.isIdentifier = false := by
  simp only [Token.isSymbol, Bool.and_eq_true, beq_iff_eq] at symbol
  simp [Token.isIdentifier, symbol.1]

theorem isSymbol_eq_false_of_isIdentifier {c : Char} (identifier : t.isIdentifier) :
    t.isSymbol c = false := by
  by_contra symbol
  rw [isIdentifier_eq_false_of_isSymbol (by simpa using symbol)] at identifier
  cases identifier

theorem Dotted.exists_cons (dotted : Dotted name) :
    ∃ t more, name = t :: more ∧ t.isIdentifier := by
  cases dotted with
  | single identifier => exact ⟨_, _, rfl, identifier⟩
  | qualified identifier => exact ⟨_, _, rfl, identifier⟩

/-- The dots before a part belong to the name, and so does the part. -/
theorem length_further_of_dots (some : dots ≠ []) (all : ∀ dot ∈ dots, dot.isSymbol '.')
    (identifier : t.isIdentifier) :
    (further (dots ++ t :: rest)).2 = dots.length + 1 + (further rest).2 := by
  obtain ⟨dot, dots, rfl⟩ := List.exists_cons_of_ne_nil some
  clear some
  induction dots generalizing dot with
  | nil =>
      have isDot := all dot (List.mem_singleton_self dot)
      simp [further, isDot, identifier]
      omega
  | cons next dots ih =>
      obtain ⟨isDot, others⟩ := List.forall_mem_cons.mp all
      have again := others next List.mem_cons_self
      have known := ih next others
      simp only [List.cons_append] at known ⊢
      simp [further, isDot, isIdentifier_eq_false_of_isSymbol again, again, known]
      omega

/-- A dotted name that no dot follows is read to its end. -/
theorem parse?_of_dotted (dotted : Dotted name) (stops : ∀ t ∈ rest.head?, t.isSymbol '.' = false) :
    ∃ n, parse? (name ++ rest) = some n ∧ n.length = name.length := by
  have read : ∀ {t more}, name = t :: more → (further (more ++ rest)).2 = more.length := by
    induction dotted with
    | single identifier =>
        rintro _ _ ⟨⟩
        match rest with
        | [] | [_] => rfl
        | u :: v :: rest => simp [further, stops u rfl]
    | @qualified u dots name identifier some all dotted ih =>
        rintro _ _ ⟨⟩
        obtain ⟨t, more, rfl, first⟩ := dotted.exists_cons
        rw [List.append_assoc, List.cons_append, length_further_of_dots some all first, ih rfl]
        simp
        omega
  obtain ⟨t, more, rfl, identifier⟩ := dotted.exists_cons
  refine ⟨⟨some t :: (further (more ++ rest)).1, (further (more ++ rest)).2 + 1⟩, ?_, ?_⟩
  · simp [parse?, identifier]
  · simp [read rfl]

end ObjectName

namespace Site

/-- Whether the name before the site goes on there: at an identifier behind a dot, and at a dot that
an identifier or another dot follows. -/
def continuesName (s : Site) : Bool :=
  s.token.isIdentifier && s.isMember
    || s.token.isSymbol '.' && s.next?.any fun t => t.isIdentifier || t.isSymbol '.'

/-- The sites at which a name goes on that begins at a site. -/
def restOfName (s : Site) : List Site :=
  (following (s.token :: s.before) s.after).takeWhile continuesName

variable {t u : Token} {before after : List Token}

theorem continuesName_dot (dot : t.isSymbol '.') :
    continuesName ⟨before, t, u :: after⟩ = (u.isIdentifier || u.isSymbol '.') := by
  simp [continuesName, next?, dot, ObjectName.isIdentifier_eq_false_of_isSymbol dot]

theorem continuesName_lastDot (dot : t.isSymbol '.') : continuesName ⟨before, t, []⟩ = false := by
  simp [continuesName, next?, ObjectName.isIdentifier_eq_false_of_isSymbol dot]

theorem continuesName_other (other : t.isSymbol '.' = false) :
    continuesName ⟨u :: before, t, after⟩ = (t.isIdentifier && u.isSymbol '.') := by
  simp [continuesName, isMember, previous?, other]

end Site

namespace ObjectName

variable {s : Site} {sites : List Site} {t u : Token} {before after rest : List Token}

/-- The part that a dot introduces: the identifier behind it, nothing if another dot is there. -/
def partBehind? (dot : Site) : Option Token := dot.next?.filter (·.isIdentifier)

/-- The parts of a name that stand at some of its sites. -/
def partsAt (sites : List Site) : List (Option Token) :=
  (sites.filter (·.token.isSymbol '.')).map partBehind?

theorem partsAt_dot (dot : t.isSymbol '.') : partsAt (⟨before, t, u :: after⟩ :: sites) =
    (if u.isIdentifier then some u else none) :: partsAt sites := by
  simp [partsAt, partBehind?, Site.next?, dot, Option.filter]

theorem partsAt_other (other : t.isSymbol '.' = false) :
    partsAt (⟨before, t, after⟩ :: sites) = partsAt sites := by
  simp [partsAt, other]

/-- Behind a token, unless it is a dot with an identifier behind it, the parser takes up the sites at
which the name goes on. -/
theorem further_eq (apart : ∀ t ∈ rest.head?, t.isIdentifier → u.isSymbol '.' = false)
    (behind : (Site.following (u :: before) rest).takeWhile Site.continuesName = sites) :
    further rest = (partsAt sites, sites.length) := by
  subst behind
  fun_induction further rest generalizing u before with
  | case1 dot next rest isDot identifier ih =>
      have noDot : next.isSymbol '.' = false := isSymbol_eq_false_of_isIdentifier identifier
      have known := @ih next (dot :: u :: before) fun _ _ _ => noDot
      simp [known, Site.following, Site.continuesName_dot isDot, Site.continuesName_other noDot,
        isDot, identifier, partsAt_dot isDot, partsAt_other noDot]
  | case2 dot next rest isDot other again ih =>
      have known := @ih dot (u :: before) fun t first identifier => by
        cases first
        exact absurd identifier other
      rw [known]
      simp [Site.following, Site.continuesName_dot isDot, again, other, partsAt_dot isDot]
  | case3 dot next rest isDot other stop =>
      simp [Site.following, Site.continuesName_dot isDot, other, stop, partsAt]
  | case4 first next rest noDot =>
      have noDot : first.isSymbol '.' = false := by simpa using noDot
      have ends : Site.continuesName ⟨u :: before, first, next :: rest⟩ = false := by
        simpa [Site.continuesName_other noDot] using apart first rfl
      simp [Site.following, ends, partsAt]
  | case5 rest short =>
      rcases rest with _ | ⟨last, _ | ⟨next, rest⟩⟩
      · rfl
      · have ends : Site.continuesName ⟨u :: before, last, []⟩ = false := by
          cases dot : last.isSymbol '.' with
          | true => exact Site.continuesName_lastDot dot
          | false => simpa [Site.continuesName_other dot] using apart last rfl
        simp [Site.following, ends, partsAt]
      · exact absurd rfl (short last next rest)

/-- From an identifier on, the parser reads as far as the name goes on, with a part for each dot. -/
theorem parse?_of_isIdentifier (identifier : s.token.isIdentifier) :
    parse? (s.token :: s.after) =
      some ⟨some s.token :: partsAt s.restOfName, s.restOfName.length + 1⟩ := by
  have noDot : s.token.isSymbol '.' = false := isSymbol_eq_false_of_isIdentifier identifier
  rw [parse?, if_pos identifier, further_eq (fun _ _ _ => noDot) rfl]
  rfl

end ObjectName
end SqlLint
