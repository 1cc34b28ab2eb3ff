import SqlLint.Finding
import SqlLint.Script

/-!
# Rules

A rule looks at one script and makes remarks, each a place and a message. Who made the remark, about
which file and how serious it is, the rule adds afterwards, so every finding of a rule carries the
rule's identifier and its default severity.

Most rules look at tokens. They do so by `Site`s: a token together with the tokens before it,
nearest first, and those after it. A rule that flags sites can only speak about places where a token
starts.
-/

namespace SqlLint

/-- Something a rule says about a place. -/
structure Remark where
  line : Nat
  column : Nat
  message : String
deriving DecidableEq, Repr

/-- What is known about a rule without running it. -/
structure Descriptor where
  /-- Identifier, such as `select-star`. -/
  id : String
  title : String
  category : Category
  /-- Severity of findings when the configuration names none. -/
  severity : Severity
deriving DecidableEq, Repr, Inhabited

/-- A lint rule for one script at a time. -/
structure Rule extends Descriptor where
  /-- What the rule says about a script, in its own order. -/
  inspect : Script → List Remark

namespace Rule

/-- The finding a remark of the rule is, at the rule's default severity. -/
def finding (r : Rule) (s : Script) (remark : Remark) : Finding :=
  ⟨s.path, remark.line, remark.column, r.id, r.severity, remark.message⟩

def check (r : Rule) (s : Script) : List Finding :=
  (r.inspect s).map (r.finding s)

end Rule

/-- A token among its neighbours. -/
structure Site where
  /-- The tokens before, nearest first. -/
  before : List Token
  token : Token
  /-- The tokens after, nearest first. -/
  after : List Token
deriving DecidableEq, Repr

namespace Site

/-- The sites of `tokens` when `before` precedes them. -/
def following (before : List Token) : List Token → List Site
  | [] => []
  | token :: after => ⟨before, token, after⟩ :: Site.following (token :: before) after

/-- The sites of a list of tokens, in order. -/
def all (tokens : List Token) : List Site := Site.following [] tokens

/-- How many tokens precede the site. -/
def index (s : Site) : Nat := s.before.length

def previous? (s : Site) : Option Token := s.before.head?

def next? (s : Site) : Option Token := s.after.head?

/-- Whether an opening parenthesis follows at once, as after the name of a called function. -/
def isCall (s : Site) : Bool := s.next?.any (·.isSymbol '(')

/-- Whether a dot stands just before, as before the name of a column or member. -/
def isMember (s : Site) : Bool := s.previous?.any (·.isSymbol '.')

end Site

/-- A site a rule objects to, and why. -/
structure Flag where
  site : Site
  message : String
deriving DecidableEq, Repr

def Flag.remark (f : Flag) : Remark :=
  ⟨f.site.token.start.line, f.site.token.start.column, f.message⟩

/-- The rule that flags sites of the token sequence. -/
def Rule.ofFlags (descriptor : Descriptor) (flags : List Token → List Flag) : Rule :=
  { descriptor with inspect := fun s => (flags s.tokens).map Flag.remark }

/-- Flags, with one message, the sites of a token sequence that satisfy `p`. -/
def flagWhere (message : String) (p : Site → Bool) (tokens : List Token) : List Flag :=
  ((Site.all tokens).filter p).map (⟨·, message⟩)

end SqlLint
