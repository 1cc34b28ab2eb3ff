import SqlLint.Regex.Footprint
import SqlLint.Regex.Reading
import SqlLint.Unicode.CaseFolding

/-!
# The meaning of patterns

What a pattern means is an expression, found by applying the flags in force. A pattern that is well
written may still have no meaning: outside Unicode mode only ASCII characters can be spoken of, and
an expression may grow too large.
-/

namespace SqlLint.Regex

/-- The flags in force. -/
structure Flags where
  ignoreCase : Bool := false
  multiLine : Bool := false
  dotAll : Bool := false
  swapGreed : Bool := false
  unicode : Bool := true
  carriageReturn : Bool := false
deriving DecidableEq, Repr

namespace Flags

def set (f : Flags) : Flag × Bool → Flags
  | (.ignoreCase, on) => { f with ignoreCase := on }
  | (.multiLine, on) => { f with multiLine := on }
  | (.dotAll, on) => { f with dotAll := on }
  | (.swapGreed, on) => { f with swapGreed := on }
  | (.unicode, on) => { f with unicode := on }
  | (.carriageReturn, on) => { f with carriageReturn := on }
  | (.ignoreSpace, _) => f

/-- The flags after some changes. -/
def apply (f : Flags) (changes : FlagChanges) : Flags := changes.foldl set f

/-- A set with the other case of its characters when case does not count. -/
def foldCase (f : Flags) (set : CharSet) : CharSet :=
  if f.ignoreCase then
    if f.unicode then Unicode.closeUnderCase set
    else (set.union (shifted set 'a' 'z' 32 false)).union (shifted set 'A' 'Z' 32 true)
  else set
where
  /-- The ASCII letters of a set between two letters, moved up or down in the code. -/
  shifted (set : CharSet) (first last : Char) (distance : Nat) (up : Bool) : CharSet :=
    .ofRanges ((set.intersection (.between first last)).ranges.map fun r =>
      if up then ⟨r.low + distance, r.high + distance⟩ else ⟨r.low - distance, r.high - distance⟩)

/-- A set or, if it is negated, the characters outside it. Outside Unicode mode no set reaches
beyond ASCII, and none can be negated. -/
def negate? (f : Flags) (negated : Bool) (set : CharSet) : Option CharSet :=
  if negated then if f.unicode then some set.complement else none else some set

/-- The characters of a class with a letter of its own. -/
def letterClass (f : Flags) : LetterClass → CharSet
  | .digit => if f.unicode then Unicode.decimalDigits else .between '0' '9'
  | .space => if f.unicode then Unicode.whiteSpace else .ofRanges [⟨9, 13⟩, ⟨0x20, 0x20⟩]
  | .word =>
    if f.unicode then Unicode.wordCharacters
    else .ofRanges [⟨0x30, 0x39⟩, ⟨0x41, 0x5A⟩, ⟨0x5F, 0x5F⟩, ⟨0x61, 0x7A⟩]

/-- A character as a set, unless it cannot be spoken of. -/
def character? (f : Flags) (c : Char) (isByte : Bool) : Option CharSet :=
  if !f.unicode && isByte && 127 < c.toNat then none
  else if f.ignoreCase && !f.unicode && 127 < c.toNat then some (.singleton c)
  else some (f.foldCase (.singleton c))

mutual

def classSet? (f : Flags) : ClassPattern → Option CharSet
  | .range first last =>
    if !f.unicode && 127 < last.toNat then none else some (.between first last)
  | .letter c negated => f.negate? negated (f.letterClass c)
  | .named set negated => if f.unicode then f.negate? negated (f.foldCase set) else none
  | .ascii set negated => f.negate? negated (f.foldCase set)
  | .bracketed inner negated => do f.negate? negated (f.foldCase (← classSet? f inner))
  | .union parts => classUnion? f parts
  | .combined operation left right => do
    let left := f.foldCase (← classSet? f left)
    let right := f.foldCase (← classSet? f right)
    return match operation with
      | .intersection => left.intersection right
      | .difference => left.difference right
      | .symmetricDifference => left.symmetricDifference right

/-- The characters of any of some classes. -/
def classUnion? (f : Flags) : List ClassPattern → Option CharSet
  | [] => some .empty
  | c :: rest => do return (← classSet? f c).union (← classUnion? f rest)

end

def dot? (f : Flags) : Option CharSet :=
  if !f.unicode then none
  else if f.dotAll then some Unicode.anyCharacter
  else if f.carriageReturn then
    some (CharSet.union (.singleton '\n') (.singleton '\r')).complement
  else some (CharSet.singleton '\n').complement

def look (f : Flags) : Anchor → Look
  | .textStart => .textStart
  | .textEnd => .textEnd
  | .lineStart =>
    if !f.multiLine then .textStart else if f.carriageReturn then .lineStartAny else .lineStart
  | .lineEnd =>
    if !f.multiLine then .textEnd else if f.carriageReturn then .lineEndAny else .lineEnd
  | .wordBoundary => .wordBoundary f.unicode
  | .notWordBoundary => .notWordBoundary f.unicode
  | .wordStart => .wordStart f.unicode
  | .wordEnd => .wordEnd f.unicode
  | .wordStartHalf => .wordStartHalf f.unicode
  | .wordEndHalf => .wordEndHalf f.unicode

mutual

/-- The expression a pattern means, and the flags in force after it. -/
def expr? (f : Flags) : Pattern → Option (Expr × Flags)
  | .empty => some (.empty, f)
  | .flags changes => some (.empty, f.apply changes)
  | .literal c isByte => do return (.ofSet (← f.character? c isByte), f)
  | .dot => do return (.ofSet (← f.dot?), f)
  | .anchor place => some (.look (f.look place), f)
  | .characters c => do return (.ofSet (← f.classSet? c), f)
  | .repetition inner least most greedy => do
    let (e, after) ← expr? f inner
    return (e.repeated least most (greedy != f.swapGreed), after)
  | .group kind inner => do
    let (e, _) ← expr? (f.apply kind.changes) inner
    return (match kind with
      | .capture _ => .capture e
      | .plain _ => e, f)
  | .concatenation parts => do
    let (es, after) ← exprs? f parts
    return (.row es, after)
  | .alternation branches => do
    let (es, after) ← exprs? f branches
    return (.choice es, after)

/-- The expressions that patterns mean, where the flags after one are in force for the next. -/
def exprs? (f : Flags) : List Pattern → Option (List Expr × Flags)
  | [] => some ([], f)
  | p :: rest => do
    let (e, f) ← expr? f p
    let (es, f) ← exprs? f rest
    return (e :: es, f)

end

end Flags

/-- The expression a pattern means; none when it has no meaning or is too large. -/
def Expr.ofPattern? (p : Pattern) : Option Expr := do
  let (e, _) ← Flags.expr? {} p
  if e.isSmall then some e else none

end SqlLint.Regex
