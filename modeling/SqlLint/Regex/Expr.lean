import SqlLint.Text.CharSet

/-!
# Regular expressions

What a pattern means once the flags in force have been applied: texts, sets of characters,
conditions on places, and the ways to put them together. Expressions are put together by functions
that keep them in a simple form: texts in a row are one text, rows do not hold rows and choices do
not hold choices, and a choice between single characters is a set. The simple form counts when the
size of an expression is limited.
-/

namespace SqlLint.Regex

/-- A condition on a place in a text. -/
inductive Look
  | textStart
  | textEnd
  /-- At the start of the text or after a line feed. -/
  | lineStart
  /-- At the end of the text or before a line feed. -/
  | lineEnd
  /-- As `lineStart`, where a carriage return ends a line as well, but not before its line feed. -/
  | lineStartAny
  /-- As `lineEnd`, where a carriage return ends a line as well. -/
  | lineEndAny
  | wordBoundary (unicode : Bool)
  | notWordBoundary (unicode : Bool)
  | wordStart (unicode : Bool)
  | wordEnd (unicode : Bool)
  | wordStartHalf (unicode : Bool)
  | wordEndHalf (unicode : Bool)
deriving DecidableEq, Repr

/-- A regular expression. -/
inductive Expr
  /-- Matches the empty text. -/
  | empty
  /-- Matches one text, which is not empty. -/
  | literal (text : List Char)
  /-- Matches one character of a set. -/
  | characters (set : CharSet)
  | look (condition : Look)
  /-- Repetition; without `most` there is no upper bound. A greedy one prefers more. -/
  | repetition (inner : Expr) (least : Nat) (most : Option Nat) (greedy : Bool)
  /-- Keeps what a part matches. -/
  | capture (inner : Expr)
  | concatenation (parts : List Expr)
  /-- Alternatives, the preferred one first. -/
  | alternation (branches : List Expr)
deriving Repr, Inhabited

namespace Expr

mutual

/-- Whether an expression matches the empty text only. -/
def hasNoWidth : Expr → Bool
  | .empty => true
  | .literal _ => false
  | .characters _ => false
  | .look _ => true
  | .repetition inner _ most _ => hasNoWidth inner || most == some 0
  | .capture inner => hasNoWidth inner
  | .concatenation parts => allWithoutWidth parts
  | .alternation branches => allWithoutWidth branches

/-- Whether all expressions match the empty text only. -/
def allWithoutWidth : List Expr → Bool
  | [] => true
  | e :: rest => hasNoWidth e && allWithoutWidth rest

end

mutual

/-- The least number of characters an expression takes; none when it may match nothing at all. -/
def leastWidth? : Expr → Option Nat
  | .empty => some 0
  | .literal text => some text.length
  | .characters set => if set.isEmpty then none else some 1
  | .look _ => some 0
  | .repetition inner least _ _ => (leastWidth? inner).map (· * least)
  | .capture inner => leastWidth? inner
  | .concatenation parts => sumOfWidths? parts
  | .alternation branches => leastOfWidths? branches

/-- The least number of characters that expressions in a row take. -/
def sumOfWidths? : List Expr → Option Nat
  | [] => some 0
  | e :: rest => do return (← leastWidth? e) + (← sumOfWidths? rest)

/-- The least number of characters that one of some expressions takes. -/
def leastOfWidths? : List Expr → Option Nat
  | [] => none
  | [e] => leastWidth? e
  | e :: rest => do return min (← leastWidth? e) (← leastOfWidths? rest)

end

/-- Whether every match of an expression takes a character at least. -/
def takes (e : Expr) : Bool := e.leastWidth?.any (0 < ·)

mutual

/-- Whether two expressions are written alike. No two groups that keep what they match are. -/
def isLike : Expr → Expr → Bool
  | .empty, .empty => true
  | .literal a, .literal b => a == b
  | .characters a, .characters b => a == b
  | .look a, .look b => a == b
  | .repetition a least most greedy, .repetition b least' most' greedy' =>
    least == least' && most == most' && greedy == greedy' && isLike a b
  | .concatenation as, .concatenation bs => areLike as bs
  | .alternation as, .alternation bs => areLike as bs
  | _, _ => false

/-- Whether two lists of expressions are alike one by one. -/
def areLike : List Expr → List Expr → Bool
  | [], [] => true
  | a :: as, b :: bs => isLike a b && areLike as bs
  | _, _ => false

end

def ofSet (set : CharSet) : Expr :=
  match set.single? with
  | some c => .literal [c]
  | none => .characters set

/-- Repetition. What has no width is repeated at most once, since more of it changes nothing. -/
def repeated (inner : Expr) (least : Nat) (most : Option Nat) (greedy : Bool) : Expr :=
  let (least, most) :=
    if inner.hasNoWidth then (min least 1, some (most.elim 1 (min 1))) else (least, most)
  if least = 0 ∧ most = some 0 then .empty
  else if least = 1 ∧ most = some 1 then inner
  else .repetition inner least most greedy

/-- The parts that an expression is in a row. -/
def parts : Expr → List Expr
  | .empty => []
  | .concatenation parts => parts
  | e => [e]

/-- Puts an expression in front of others in a row; two texts become one. -/
def inFront : Expr → List Expr → List Expr
  | .literal a, .literal b :: rest => .literal (a ++ b) :: rest
  | e, rest => e :: rest

def row (es : List Expr) : Expr :=
  match (es.flatMap parts).foldr inFront [] with
  | [] => .empty
  | [e] => e
  | es => .concatenation es

def branches : Expr → List Expr
  | .alternation branches => branches
  | e => [e]

def character? : Expr → Option Char
  | .literal [c] => some c
  | _ => none

/-- The set of an expression that is one. -/
def set? : Expr → Option CharSet
  | .characters set => some set
  | _ => none

/-- The set that a choice between two or more branches amounts to: all of them are characters, or
all are sets. -/
def setOfAll? (branches : List Expr) : Option CharSet :=
  match branches.mapM character? with
  | some cs => some (.ofRanges (cs.map fun c => ⟨c.toNat, c.toNat⟩))
  | none => (branches.mapM set?).map fun sets => .ofRanges (sets.flatMap CharSet.ranges)

/-- The number of parts with which two rows begin alike. -/
def likeAtStart : List Expr → List Expr → Nat
  | a :: as, b :: bs => if isLike a b then likeAtStart as bs + 1 else 0
  | _, _ => 0

/-- The parts of an expression that is a row. -/
def row? : Expr → Option (List Expr)
  | .concatenation parts => some parts
  | _ => none

/-- The parts with which all branches of a choice begin, and what is left of each branch, when all
of them are rows and begin alike. -/
def commonStart? (branches : List Expr) : Option (List Expr × List (List Expr)) :=
  match branches.mapM row? with
  | some (first :: others) =>
    let count := others.foldl (fun count parts => min count (likeAtStart first parts)) first.length
    if count = 0 then none
    else some (first.take count, (first :: others).map (·.drop count))
  | _ => none

/-- A choice between branches without a common start. -/
def choiceOfOthers (es : List Expr) : Expr :=
  match es.flatMap branches with
  | [] => .characters .empty
  | [e] => e
  | es => (setOfAll? es).elim (.alternation es) ofSet

/-- A choice between expressions, the preferred one first. What all branches begin with is taken out
in front of the choice; what is left of them has no common start any more. -/
def choice (es : List Expr) : Expr :=
  let es := es.flatMap branches
  match es, setOfAll? es, commonStart? es with
  | _ :: _ :: _, none, some (start, rests) => row (start ++ [choiceOfOthers (rests.map row)])
  | _, _, _ => choiceOfOthers es

end Expr
end SqlLint.Regex
