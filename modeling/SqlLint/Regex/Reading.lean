import SqlLint.Json.Number
import SqlLint.Regex.Pattern
import SqlLint.Text.WhiteSpace
import SqlLint.Unicode.Lookup

/-!
# Reading patterns

A pattern is read from left to right; whatever is not a pattern is refused. In the mode that
ignores blanks, blanks and comments may stand between any two parts, also inside escapes and
counts. Look-around and references to groups are refused: matching takes time linear in the text.
-/

namespace SqlLint.Regex

/-- A text without the blanks at its start, and without the comments from `#` to the end of a line;
`inComment` says that it starts inside one. -/
def dropSpace (inComment : Bool) : List Char → List Char
  | [] => []
  | c :: rest =>
    if inComment then dropSpace (c != '\n') rest
    else if WhiteSpace.isWhiteSpace c then dropSpace false rest
    else if c = '#' then dropSpace true rest
    else c :: rest

/-- A text without what the mode ignores at its start. -/
def skip (ignoreSpace : Bool) (cs : List Char) : List Char :=
  if ignoreSpace then dropSpace false cs else cs

/-- Characters that stand for something else unless they are escaped. -/
def isMeta (c : Char) : Bool :=
  ['\\', '.', '+', '*', '?', '(', ')', '|', '[', ']', '\x7b', '\x7d', '^', '$', '#', '&', '-',
    '~'].contains c

/-- Whether a backslash before a character gives the character itself. -/
def isEscapable (c : Char) : Bool :=
  isMeta c || (c.val < 128 && !c.isAlphanum && c != '<' && c != '>')

def charOfCode? (code : Nat) : Option Char :=
  if code < 0xD800 ∨ (0xDFFF < code ∧ code < 0x110000) then some (Char.ofNat code) else none

def hexDigitValue? (c : Char) : Option Nat :=
  if c.isDigit then some (c.toNat - 48)
  else if 'a' ≤ c ∧ c ≤ 'f' then some (c.toNat - 87)
  else if 'A' ≤ c ∧ c ≤ 'F' then some (c.toNat - 55)
  else none

/-- The number that exactly `count` hexadecimal digits write, after what is read already. -/
def hexDigits (ignoreSpace : Bool) (code : Nat) : Nat → List Char → Option (Nat × List Char)
  | 0, cs => some (code, cs)
  | count + 1, cs =>
    match skip ignoreSpace cs with
    | [] => none
    | c :: rest => do hexDigits ignoreSpace (16 * code + (← hexDigitValue? c)) count rest

/-- The number that hexadecimal digits up to a closing brace write; `steps` bounds their number. -/
def bracedHexDigits (ignoreSpace : Bool) (code : Option Nat) :
    Nat → List Char → Option (Nat × List Char)
  | 0, _ => none
  | steps + 1, cs =>
    match skip ignoreSpace cs with
    | [] => none
    | '\x7d' :: rest => code.map fun code => (code, rest)
    | c :: rest => do
      bracedHexDigits ignoreSpace (some (16 * code.getD 0 + (← hexDigitValue? c))) steps rest

/-- One thing outside brackets or inside them. -/
inductive Primitive
  | literal (c : Char) (isByte : Bool)
  | anchor (place : Anchor)
  | letter (c : LetterClass) (negated : Bool)
  | named (set : CharSet) (negated : Bool)
deriving Repr

/-- The character whose code follows, as `count` digits or as any number of them in braces. -/
def hexEscape (ignoreSpace : Bool) (count : Nat) (cs : List Char) :
    Option (Primitive × List Char) := do
  let cs := skip ignoreSpace cs
  match cs with
  | '\x7b' :: rest =>
    let (code, rest) ← bracedHexDigits ignoreSpace none (rest.length + 1) rest
    return (.literal (← charOfCode? code) false, rest)
  | _ =>
    let (code, rest) ← hexDigits ignoreSpace 0 count cs
    return (.literal (← charOfCode? code) (count = 2), rest)

/-- The characters up to a closing brace, without those that the mode ignores; `steps` bounds their
number. -/
def braced (ignoreSpace : Bool) : Nat → List Char → Option (List Char × List Char)
  | 0, _ => none
  | steps + 1, cs =>
    match skip ignoreSpace cs with
    | [] => none
    | '\x7d' :: rest => some ([], rest)
    | c :: rest => (braced ignoreSpace steps rest).map fun (name, rest) => (c :: name, rest)

/-- A text cut at the first place where `mark` stands in it. -/
def cutAt? (mark : List Char) : List Char → Option (List Char × List Char)
  | [] => none
  | c :: rest =>
    if mark.isPrefixOf (c :: rest) then some ([], (c :: rest).drop mark.length)
    else (cutAt? mark rest).map fun (front, back) => (c :: front, back)

/-- The set of characters that a name, or a property and its value, stand for. An exclamation mark
before the equality sign stands for the other characters. -/
def namedSet? (name : List Char) (negated : Bool) : Option Primitive :=
  match cutAt? ['!', '='] name with
  | some (property, value) => (Unicode.valued? property value).map fun set => .named set !negated
  | none =>
    match (cutAt? [':'] name).or (cutAt? ['='] name) with
    | some (property, value) => (Unicode.valued? property value).map fun set => .named set negated
    | none => (Unicode.named? name).map fun set => .named set negated

/-- The named set after `\p` or `\P`. -/
def namedClass (ignoreSpace negated : Bool) (cs : List Char) : Option (Primitive × List Char) :=
  match skip ignoreSpace cs with
  | [] => none
  | '\x7b' :: rest => do
    let (name, rest) ← braced ignoreSpace (rest.length + 1) rest
    return (← namedSet? name negated, rest)
  | '\\' :: _ => none
  | c :: rest => (namedSet? [c] negated).map fun p => (p, rest)

/-- Characters of the names of word boundaries. -/
def isBoundaryChar (c : Char) : Bool := c.isAlpha || c = '-'

/-- The characters of the name of a word boundary; `steps` bounds their number. -/
def boundaryName (ignoreSpace : Bool) : Nat → List Char → List Char × List Char
  | 0, cs => ([], cs)
  | steps + 1, cs =>
    match skip ignoreSpace cs with
    | [] => ([], [])
    | c :: rest =>
      if isBoundaryChar c then
        let (name, after) := boundaryName ignoreSpace steps rest
        (c :: name, after)
      else ([], c :: rest)

/-- The place after `\b`: a special word boundary if a brace and a letter follow, and else a plain
one. -/
def boundary (ignoreSpace : Bool) (cs : List Char) : Option (Primitive × List Char) :=
  match cs with
  | '\x7b' :: rest =>
    match skip ignoreSpace rest with
    | [] => none
    | c :: _ =>
      if !isBoundaryChar c then some (.anchor .wordBoundary, cs)
      else
        match boundaryName ignoreSpace rest.length rest with
        | (name, '\x7d' :: after) =>
          match String.ofList name with
          | "start" => some (.anchor .wordStart, after)
          | "end" => some (.anchor .wordEnd, after)
          | "start-half" => some (.anchor .wordStartHalf, after)
          | "end-half" => some (.anchor .wordEndHalf, after)
          | _ => none
        | _ => none
  | _ => some (.anchor .wordBoundary, cs)

/-- What a backslash and the text after it stand for. -/
def escape (ignoreSpace : Bool) : List Char → Option (Primitive × List Char)
  | [] => none
  | c :: rest =>
    match c with
    | 'x' => hexEscape ignoreSpace 2 rest
    | 'u' => hexEscape ignoreSpace 4 rest
    | 'U' => hexEscape ignoreSpace 8 rest
    | 'p' => namedClass ignoreSpace false rest
    | 'P' => namedClass ignoreSpace true rest
    | 'd' => some (.letter .digit false, rest)
    | 'D' => some (.letter .digit true, rest)
    | 's' => some (.letter .space false, rest)
    | 'S' => some (.letter .space true, rest)
    | 'w' => some (.letter .word false, rest)
    | 'W' => some (.letter .word true, rest)
    | 'a' => some (.literal '\x07' false, rest)
    | 'f' => some (.literal '\x0c' false, rest)
    | 't' => some (.literal '\t' false, rest)
    | 'n' => some (.literal '\n' false, rest)
    | 'r' => some (.literal '\r' false, rest)
    | 'v' => some (.literal '\x0b' false, rest)
    | 'A' => some (.anchor .textStart, rest)
    | 'z' => some (.anchor .textEnd, rest)
    | 'b' => boundary ignoreSpace rest
    | 'B' => some (.anchor .notWordBoundary, rest)
    | '<' => some (.anchor .wordStart, rest)
    | '>' => some (.anchor .wordEnd, rest)
    | c => if isEscapable c then some (.literal c false, rest) else none

/-- Classes of ASCII characters with a name. -/
def asciiClasses : List (String × List CodeRange) := [
  ("alnum", [⟨0x30, 0x39⟩, ⟨0x41, 0x5A⟩, ⟨0x61, 0x7A⟩]),
  ("alpha", [⟨0x41, 0x5A⟩, ⟨0x61, 0x7A⟩]),
  ("ascii", [⟨0, 0x7F⟩]),
  ("blank", [⟨9, 9⟩, ⟨0x20, 0x20⟩]),
  ("cntrl", [⟨0, 0x1F⟩, ⟨0x7F, 0x7F⟩]),
  ("digit", [⟨0x30, 0x39⟩]),
  ("graph", [⟨0x21, 0x7E⟩]),
  ("lower", [⟨0x61, 0x7A⟩]),
  ("print", [⟨0x20, 0x7E⟩]),
  ("punct", [⟨0x21, 0x2F⟩, ⟨0x3A, 0x40⟩, ⟨0x5B, 0x60⟩, ⟨0x7B, 0x7E⟩]),
  ("space", [⟨9, 13⟩, ⟨0x20, 0x20⟩]),
  ("upper", [⟨0x41, 0x5A⟩]),
  ("word", [⟨0x30, 0x39⟩, ⟨0x41, 0x5A⟩, ⟨0x5F, 0x5F⟩, ⟨0x61, 0x7A⟩]),
  ("xdigit", [⟨0x30, 0x39⟩, ⟨0x41, 0x46⟩, ⟨0x61, 0x66⟩])]

/-- The named ASCII class such as `[:alpha:]` at the start of a text, if one stands there. -/
def asciiClass? (cs : List Char) : Option (ClassPattern × List Char) :=
  match cs with
  | '[' :: ':' :: rest =>
    let (negated, rest) := match rest with
      | '^' :: rest => (true, rest)
      | rest => (false, rest)
    match rest.dropWhile (· ≠ ':') with
    | ':' :: ']' :: after =>
      (asciiClasses.lookup (String.ofList (rest.takeWhile (· ≠ ':')))).map fun ranges =>
        (.ascii (.ofRanges ranges) negated, after)
    | _ => none
  | _ => none

/-- The dashes at the start of a class, which stand for themselves. -/
def leadingDashes (ignoreSpace : Bool) : Nat → List Char → List ClassPattern × List Char
  | 0, cs => ([], cs)
  | steps + 1, cs =>
    match cs with
    | '-' :: rest =>
      let (dashes, after) := leadingDashes ignoreSpace steps (skip ignoreSpace rest)
      (.range '-' '-' :: dashes, after)
    | cs => ([], cs)

/-- The start of a class after its bracket: whether it is negated, and the characters that stand for
themselves only there; `steps` bounds their number. -/
def classStart (ignoreSpace : Bool) (steps : Nat) (cs : List Char) :
    Bool × List ClassPattern × List Char :=
  let cs := skip ignoreSpace cs
  let (negated, cs) := match cs with
    | '^' :: rest => (true, skip ignoreSpace rest)
    | cs => (false, cs)
  let (dashes, cs) := leadingDashes ignoreSpace steps cs
  match dashes, cs with
  | [], ']' :: rest => (negated, [.range ']' ']'], skip ignoreSpace rest)
  | dashes, cs => (negated, dashes, cs)

/-- One item of a class. -/
def classItem (ignoreSpace : Bool) : List Char → Option (Primitive × List Char)
  | [] => none
  | '\\' :: rest => escape ignoreSpace rest
  | c :: rest => some (.literal c false, rest)

def Primitive.class? : Primitive → Option ClassPattern
  | .literal c _ => some (.range c c)
  | .letter c negated => some (.letter c negated)
  | .named set negated => some (.named set negated)
  | .anchor _ => none

def trimmed (cs : List Char) : List Char := cs.dropWhile WhiteSpace.isWhiteSpace

/-- The character that decides whether a dash makes a range, in the text after the dash. Blanks are
passed over in the mode that ignores them, and so is the sign that starts a comment, but not the
comment itself: the first character of its text that is not blank decides. -/
def afterDash? (ignoreSpace : Bool) (cs : List Char) : Option Char :=
  if ignoreSpace then
    match trimmed cs with
    | [] => cs.head?
    | '#' :: comment => (trimmed comment).head?.or cs.head?
    | c :: _ => some c
  else cs.head?

/-- An item or a range of a class. -/
def classRange (ignoreSpace : Bool) (cs : List Char) : Option (ClassPattern × List Char) := do
  let (first, rest) ← classItem ignoreSpace cs
  match skip ignoreSpace rest with
  | [] => none
  | '-' :: tail =>
    if [']', '-'].any (afterDash? ignoreSpace tail = some ·) then
      return (← first.class?, '-' :: tail)
    else
      let (last, rest) ← classItem ignoreSpace (skip ignoreSpace tail)
      match first, last with
      | .literal a _, .literal b _ => if a ≤ b then some (.range a b, rest) else none
      | _, _ => none
  | after => return (← first.class?, after)

/-- What stands before an operator, combined with what follows it. -/
def combine (left : Option (SetOperation × ClassPattern)) (items : List ClassPattern) :
    ClassPattern :=
  match left with
  | none => .union items.reverse
  | some (operation, left) => .combined operation left (.union items.reverse)

/-- The items of a class up to its closing bracket, after those in `items`, the last one first;
`steps` bounds their number. -/
def classItems (ignoreSpace : Bool) (left : Option (SetOperation × ClassPattern))
    (items : List ClassPattern) : Nat → List Char → Option (ClassPattern × List Char)
  | 0, _ => none
  | steps + 1, cs =>
    match skip ignoreSpace cs with
    | [] => none
    | ']' :: rest => some (combine left items, rest)
    | '&' :: '&' :: rest =>
      classItems ignoreSpace (some (.intersection, combine left items)) [] steps rest
    | '-' :: '-' :: rest =>
      classItems ignoreSpace (some (.difference, combine left items)) [] steps rest
    | '~' :: '~' :: rest =>
      classItems ignoreSpace (some (.symmetricDifference, combine left items)) [] steps rest
    | '[' :: rest =>
      match asciiClass? ('[' :: rest) with
      | some (item, after) => classItems ignoreSpace left (item :: items) steps after
      | none => do
        let (negated, first, rest) := classStart ignoreSpace steps rest
        let (inner, after) ← classItems ignoreSpace none first.reverse steps rest
        classItems ignoreSpace left (.bracketed inner negated :: items) steps after
    | cs => do
      let (item, after) ← classRange ignoreSpace cs
      classItems ignoreSpace left (item :: items) steps after

/-- The class after an opening bracket; `steps` bounds the number of its items. -/
def classPattern (ignoreSpace : Bool) (steps : Nat) (cs : List Char) :
    Option (ClassPattern × List Char) := do
  let (negated, first, rest) := classStart ignoreSpace steps cs
  let (inner, after) ← classItems ignoreSpace none first.reverse steps rest
  return (.bracketed inner negated, after)

/-- The digits of a count, in a text that may hold blanks; `steps` bounds their number. -/
def countDigits (ignoreSpace : Bool) : Nat → List Char → List Char × List Char
  | 0, cs => ([], cs)
  | steps + 1, cs =>
    match cs with
    | c :: rest =>
      if c.isDigit then
        let (digits, after) := countDigits ignoreSpace steps (skip ignoreSpace rest)
        (c :: digits, after)
      else ([], cs)
    | [] => ([], [])

/-- A count at the start of a text, white space around it apart; it has 32 bits. -/
def count (ignoreSpace : Bool) (cs : List Char) : Option (Nat × List Char) :=
  let start := trimmed cs
  let (digits, after) := countDigits ignoreSpace start.length start
  let n := Json.decimalValue digits
  if digits.isEmpty || n ≥ 0x100000000 then none
  else
    let after := if after.head?.any WhiteSpace.isWhiteSpace then
      skip ignoreSpace (trimmed after) else after
    some (n, after)

/-- The bounds of a repetition after an opening brace, and the text after the closing one. -/
def bounds (ignoreSpace : Bool) (cs : List Char) : Option (Nat × Option Nat × List Char) := do
  let (least, rest) ← count ignoreSpace (skip ignoreSpace cs)
  match rest with
  | '\x7d' :: rest => return (least, some least, rest)
  | ',' :: rest =>
    match skip ignoreSpace rest with
    | '\x7d' :: rest => return (least, none, rest)
    | rest =>
      let (most, rest) ← count ignoreSpace rest
      match rest with
      | '\x7d' :: rest => if least ≤ most then return (least, some most, rest) else none
      | _ => none
  | _ => none

/-- Whether a question mark follows, which makes a repetition lazy, and the text after it. -/
def laziness : List Char → Bool × List Char
  | '?' :: rest => (true, rest)
  | rest => (false, rest)

/-- The flag a letter stands for. -/
def flag? : Char → Option Flag
  | 'i' => some .ignoreCase
  | 'm' => some .multiLine
  | 's' => some .dotAll
  | 'U' => some .swapGreed
  | 'u' => some .unicode
  | 'R' => some .carriageReturn
  | 'x' => some .ignoreSpace
  | _ => none

/-- Flags up to a colon or a closing parenthesis, each at most once and with at most one minus sign
in front of some of them; the text that is left starts with the colon or parenthesis. -/
def flagChanges (negated afterMinus : Bool) (changes : FlagChanges) :
    List Char → Option (FlagChanges × List Char)
  | [] => none
  | ':' :: rest => if afterMinus then none else some (changes, ':' :: rest)
  | ')' :: rest => if afterMinus then none else some (changes, ')' :: rest)
  | '-' :: rest => if negated then none else flagChanges true true changes rest
  | c :: rest =>
    match flag? c with
    | none => none
    | some flag =>
      if changes.any (·.1 = flag) then none
      else flagChanges negated false (changes ++ [(flag, !negated)]) rest

/-- Letters that came with version 17 of the standard. The sets that patterns name are those of
version 16, but the names of groups follow the later one. -/
def laterLetters : CharSet := .ofTable
  "88f c5c cdc a7ce-a7cf a7d2 a7d4 a7f1 10940-10959 10ec5-10ec7 10efa-10efb 11b60-11b67
  11db0-11ddb 16ea0-16eb8 16ebb-16ed3 16ff2-16ff6 187f8-187ff 18d09-18d1e 18d80-18df2 1e6c0-1e6de
  1e6e0-1e6f5 1e6fe-1e6ff 2b73a-2b73f 2cea2-2cead 323b0-33479"

/-- Digits that came with version 17 of the standard. -/
def laterDigits : CharSet := .ofTable "11de0-11de9"

def isLetter (c : Char) : Bool := Unicode.alphabetic.contains c || laterLetters.contains c

def isNameStart (c : Char) : Bool := c = '_' || isLetter c

def isNameChar (c : Char) : Bool :=
  c = '_' || c = '.' || c = '[' || c = ']' || isLetter c || Unicode.alphanumeric.contains c ||
    laterDigits.contains c

def groupName? (cs : List Char) : Option (String × List Char) :=
  let name := cs.takeWhile (· ≠ '>')
  match name, cs.dropWhile (· ≠ '>') with
  | c :: rest, _ :: after =>
    if isNameStart c && rest.all isNameChar then some (String.ofList name, after) else none
  | _, _ => none

/-- What an opening parenthesis begins. -/
inductive Opening
  /-- Nothing: flags change for the rest of the group around it. -/
  | flags (changes : FlagChanges)
  | group (kind : Group)
deriving Repr

/-- What an opening parenthesis begins, and the text after it. -/
def opening (ignoreSpace : Bool) (cs : List Char) : Option (Opening × List Char) :=
  match skip ignoreSpace cs with
  | '?' :: '=' :: _ => none
  | '?' :: '!' :: _ => none
  | '?' :: '<' :: '=' :: _ => none
  | '?' :: '<' :: '!' :: _ => none
  | '?' :: 'P' :: '<' :: rest => do
    let (name, rest) ← groupName? rest
    return (.group (.capture (some name)), rest)
  | '?' :: '<' :: rest => do
    let (name, rest) ← groupName? rest
    return (.group (.capture (some name)), rest)
  | '?' :: rest => do
    let (changes, rest) ← flagChanges false false [] rest
    match rest with
    | ')' :: after => if changes.isEmpty then none else return (.flags changes, after)
    | _ :: after => return (.group (.plain changes), after)
    | [] => none
  | rest => some (.group (.capture none), rest)

/-- Whether blanks are ignored after changes of flags. -/
def ignoresSpaceAfter (ignoreSpace : Bool) (changes : FlagChanges) : Bool :=
  (changes.lookup .ignoreSpace).getD ignoreSpace

def isRepeatable : Pattern → Bool
  | .empty => false
  | .flags _ => false
  | _ => true

def Primitive.pattern : Primitive → Pattern
  | .literal c isByte => .literal c isByte
  | .anchor place => .anchor place
  | .letter c negated => .characters (.letter c negated)
  | .named set negated => .characters (.named set negated)

/-- The repetition of the last part, the last part being the first of the list. -/
def repeatLast (parts : List Pattern) (least : Nat) (most : Option Nat) (greedy : Bool) :
    Option (List Pattern) :=
  match parts with
  | last :: rest =>
    if isRepeatable last then some (.repetition last least most greedy :: rest) else none
  | [] => none

/-- The pattern that branches and the parts of the last one make up, each the last one first. -/
def finished (branches parts : List Pattern) : Pattern :=
  Pattern.ofBranches (Pattern.ofParts parts.reverse :: branches).reverse

/-- The pattern of a text up to its end or to a closing parenthesis. Before it stand `branches` and
then `parts`, each the last one first; `steps` bounds the number of parts. -/
def body (ignoreSpace : Bool) (branches parts : List Pattern) :
    Nat → List Char → Option (Pattern × List Char)
  | 0, _ => none
  | steps + 1, cs =>
    match skip ignoreSpace cs with
    | [] => some (finished branches parts, [])
    | ')' :: rest => some (finished branches parts, ')' :: rest)
    | '|' :: rest =>
      body ignoreSpace (Pattern.ofParts parts.reverse :: branches) [] steps rest
    | '(' :: rest => do
      match ← opening ignoreSpace rest with
      | (.flags changes, after) =>
        body (ignoresSpaceAfter ignoreSpace changes) branches (.flags changes :: parts) steps after
      | (.group kind, after) =>
        let (inner, after) ← body (ignoresSpaceAfter ignoreSpace kind.changes) [] [] steps after
        match after with
        | _ :: after => body ignoreSpace branches (.group kind inner :: parts) steps after
        | [] => none
    | '[' :: rest => do
      let (c, after) ← classPattern ignoreSpace steps rest
      body ignoreSpace branches (.characters c :: parts) steps after
    | '?' :: rest => do
      let (isLazy, after) := laziness rest
      body ignoreSpace branches (← repeatLast parts 0 (some 1) !isLazy) steps after
    | '*' :: rest => do
      let (isLazy, after) := laziness rest
      body ignoreSpace branches (← repeatLast parts 0 none !isLazy) steps after
    | '+' :: rest => do
      let (isLazy, after) := laziness rest
      body ignoreSpace branches (← repeatLast parts 1 none !isLazy) steps after
    | '\x7b' :: rest => do
      let (least, most, rest) ← bounds ignoreSpace rest
      let (isLazy, after) := laziness (skip ignoreSpace rest)
      body ignoreSpace branches (← repeatLast parts least most !isLazy) steps after
    | '\\' :: rest => do
      let (p, after) ← escape ignoreSpace rest
      body ignoreSpace branches (p.pattern :: parts) steps after
    | '.' :: rest => body ignoreSpace branches (.dot :: parts) steps rest
    | '^' :: rest => body ignoreSpace branches (.anchor .lineStart :: parts) steps rest
    | '$' :: rest => body ignoreSpace branches (.anchor .lineEnd :: parts) steps rest
    | c :: rest => body ignoreSpace branches (.literal c false :: parts) steps rest

/-- How deep a pattern may be nested. -/
def nestLimit : Nat := 250

/-- Reads a pattern. -/
def Pattern.ofText? (text : String) : Option Pattern := do
  let cs := text.toList
  match ← body false [] [] (cs.length + 1) cs with
  | (p, []) => if p.names.Nodup ∧ p.depth ≤ nestLimit then some p else none
  | _ => none

end SqlLint.Regex
