import SqlLint.Token

/-!
# Matching parentheses

Going backwards from a closing parenthesis, the partner is the first opening one at which as many
have been opened as closed.
-/

namespace SqlLint.Parenthesis

/-- The tokens before the parenthesis that brings the depth back to zero, going through `tokens`,
nearest first, with `depth` parentheses closed and not yet opened. -/
def openFrom? : Nat → List Token → Option (List Token)
  | _, [] => none
  | depth, t :: before =>
    if t.isSymbol ')' then openFrom? (depth + 1) before
    else if t.isSymbol '(' then
      match depth with
      | 0 => none
      | 1 => some before
      | outer + 1 => openFrom? outer before
    else openFrom? depth before

/-- The tokens before the partner of the closing parenthesis that heads `tokens`, nearest first. -/
def matchingOpen? (tokens : List Token) : Option (List Token) :=
  openFrom? 0 tokens

end SqlLint.Parenthesis
