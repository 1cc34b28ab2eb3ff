import SqlLint.Json.Token

/-!
# JSON documents, whole or broken

A document is read as far as it is well formed. Where the text goes wrong the open arrays and
objects are closed as they stand, and are marked as broken there. So what comes before the first
mistake can be judged without regard to what comes after it: a reader that goes through a document
in order meets the problems of a text in the order of the text.

`Reading` is the machine behind this; it takes one token at a time and keeps the open containers on
a stack.
-/

namespace SqlLint.Json

/-- How the members of an object come to their end. -/
inductive Ending
  /-- By the closing brace. -/
  | closed
  /-- The text goes wrong after them. -/
  | broken
  /-- This token stands where a key has to stand. -/
  | strayKey (token : Token)
deriving DecidableEq, Repr

/-- What a text says, as far as it is well formed. -/
inductive Document
  | null
  | bool (value : Bool)
  | number (text : NumberText)
  /-- The characters of the string, escapes included. -/
  | string (raw : List Char)
  | array (items : List Document) (isClosed : Bool)
  /-- Keys with their escapes, and values. -/
  | object (members : List (List Char × Document)) (ending : Ending)
  /-- No value stands here. -/
  | broken
deriving Repr, Inhabited

/-- An open container around the place of reading; what was read last comes first. -/
inductive Frame
  | items (done : List Document)
  /-- The value of `key` comes next. -/
  | members (done : List (List Char × Document)) (key : List Char)
deriving Repr

namespace Document

/-- The document in which `inner` is the last thing read, every container around it left open. -/
def unwind (inner : Document) : List Frame → Document
  | [] => inner
  | .items done :: stack => unwind (.array (inner :: done).reverse false) stack
  | .members done key :: stack =>
    unwind (.object ((key, inner) :: done).reverse .broken) stack

mutual

def isComplete : Document → Bool
  | .array items isClosed => isClosed && areComplete items
  | .object members .closed => haveCompleteValues members
  | .object _ _ => false
  | .broken => false
  | _ => true

def areComplete : List Document → Bool
  | [] => true
  | item :: rest => item.isComplete && areComplete rest

def haveCompleteValues : List (List Char × Document) → Bool
  | [] => true
  | (_, value) :: rest => value.isComplete && haveCompleteValues rest

end

end Document

/-- Where reading stands. -/
inductive Reading
  /-- A value comes next. -/
  | value (stack : List Frame)
  /-- An array was opened. -/
  | firstItem (stack : List Frame)
  /-- An object was opened. -/
  | firstKey (stack : List Frame)
  /-- Another key comes next. -/
  | nextKey (done : List (List Char × Document)) (stack : List Frame)
  /-- A key was read and its colon comes next. -/
  | colon (done : List (List Char × Document)) (key : List Char) (stack : List Frame)
  /-- An item was read. -/
  | afterItem (done : List Document) (stack : List Frame)
  /-- A member was read. -/
  | afterMember (done : List (List Char × Document)) (stack : List Frame)
  /-- The document is complete. -/
  | complete (document : Document)
  /-- The text went wrong inside the document. -/
  | halted (document : Document)
  /-- The document is complete and more text follows. -/
  | overrun (document : Document)
deriving Repr

namespace Reading

/-- Where reading stands once a value has been read. -/
def place (value : Document) : List Frame → Reading
  | [] => .complete value
  | .items done :: stack => .afterItem (value :: done) stack
  | .members done key :: stack => .afterMember ((key, value) :: done) stack

/-- Reads the first token of a value. -/
def begin (stack : List Frame) : Token → Reading
  | .null => place .null stack
  | .bool b => place (.bool b) stack
  | .number n => place (.number n) stack
  | .string raw => place (.string raw) stack
  | .openArray => .firstItem stack
  | .openObject => .firstKey stack
  | _ => .halted (Document.broken.unwind stack)

/-- How an object ends when a token that is no key stands in the place of one. -/
def endingAt : Token → Ending
  | .null => .strayKey .null
  | .bool b => .strayKey (.bool b)
  | .number n => .strayKey (.number n)
  | .openArray => .strayKey .openArray
  | .openObject => .strayKey .openObject
  | _ => .broken

/-- Reads one token. -/
def step : Reading → Token → Reading
  | .value stack, token => begin stack token
  | .firstItem stack, .closeArray => place (.array [] true) stack
  | .firstItem stack, .bad => .halted (Document.unwind (.array [] false) stack)
  | .firstItem stack, token => begin (.items [] :: stack) token
  | .firstKey stack, .closeObject => place (.object [] .closed) stack
  | .firstKey stack, .string raw => .colon [] raw stack
  | .firstKey stack, token => .halted (Document.unwind (.object [] (endingAt token)) stack)
  | .nextKey done stack, .string raw => .colon done raw stack
  | .nextKey done stack, token =>
    .halted (Document.unwind (.object done.reverse (endingAt token)) stack)
  | .colon done key stack, .colon => .value (.members done key :: stack)
  | .colon done key stack, _ =>
    .halted (Document.unwind (.object ((key, .broken) :: done).reverse .broken) stack)
  | .afterItem done stack, .comma => .value (.items done :: stack)
  | .afterItem done stack, .closeArray => place (.array done.reverse true) stack
  | .afterItem done stack, _ => .halted (Document.unwind (.array done.reverse false) stack)
  | .afterMember done stack, .comma => .nextKey done stack
  | .afterMember done stack, .closeObject => place (.object done.reverse .closed) stack
  | .afterMember done stack, _ =>
    .halted (Document.unwind (.object done.reverse .broken) stack)
  | .complete document, _ => .overrun document
  | .halted document, _ => .halted document
  | .overrun document, _ => .overrun document

def document : Reading → Document
  | .value stack => Document.broken.unwind stack
  | .firstItem stack => Document.unwind (.array [] false) stack
  | .firstKey stack => Document.unwind (.object [] .broken) stack
  | .nextKey done stack => Document.unwind (.object done.reverse .broken) stack
  | .colon done key stack =>
    Document.unwind (.object ((key, .broken) :: done).reverse .broken) stack
  | .afterItem done stack => Document.unwind (.array done.reverse false) stack
  | .afterMember done stack => Document.unwind (.object done.reverse .broken) stack
  | .complete document => document
  | .halted document => document
  | .overrun document => document

/-- Whether the text is exactly one document when it ends here. -/
def isExact : Reading → Bool
  | .complete _ => true
  | _ => false

/-- Where reading stands after all tokens of a text. -/
def ofTokens (tokens : List Token) : Reading := tokens.foldl step (.value [])

def ofText (text : String) : Reading := ofTokens (Token.ofText text)

end Reading
end SqlLint.Json
