/-!
# Requests on a command line

The words of a command line are read from left to right as requests: switches, options with their
values, and operands. `--name` and `-n` name an option; a value follows as the next word, after
`=`, or, for the short form, at once. Short switches may share one dash. After the word `--` every
word is an operand, and so is a single dash anywhere.

A value in a word of its own cannot begin with a dash, so an option never takes another option for
its value. Reading stops at the first word that makes no sense; the requests before it stand,
because one of them may end the program before the mistake counts.
-/

namespace SqlLint.CommandLine

/-- What is wrong with the words of a command line. -/
inductive UsageError
  | missingCommand
  | unknownCommand (word : String)
  | unknownOption (written : String)
  /-- An option is given without the value it needs. -/
  | missingValue (option : String)
  /-- A switch is given a value. -/
  | unexpectedValue (option : String)
  /-- An option that may be given once is given again. -/
  | repeated (option : String)
  | invalidValue (option value : String)
  /-- A word that is no option stands where the command takes none. -/
  | unexpectedOperand (word : String)
deriving DecidableEq, Repr

def UsageError.message : UsageError → String
  | .missingCommand => "a command is missing"
  | .unknownCommand word => s!"unrecognized command '{word}'"
  | .unknownOption written => s!"unexpected argument '{written}'"
  | .missingValue option => s!"a value is required for '{option}'"
  | .unexpectedValue option => s!"no value is expected for '{option}'"
  | .repeated option => s!"the argument '{option}' cannot be used multiple times"
  | .invalidValue option value => s!"invalid value '{value}' for '{option}'"
  | .unexpectedOperand word => s!"unexpected argument '{word}'"

/-- A word of a command line, by the way it is written. -/
inductive Word
  /-- The word after which there are no options. -/
  | terminator
  /-- An option by its long name, with the text after `=`. -/
  | long (name : String) (value : Option String)
  /-- One dash and the characters after it, of which there is at least one. -/
  | short (characters : List Char)
  | plain (text : String)
deriving DecidableEq, Repr

namespace Word

/-- The way a word is written. -/
def ofText (text : String) : Word :=
  match text.toList with
  | ['-', '-'] => .terminator
  | '-' :: '-' :: rest =>
    match rest.dropWhile (· ≠ '=') with
    | [] => .long (String.ofList rest) none
    | _ :: value => .long (String.ofList (rest.takeWhile (· ≠ '='))) (some (String.ofList value))
  | '-' :: c :: rest => .short (c :: rest)
  | _ => .plain text

/-- Whether a word names options. -/
def isOption : Word → Bool
  | .long _ _ => true
  | .short _ => true
  | .terminator => false
  | .plain _ => false

end Word

/-- What naming an option means: a switch of `ς` is on, or a setting of `ν` gets a value. -/
inductive Meaning (ς ν : Type)
  | switch (s : ς)
  | setting (o : ν)
deriving DecidableEq, Repr

/-- How an option of a command is written. -/
structure OptionForm (ς ν : Type) where
  meaning : Meaning ς ν
  long : String
  short : Option Char
deriving DecidableEq, Repr

/-- One thing asked for. -/
inductive Request (ς ν : Type)
  | switch (s : ς)
  | setting (o : ν) (value : String)
  | operand (text : String)
deriving DecidableEq, Repr

namespace Request

variable {ς ν : Type}

/-- Requests in order, up to a mistake if there is one. -/
abbrev Sequence (ς ν : Type) := List (Except UsageError (Request ς ν))

/-- A setting just named that still needs its value, with the name it goes by. -/
abbrev Needy (ν : Type) := ν × String

/-- The requests in the characters after one dash, and the setting at their end that still needs its
value. -/
def ofCharacters (forms : List (OptionForm ς ν)) :
    List Char → Sequence ς ν × Option (Needy ν)
  | [] => ([], none)
  | c :: rest =>
    match forms.find? (·.short = some c) with
    | none => ([.error (.unknownOption s!"-{c}")], none)
    | some form =>
      match form.meaning, rest with
      | .switch s, rest =>
        let (requests, needy) := ofCharacters forms rest
        (.ok (.switch s) :: requests, needy)
      | .setting o, [] => ([], some (o, form.long))
      | .setting o, '=' :: text => ([.ok (.setting o (String.ofList text))], none)
      | .setting o, text => ([.ok (.setting o (String.ofList text))], none)

/-- The requests in words, where `needy` still needs its value. -/
def ofWords (forms : List (OptionForm ς ν)) (needy : Option (Needy ν)) :
    List String → Sequence ς ν
  | [] =>
    match needy with
    | none => []
    | some (_, name) => [.error (.missingValue name)]
  | word :: rest =>
    match needy, Word.ofText word with
    | some (o, _), .plain text => .ok (.setting o text) :: ofWords forms none rest
    | some (_, name), _ => [.error (.missingValue name)]
    | none, .plain text => .ok (.operand text) :: ofWords forms none rest
    | none, .terminator => rest.map fun text => .ok (.operand text)
    | none, .short characters =>
      let (requests, needy) := ofCharacters forms characters
      requests ++ if requests.all (·.isOk) then ofWords forms needy rest else []
    | none, .long name text =>
      match forms.find? (·.long = name) with
      | none => [.error (.unknownOption s!"--{name}")]
      | some form =>
        match form.meaning, text with
        | .switch s, none => .ok (.switch s) :: ofWords forms none rest
        | .switch _, some _ => [.error (.unexpectedValue name)]
        | .setting o, none => ofWords forms (some (o, name)) rest
        | .setting o, some text => .ok (.setting o text) :: ofWords forms none rest

end Request
end SqlLint.CommandLine
