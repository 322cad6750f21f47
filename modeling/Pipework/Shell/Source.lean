import Pipework.Shell.Syntax

set_option autoImplicit false

/-!
Sources of scripts, and what reading them off needs: the characters that are left, where they stand, the
aliases to be replaced, and the documents whose text follows at the end of the line.
-/

namespace Pipework.Shell

/-- A token of a script. -/
inductive Token where
  /-- A word; its text is given if nothing in it is quoted or expanded. -/
  | word (parts : Word) (plain : Option Text)
  | keyword (name : String)
  | operator (name : String)
  | redirection (descriptor : Nat) (kind : OpenKind)
  | sharing (descriptor : Nat)
  | document (descriptor : Nat) (stripTabs : Bool)
  | newline
  | ended

/-- How a token is called in diagnostics. -/
def Token.describe : Token → String
  | .ended => "end of file"
  | .newline => "newline"
  | .operator name | .keyword name => "\x22" ++ name ++ "\x22"
  | .redirection _ _ | .sharing _ | .document _ _ => "redirection"
  | .word _ _ => "word"

/-- A document whose text follows. -/
structure PendingDocument where
  number : Nat
  /-- The line that ends it. -/
  delimiter : Text
  stripTabs : Bool
  /-- Whether its text stands for itself. -/
  literal : Bool

/-- What is left of a script. -/
structure Source where
  rest : Text
  line : Nat := 1
  /-- Whether nothing follows the rest. -/
  complete : Bool := true
  /-- Whether a command of it was carried out. -/
  begun : Bool := false
  /-- A token that was read and put back. -/
  pushed : Option Token := none
  aliases : List (Text × Text) := []
  /-- The aliases whose text is being read, each with how much was left when it began. -/
  active : List (Text × Nat) := []
  /-- How much is left where the text of an alias that ends in a blank ends. -/
  chained : Option Nat := none
  /-- Whether the last word follows such a text, and may be an alias itself. -/
  follows : Bool := false
  pending : List PendingDocument := []
  documents : List (Nat × Word) := []
  nextDocument : Nat := 0

/-- Why a script cannot be read on. -/
inductive ParseFault where
  | syntaxError (line : Nat) (message : String)
  /-- The text that was given ends too early. -/
  | incomplete

/-- A reader of a script. -/
abbrev Parse := StateT Source (Except ParseFault)

/-- More steps than any script makes that ends. -/
def stepLimit : Nat := 1 <<< 40

namespace Parse

/-- Gives up with a diagnostic. -/
def fail {α : Type} (message : String) : Parse α := do
  throw (.syntaxError (← get).line ("Syntax error: " ++ message))

/-- The next character, which is not taken. -/
def peek : Parse (Option Char) := do
  let source ← get
  match source.rest with
  | char :: _ => return some char
  | [] => if source.complete then return none else throw .incomplete

/-- Takes a character. -/
def skip : Parse Unit := modify fun source =>
  match source.rest with
  | '\n' :: rest => { source with rest, line := source.line + 1 }
  | _ :: rest => { source with rest }
  | [] => source

/-- Takes a character that stands where no character may stand. A line that it ends is not counted. -/
def skipMisplaced : Parse Unit := modify fun source => { source with rest := source.rest.tail }

/-- Takes pairs of a backslash and a line feed. -/
def joinLines : Nat → Parse Unit
  | 0 => pure ()
  | fuel + 1 => do
    let source ← get
    match source.rest with
    | '\\' :: '\n' :: rest => do
      set { source with rest, line := source.line + 1 }
      joinLines fuel
    | ['\\'] => if source.complete then pure () else throw .incomplete
    | _ => pure ()

/-- The next character on joined lines, which is not taken. -/
def peekJoined : Parse (Option Char) := do
  joinLines stepLimit
  peek

/-- Takes a character if it comes next on joined lines. -/
def accept (char : Char) : Parse Bool := do
  if (← peekJoined) = some char then
    skip
    return true
  else return false

/-- Takes characters as long as they are of some kind. -/
def takeWhile (isWanted : Char → Bool) : Nat → Text → Parse Text
  | 0, taken => pure taken.reverse
  | fuel + 1, taken => do
    match ← peekJoined with
    | some char =>
      if isWanted char then
        skip
        takeWhile isWanted fuel (char :: taken)
      else return taken.reverse
    | none => return taken.reverse

/-- Takes characters up to another one, which is taken too. Gives nothing if it does not come. -/
def takeUntil (last : Char) : Nat → Text → Parse (Option Text)
  | 0, _ => pure none
  | fuel + 1, taken => do
    match ← peek with
    | none => return none
    | some char => do
      skip
      if char = last then return some taken.reverse else takeUntil last fuel (char :: taken)

/-- Puts a token back. -/
def pushBack (token : Token) : Parse Unit := modify ({ · with pushed := some token })

/-- Reads another text with a reader, and goes on where this one was. -/
def within {α : Type} (text : Text) (line : Nat) (reader : Parse α) : Parse α := do
  let outer ← get
  set { outer with rest := text, line, complete := true, pushed := none, active := [], pending := [] }
  let value ← reader
  modify fun inner =>
    { outer with documents := inner.documents, nextDocument := inner.nextDocument }
  return value

end Parse

end Pipework.Shell
