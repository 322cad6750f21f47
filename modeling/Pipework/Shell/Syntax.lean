import Pipework.Bytes

set_option autoImplicit false

/-!
The language of shell scripts: lists, pipelines, conditions, loops, choices, functions, simple commands with
assignments and redirections, and words with quotes and expansions. A character stands for one byte.
-/

namespace Pipework.Shell

/-- How a redirection opens its file. -/
inductive OpenKind where
  | read
  | replace
  /-- Replaces a file even if files are protected. -/
  | force
  | append
  | update
  deriving DecidableEq, Repr

mutual

/-- A piece of a word. The value of an expansion that is not quoted is split at separators. -/
inductive WordPart where
  | text (chars : Text) (quoted : Bool)
  | parameter (name : Text) (use : ParameterUse) (quoted : Bool)
  /-- The output of a script. -/
  | output (script : Command) (quoted : Bool)
  | arithmetic (expression : List WordPart) (quoted : Bool)

/-- What becomes of a parameter's value. -/
inductive ParameterUse where
  | value
  | length
  /-- Another word if the parameter is unset or, with a colon, empty. -/
  | orElse (colon : Bool) (word : List WordPart)
  /-- Another word if the parameter is set and, with a colon, not empty. -/
  | whenSet (colon : Bool) (word : List WordPart)
  /-- Like `orElse`, and the parameter takes on the word. -/
  | assign (colon : Bool) (word : List WordPart)
  /-- The shell exits if the parameter is unset or, with a colon, empty. -/
  | orFail (colon : Bool) (message : List WordPart)
  /-- What is left once the shortest or longest match of a pattern is taken away at one end. -/
  | trim (atEnd longest : Bool) (pattern : List WordPart)
  /-- A use of no known meaning. -/
  | bad

/-- A redirection of a descriptor. -/
inductive Redirection where
  | file (descriptor : Nat) (kind : OpenKind) (target : List WordPart)
  /-- Takes over another descriptor, or none. -/
  | share (descriptor : Nat) (target : List WordPart)
  /-- Reads a document that is part of the script, known by its number. -/
  | document (descriptor : Nat) (document : Nat)

/-- A command. The lines are those of the script. -/
inductive Command where
  | nothing
  | simple (line : Nat) (assignments : List (Text × List WordPart)) (words : List (List WordPart))
      (redirections : List Redirection)
  | redirected (line : Nat) (body : Command) (redirections : List Redirection)
  | subshell (line : Nat) (body : Command) (redirections : List Redirection)
  | sequence (first second : Command)
  | both (first second : Command)
  | either (first second : Command)
  | negated (body : Command)
  | pipeline (parts : List Command)
  | background (body : Command)
  | branch (condition whenTrue whenFalse : Command)
  /-- Repeats the body as long as the condition holds, or as long as it does not. -/
  | repeatWhile (holds : Bool) (condition body : Command)
  | forEach (line : Nat) (name : Text) (words : List (List WordPart)) (body : Command)
  /-- Carries out the first branch with a pattern that matches a word. -/
  | choose (line : Nat) (subject : List WordPart) (branches : List (List (List WordPart) × Command))
  | define (name : Text) (body : Command)

end

/-- A word of a script. -/
abbrev Word := List WordPart

instance : Inhabited Command := ⟨.nothing⟩

def isBlank (char : Char) : Bool := char = ' ' || char = '\t'

def isNameStart (char : Char) : Bool := char.isAlpha || char = '_'

def isNameChar (char : Char) : Bool := char.isAlphanum || char = '_'

/-- Whether a text can name a variable. -/
def isName (text : Text) : Bool :=
  match text with
  | [] => false
  | char :: rest => isNameStart char && rest.all isNameChar

/-- Blanks, as programs that read numbers skip them. -/
def isSpace (char : Char) : Bool := char = ' ' || ('\t' ≤ char && char ≤ '\r')

/-- Characters that name a parameter by themselves. -/
def isSpecialParameter (char : Char) : Bool := "@*#?-$!".toList.contains char || char.isDigit

/-- A part that stands for what it says, if it is not empty. -/
def textPart (chars : Text) (quoted : Bool) : Word := if chars.isEmpty then [] else [.text chars quoted]

/-- Adds a character at the end of a word whose parts are given in reverse order. -/
def addChar (char : Char) (quoted : Bool) : Word → Word
  | .text chars same :: parts =>
    if same = quoted then .text (chars ++ [char]) quoted :: parts
    else .text [char] quoted :: .text chars same :: parts
  | parts => .text [char] quoted :: parts

end Pipework.Shell
