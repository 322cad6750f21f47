import Pipework.Shell.Arithmetic
import Pipework.Shell.Work

set_option autoImplicit false

/-!
The arguments of builtin commands: options in front of operands, and numbers.
-/

namespace Pipework.Shell

/-- A builtin command: what it does with its arguments, and the status that this gives. -/
abbrev Builtin := List Text → Work Nat

/-- An option that was given, with its argument. -/
abbrev GivenOption := Char × Option Text

/-- Whether a letter is among those of a specification, and whether an argument follows it. -/
def optionKind? (letter : Char) : Text → Option Bool
  | [] => none
  | char :: ':' :: rest => if char = letter then some true else optionKind? letter rest
  | char :: rest => if char = letter then some false else optionKind? letter rest

/-- Reads the letters of one argument. Gives the options and the arguments that follow. -/
def readLetters (specification : Text) : Text → List Text → List GivenOption →
    Work (List GivenOption × List Text)
  | [], arguments, given => return (given, arguments)
  | letter :: rest, arguments, given => do
    match optionKind? letter specification with
    | none => Work.fail ("Illegal option -".toList ++ [letter])
    | some false => readLetters specification rest arguments ((letter, none) :: given)
    | some true =>
      if !rest.isEmpty then return ((letter, some rest) :: given, arguments)
      else
        match arguments with
        | argument :: later => return ((letter, some argument) :: given, later)
        | [] => Work.fail ("No arg for -".toList ++ [letter] ++ " option".toList)

/-- Reads the options in front of the operands; those before are given in reverse order. -/
def readOptionsFrom (specification : Text) : Nat → List Text → List GivenOption →
    Work (List GivenOption × List Text)
  | 0, arguments, given => return (given.reverse, arguments)
  | fuel + 1, arguments, given => do
    match arguments with
    | ['-', '-'] :: later => return (given.reverse, later)
    | ('-' :: letter :: letters) :: later => do
      let (given, later) ← readLetters specification (letter :: letters) later given
      readOptionsFrom specification fuel later given
    | _ => return (given.reverse, arguments)

/-- Reads the options in front of the operands. Letters that take an argument stand before a colon. -/
def readOptions (specification : String) (arguments : List Text) :
    Work (List GivenOption × List Text) :=
  readOptionsFrom specification.toList (arguments.length + 1) arguments []

/-- Gives up at a text that is no number. -/
def failNumber {α : Type} (text : Text) : Work α := Work.fail ("Illegal number: ".toList ++ text)

/-- The number that an argument stands for, which must not be negative. -/
def naturalArgument (text : Text) : Work Nat :=
  match Arithmetic.integer? false text with
  | some value => if 0 ≤ value && value < 2147483648 then return value.toNat else failNumber text
  | none => failNumber text

end Pipework.Shell
