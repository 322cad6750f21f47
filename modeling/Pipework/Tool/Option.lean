import Pipework.Tool.Name
import Pipework.Tool.Work

set_option autoImplicit false

/-!
The options of tools. Letters stand behind a hyphen, several of them together if they take no argument; names
stand behind two hyphens and may be cut short. Operands may stand between options, and two hyphens alone end
the options.
-/

namespace Pipework.Tool

/-- Whether an argument follows an option. -/
inductive OptionKind where
  | plain
  | withArgument
  /-- Only one that is joined to the option. -/
  | withJoined
  deriving DecidableEq, Repr

/-- The options that a tool knows. -/
structure OptionTable where
  /-- The letters, with one colon behind those that take an argument and two if it has to be joined. -/
  letters : String
  /-- Names, with the letters that mean the same. -/
  names : List (String × Char) := []
  /-- Whether the first operand ends the options. -/
  inOrder : Bool := false
  /-- Whether a number behind a hyphen is an operand. -/
  takesNumbers : Bool := false

/-- An option that was given. -/
structure Given where
  letter : Char
  argument : Option Text := none
  /-- How many arguments follow the one in which it stands. -/
  place : Nat := 0
  deriving DecidableEq, Repr

namespace OptionTable

/-- The kind of a letter among those of a specification. -/
def kindIn (letter : Char) : Text → Option OptionKind
  | [] => none
  | char :: ':' :: ':' :: rest => if char = letter then some .withJoined else kindIn letter rest
  | char :: ':' :: rest => if char = letter then some .withArgument else kindIn letter rest
  | char :: rest => if char = letter then some .plain else kindIn letter rest

def kind? (table : OptionTable) (letter : Char) : Option OptionKind :=
  if letter = ':' then none else kindIn letter table.letters.toList

/-- The names that a text stands for: itself, or all that it begins. -/
def matchingNames (table : OptionTable) (text : Text) : List (String × Char) :=
  match table.names.find? fun entry => entry.1.toList = text with
  | some entry => [entry]
  | none => table.names.filter fun entry => text.isPrefixOf entry.1.toList

end OptionTable

variable {m : Type → Type} [Monad m] [MonadLiftT Work m]

/-- Reads the letters behind a hyphen, each of which is checked. Gives the options and the arguments that follow. -/
def readLetters (check : Given → m Unit) (table : OptionTable) :
    Text → List Text → m (List Given × List Text)
  | [], later => return ([], later)
  | letter :: rest, later => do
    let place := later.length
    let last (argument : Option Text) (later : List Text) : m (List Given × List Text) := do
      check { letter, argument, place }
      return ([{ letter, argument, place }], later)
    match table.kind? letter with
    | none => liftM (Work.failUsage ("invalid option -- ".toList ++ quoted [letter]) : Work _)
    | some .plain => do
      check { letter, place }
      let (given, later) ← readLetters check table rest later
      return ({ letter, place } :: given, later)
    | some .withJoined => last (if rest.isEmpty then none else some rest) later
    | some .withArgument =>
      if !rest.isEmpty then last (some rest) later
      else
        match later with
        | argument :: later => last (some argument) later
        | [] => liftM (Work.failUsage ("option requires an argument -- ".toList ++ quoted [letter]) : Work _)

/-- Reads a name behind two hyphens. Gives the option and the arguments that follow. -/
def readName (table : OptionTable) (text : Text) (later : List Text) : Work (Given × List Text) := do
  let name := text.takeWhile (· ≠ '=')
  let joined := if name.length < text.length then some (text.drop (name.length + 1)) else none
  let found := table.matchingNames name
  let sameMeaning := (found.map Prod.snd).eraseDups.length ≤ 1
  match found with
  | [] =>
    match ["help", "version"].find? fun entry => name.isPrefixOf entry.toList, joined with
    | some entry, some _ =>
      Work.failUsage ("option ".toList ++ quoted ("--" ++ entry).toList ++ " doesn't allow an argument".toList)
    | _, _ => Work.failUsage ("unrecognized option ".toList ++ quoted ("--".toList ++ text))
  | (whole, letter) :: _ =>
    if !sameMeaning then
      let possible := found.flatMap fun entry => ' ' :: quoted ("--".toList ++ entry.1.toList)
      Work.failUsage ("option ".toList ++ quoted ("--".toList ++ text) ++
        " is ambiguous; possibilities:".toList ++ possible)
    else
      let shown := "option ".toList ++ quoted ("--".toList ++ whole.toList)
      match (table.kind? letter).getD .plain, joined, later with
      | .plain, some _, _ => Work.failUsage (shown ++ " doesn't allow an argument".toList)
      | .withArgument, none, [] => Work.failUsage (shown ++ " requires an argument".toList)
      | .withArgument, none, argument :: later => return ({ letter, argument := some argument }, later)
      | _, _, _ => return ({ letter, argument := joined }, later)

/-- Reads options and operands. Each option is checked before the arguments that follow it are read. -/
def readArguments (check : Given → m Unit) (table : OptionTable) :
    Nat → List Text → m (List Given × List Text)
  | 0, arguments => return ([], arguments)
  | _ + 1, [] => return ([], [])
  | fuel + 1, argument :: later => do
    match argument with
    | ['-', '-'] => return ([], later)
    | '-' :: '-' :: name => do
      let (option, later) ← (readName table name later : Work _)
      check option
      let (given, operands) ← readArguments check table fuel later
      return (option :: given, operands)
    | '-' :: letter :: letters => do
      if table.takesNumbers && (letter.isDigit || letter = '.') then return ([], argument :: later)
      let (first, later) ← readLetters check table (letter :: letters) later
      let (given, operands) ← readArguments check table fuel later
      return (first ++ given, operands)
    | operand =>
      if table.inOrder then return ([], operand :: later)
      else
        let (given, operands) ← readArguments check table fuel later
        return (given, operand :: operands)

/-- The options and the operands among arguments, where each option is checked when it is met. -/
def readOptionsWith (check : Given → m Unit) (table : OptionTable) (arguments : List Text) :
    m (List Given × List Text) :=
  readArguments check table (arguments.length + 1) arguments

/-- The options and the operands among arguments. -/
def readOptions (table : OptionTable) (arguments : List Text) : Work (List Given × List Text) :=
  readOptionsWith (fun _ => (return () : Work Unit)) table arguments

/-- Whether an option was given. -/
def hasLetter (given : List Given) (letter : Char) : Bool := given.any (·.letter = letter)

/-- The last argument of an option. -/
def argumentOf? (given : List Given) (letter : Char) : Option Text :=
  (given.reverse.find? (·.letter = letter)).bind Given.argument

/-- Which of some options was given last. -/
def lastOf? (given : List Given) (letters : List Char) : Option Char :=
  (given.reverse.find? fun option => letters.contains option.letter).map Given.letter

/-- Gives up if there is no operand. -/
def needOperand (operands : List Text) : Work Unit := do
  if operands.isEmpty then Work.failUsage "missing operand".toList

/-- Gives up at an operand that is one too many. -/
def failExtra {α : Type} (operand : Text) : Work α :=
  Work.failUsage ("extra operand ".toList ++ quoted operand)

/-!
Words that options choose among. A word may be cut short as long as what it means is clear.
-/

variable {α : Type} [DecidableEq α]

/-- The words with their meanings, those of the same meaning together. -/
def groupedWords (words : List (String × α)) : List (List String) :=
  (words.splitBy fun first second => first.2 = second.2).map fun group => group.map Prod.fst

/-- What is meant by a word: nothing, one thing, or more than one. -/
def meaningsOf (words : List (String × α)) (text : Text) : List α :=
  match words.find? fun entry => entry.1.toList = text with
  | some (_, meaning) => [meaning]
  | none => ((words.filter fun entry => text.isPrefixOf entry.1.toList).map Prod.snd).eraseDups

/-- The lines that list words to choose among. -/
def wordList (words : List (String × α)) : Text :=
  "Valid arguments are:".toList ++
    (groupedWords words).flatMap fun group =>
      "\n  - ".toList ++ ", ".toList.intercalate (group.map fun word => quoted word.toList)

/-- The status of a tool that was given a word of no meaning. -/
def badChoice : Nat := 1

/-- What an argument of an option means. -/
def chooseFrom (option : String) (words : List (String × α)) (text : Text) : Work α := do
  let refuse (what : String) : Work α := do
    modify fun progress => { progress with habits := { progress.habits with misuse := some badChoice } }
    Work.failUsage (what.toList ++ " argument ".toList ++ quoted text ++ " for ".toList ++ quoted option.toList ++
      '\n' :: wordList words)
  match meaningsOf words text with
  | [meaning] => return meaning
  | [] => refuse "invalid"
  | _ => refuse "ambiguous"

end Pipework.Tool
