import Pipework.Shell.Arithmetic
import Pipework.Shell.Field
import Pipework.Shell.Work

set_option autoImplicit false

/-!
The expansion of words: tildes, parameters, arithmetic and the output of scripts. The scripts in words are run
by what is passed along.
-/

namespace Pipework.Shell

/-- Runs a script and gives what it prints. -/
abbrev OutputOf := Command → Work Text

/-- Whether a word is divided into fields, and where a tilde in it stands for a home directory. -/
inductive WordUse where
  /-- Makes any number of fields. -/
  | fields
  /-- Is one text. -/
  | single
  /-- Is the value of an assignment, where a tilde may also follow a colon. -/
  | value
  deriving DecidableEq, Repr

/-- The home directory of a user; without a name, that of the user who runs the shell. -/
def homeOf? (shell : Shell) (user : Text) : Option Text :=
  let home :=
    if user.isEmpty then shell.variableValue? "HOME".toList
    else if user == "root".toList then some "/root".toList
    else none
  home.filter (!·.isEmpty)

/-- Puts a home directory in place of a tilde at the start of a text that is `closed` if nothing follows it. -/
def expandTilde (shell : Shell) (closed : Bool) (chars : Text) : List Piece :=
  match chars with
  | '~' :: rest =>
    let user := rest.takeWhile (· ≠ '/')
    let after := rest.drop user.length
    match if after.isEmpty && !closed then none else homeOf? shell user with
    | some home => [.text home true, .text after false]
    | none => [.text chars false]
  | _ => [.text chars false]

/-- Expands the tildes behind the colons of a text. -/
def expandColonTildes (shell : Shell) (closed : Bool) : Nat → Text → List Piece
  | 0, chars => [.text chars false]
  | fuel + 1, chars =>
    let before := chars.takeWhile (· ≠ ':')
    match chars.drop before.length with
    | [] => expandTilde shell closed before
    | colon :: after =>
      expandTilde shell true before ++ .text [colon] false :: expandColonTildes shell closed fuel after

/-- Expands tildes. Only text that stands for itself and is not quoted counts, at the start of the word; in the
value of an assignment, also behind a colon. -/
def expandTildes (shell : Shell) (use : WordUse) (pieces : List Piece) : List Piece :=
  match pieces with
  | .text chars false :: later =>
    if use = .value then expandColonTildes shell later.isEmpty chars.length chars ++ later
    else expandTilde shell later.isEmpty chars ++ later
  | _ => pieces

/-- Lets text that is not quoted be split. -/
def loosen (pieces : List Piece) : List Piece :=
  pieces.map fun
    | .text chars false => .loose chars
    | piece => piece

/-- The value of a parameter as a piece. -/
def valuePiece (text : Text) (quoted : Bool) : Piece := if quoted then .text text true else .loose text

/-- The parameters as pieces, each a field of its own. -/
def parameterPieces : List Text → List Piece
  | [] => []
  | [text] => [.text text true]
  | text :: later => .text text true :: .divide :: parameterPieces later

/-- The value of a parameter as pieces. -/
def valuePieces (shell : Shell) (use : WordUse) (name value : Text) (quoted : Bool) : List Piece :=
  let isList := name = ['@'] || name = ['*']
  if use = .fields && quoted && name = ['@'] then parameterPieces shell.parameters
  else if use = .fields && !quoted && isList then
    [.loose (List.intercalate ['\x00'] shell.parameters)]
  else [valuePiece value quoted]

/-- Gives up for a parameter that is not set. -/
def failUnset {α : Type} (name : Text) (orNull : Bool) : Work α :=
  Work.fail (name ++ ": parameter not set".toList ++ (if orNull then " or null".toList else []))

/-- The value of a parameter, which may have to be set. -/
def requireValue (name : Text) : Work (Option Text) := do
  let shell ← get
  match shell.value? name with
  | some value => return some value
  | none =>
    if shell.hasOption "nounset" && name ≠ ['@'] && name ≠ ['*'] then failUnset name false
    else return none

/-- The value of an arithmetic expression, whose assignments are made. -/
def evaluateArithmetic (expression : Text) : Work Int := do
  let shell ← get
  let valueOf (name : Text) : Text := (shell.value? name).getD []
  match Arithmetic.evaluate valueOf expression with
  | .error (.illegalNumber text) => Work.fail ("Illegal number: ".toList ++ text)
  | .error .overflow => do
    Work.tell (.configure (.signal Signal.floatingPoint .usual))
    if let .number process ← Work.ask (.query .ownNumber) then
      Work.tell (.kill process Signal.floatingPoint)
    throw .exit
  | .error (.message message) =>
    Work.fail ("arithmetic expression: ".toList ++ message.toList ++ ": \x22".toList ++ expression ++
      ['\x22'])
  | .ok (value, assigned) => do
    assigned.reverse.forM fun (name, text) => Work.assign name text
    return value

/-- What a script prints, without the ends of lines at its end. -/
def outputText (run : OutputOf) (script : Command) : Work Text := do
  let printed ← run script
  return ((printed.reverse.dropWhile (· = '\n')).reverse).filter (· != '\x00')

/-- The pieces of a word in braces. Where the braces are not quoted, its text may be split. -/
def innerPieces (quoted : Bool) (expand : Work (List Piece)) : Work (List Piece) := do
  let pieces ← expand
  if quoted then return pieces
  else return loosen (expandTildes (← get) .single pieces)

/-- Assigns a word in braces, and gives it as the value of the variable. -/
def assignInner (use : WordUse) (name : Text) (quoted : Bool) (expand : Work (List Piece)) :
    Work (List Piece) := do
  let pieces ← expand
  let shell ← get
  let value := Piece.plain (if quoted then pieces else expandTildes shell .single pieces)
  Work.assign name value
  return valuePieces (← get) use name value quoted

/-- Gives up with a word in braces as the reason, if there is one. -/
def failInner (name : Text) (colon : Bool) (message : Word) (expand : Work (List Piece)) :
    Work (List Piece) := do
  if message.isEmpty then failUnset name colon
  else
    let pieces ← expand
    Work.fail (name ++ ": ".toList ++ Piece.plain pieces)

/-- Decides by the value of a parameter: whether it counts as set, with its pieces, or not. -/
def ifSet (use : WordUse) (name : Text) (colon quoted : Bool)
    (whenSet : List Piece → Work (List Piece)) (otherwise : Work (List Piece)) :
    Work (List Piece) := do
  let shell ← get
  match shell.value? name with
  | some value =>
    if colon && value.isEmpty then otherwise else whenSet (valuePieces shell use name value quoted)
  | none => otherwise

mutual

/-- Expands the parts of a word. -/
def expandParts (run : OutputOf) (use : WordUse) : List WordPart → Work (List Piece)
  | [] => return []
  | part :: parts => do
    let pieces ← expandPart run use part
    let later ← expandParts run use parts
    return pieces ++ later

/-- Expands a part of a word. -/
def expandPart (run : OutputOf) (use : WordUse) : WordPart → Work (List Piece)
  | .text chars quoted => return [.text chars quoted]
  | .arithmetic expression quoted => do
    let inside ← expandParts run .single expression
    let value ← evaluateArithmetic (Piece.plain inside)
    return [valuePiece (toString value).toList quoted]
  | .output script quoted => return [valuePiece (← outputText run script) quoted]
  | .parameter name parameterUse quoted => expandParameter run use name quoted parameterUse

/-- Expands a parameter. -/
def expandParameter (run : OutputOf) (use : WordUse) (name : Text) (quoted : Bool) :
    ParameterUse → Work (List Piece)
  | .value => do
    match ← requireValue name with
    | some value => return valuePieces (← get) use name value quoted
    | none => return if quoted && name ≠ ['@'] then [.text [] true] else []
  | .length => do
    let value ← requireValue name
    return [valuePiece (number (value.getD []).length) quoted]
  | .orElse colon word =>
    ifSet use name colon quoted pure (innerPieces quoted (expandParts run use word))
  | .whenSet colon word =>
    ifSet use name colon quoted (fun _ => innerPieces quoted (expandParts run use word)) (return [])
  | .assign colon word =>
    ifSet use name colon quoted pure (assignInner use name quoted (expandParts run .single word))
  | .orFail colon message =>
    ifSet use name colon quoted pure (failInner name colon message (expandParts run .single message))
  | .trim atEnd longest pattern => do
    let value ← requireValue name
    let pieces ← expandParts run .single pattern
    let pattern := Pattern.ofText (Piece.join (expandTildes (← get) .single pieces))
    return [valuePiece (Pattern.trim atEnd longest pattern (value.getD [])) quoted]
  | .bad => Work.fail "Bad substitution".toList

end

/-- The text of a word that is not split, with the information what was quoted. -/
def expandMarked (run : OutputOf) (use : WordUse) (word : Word) : Work MarkedText := do
  let pieces ← expandParts run use word
  return Piece.join (expandTildes (← get) use pieces)

/-- The text of a word that is not split. -/
def expandText (run : OutputOf) (use : WordUse) (word : Word) : Work Text := do
  return (← expandMarked run use word).map Prod.fst

/-- The fields of a word, with the information what was quoted. -/
def expandFields (run : OutputOf) (word : Word) : Work (List MarkedText) := do
  let pieces ← expandParts run .fields word
  let shell ← get
  return Piece.fields shell.separators none (expandTildes shell .fields pieces)

end Pipework.Shell
