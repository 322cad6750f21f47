import Pipework.Shell.Condition
import Pipework.Tool.Input
import Pipework.Tool.Path

set_option autoImplicit false

/-!
Questions whose parts are arguments: comparisons of texts and numbers, and properties of files. The answer is a
status. Up to four arguments are understood by their number, more by the precedence of the operators.
-/

namespace Pipework.Tool.Predicate

open Kernel

/-- The arguments of a question. -/
structure Words where
  words : Array Text
  /-- What stands behind the last argument. -/
  behind : Option Text := none

namespace Words

/-- The argument at a place. -/
def get (words : Words) (place : Nat) : Text := (words.words[place]?.or words.behind).getD []

end Words

/-- The status of a question that makes no sense. -/
def noSense : Nat := 2

/-- A search for the answer, at some place among the arguments. -/
abbrev Asking := StateT Nat Work

/-- Complains about a question, and ends the tool. -/
def refuse {α : Type} (message : Text) : Asking α :=
  liftM (do
    Work.complain message
    Work.leaveWith noSense : Work α)

/-- Complains that the arguments end too early. -/
def beyond {α : Type} (words : Words) : Asking α :=
  refuse ("missing argument after ".toList ++ quoted (words.words.back?.getD []))

/-- Goes on by one argument, of which there has to be one if `needed` holds. -/
def advance (words : Words) (needed : Bool) : Asking Unit := do
  modify (· + 1)
  if needed && words.words.size ≤ (← get) then beyond words

/-- Whether a text is an operator with two operands. -/
def isBinary (text : Text) : Bool :=
  ["=", "!=", "==", "-nt", "-ot", "-ef", "-eq", "-ne", "-lt", "-le", "-gt", "-ge"].contains (String.ofList text)

/-- Whether a text is an operator with one operand by its form. -/
def looksUnary (text : Text) : Bool :=
  match text with
  | ['-', _] => true
  | _ => false

/-- The whole number that a text stands for, with blanks around it. -/
def integer (text : Text) : Asking Int := do
  let trimmed := ((text.dropWhile isSpace).reverse.dropWhile isSpace).reverse
  let value? : Option Int := match trimmed with
    | '+' :: digits => (natural? digits).map Int.ofNat
    | '-' :: digits => (natural? digits).map fun value => -(value : Int)
    | digits => (natural? digits).map Int.ofNat
  match value? with
  | some value => return value
  | none => refuse ("invalid integer ".toList ++ quoted text)

/-- The facts about the file at a path. -/
def factsAt (path : Text) (followLast : Bool) : Asking (Option FileFacts) := do
  return (← liftM (Work.facts path followLast)).toOption

/-- The largest descriptor that can be asked for. -/
def descriptorLimit : Int := 2147483647

/-- Answers a question that begins with an operator with one operand. -/
def unary (words : Words) : Asking Bool := do
  let operator := words.get (← get)
  let operand : Asking Text := do
    advance words true
    let text := words.get (← get)
    modify (· + 1)
    return text
  match operator.getD 1 ' ' with
  | 'n' => return !(← operand).isEmpty
  | 'z' => return (← operand).isEmpty
  | 't' => do
    let descriptor ← integer (← operand)
    if descriptor < 0 || descriptorLimit < descriptor then return false
    else return (← liftM (Work.factsOf descriptor.toNat)).any (·.kind = .terminal)
  | 'N' => return (← factsAt (← operand) true).any fun facts => facts.accessed < facts.modified
  | letter =>
    if "erwxOGfdsScbpLhugk".toList.contains letter then
      return (← factsAt (← operand) (letter ≠ 'h' && letter ≠ 'L')).any
        (Shell.Condition.holdsOf · (String.ofList operator))
    else refuse (quoted operator ++ ": unary operator expected".toList)

/-- Answers a question about two operands with an operator between them. In front of an operand may stand that its
length is meant. -/
def binary (words : Words) (leftIsLength : Bool) : Asking Bool := do
  if leftIsLength then advance words false
  let start ← get
  let place := start + 1
  let rightIsLength : Bool := place + 2 < words.words.size && words.get (place + 1) = ['-', 'l']
  if rightIsLength then advance words false
  let left := words.get start
  let right := words.get (place + (if rightIsLength then 2 else 1))
  let next := words.get (place + 1)
  let number (isLength : Bool) (text : Text) : Asking Int :=
    if isLength then return (text.length : Int) else integer text
  let compare (holds : Int → Int → Bool) : Asking Bool := do
    let first ← number leftIsLength left
    let second ← number rightIsLength right
    modify (· + 3)
    return holds first second
  let files (operator : String) (holds : Option FileFacts → Option FileFacts → Bool) : Asking Bool := do
    modify (· + 3)
    if leftIsLength || rightIsLength then refuse (operator.toList ++ " does not accept -l".toList)
    else return holds (← factsAt left true) (← factsAt next true)
  match String.ofList (words.get place) with
  | "-eq" => compare fun first second => first = second
  | "-ne" => compare fun first second => first ≠ second
  | "-lt" => compare fun first second => first < second
  | "-le" => compare fun first second => first ≤ second
  | "-gt" => compare fun first second => second < first
  | "-ge" => compare fun first second => second ≤ first
  | "-nt" => files "-nt" fun first second =>
      first.any fun first => second.all fun second => second.modified < first.modified
  | "-ot" => files "-ot" fun first second =>
      second.any fun second => first.all fun first => first.modified < second.modified
  | "-ef" => files "-ef" fun first second =>
      first.any fun first => second.any fun second => first.number = second.number && first.kind = second.kind
  | operator => do
    let now ← get
    modify (· + 3)
    let isSame : Bool := words.get now = words.get (now + 2)
    return if operator = "!=" then !isSame else isSame

/-- The number of arguments up to the one that closes parentheses, if there are few; otherwise of all that are
left. -/
def enclosed (words : Words) (place : Nat) : Nat :=
  let total := words.words.size
  ([1, 2, 3, 4].find? fun count => total ≤ place + count || words.get (place + count) = [')']).getD (total - place)

/-- Answers a question without joins. `test` answers a question of so many arguments. -/
def term (test : Nat → Asking Bool) (words : Words) : Nat → Asking Bool
  | 0 => return false
  | fuel + 1 => do
    let place ← get
    let total := words.words.size
    if place < total && words.get place = ['!'] then
      advance words true
      return !(← term test words fuel)
    else if total ≤ place then beyond words
    else if words.get place = ['('] then
      advance words true
      let value ← test (enclosed words (place + 1))
      let here ← get
      let found := if here < total then some (words.get here) else words.behind
      match found with
      | none => refuse "')' expected".toList
      | some [')'] => do
        advance words false
        return value
      | some other => refuse ("')' expected, found ".toList ++ quoted other)
    else if place + 4 ≤ total && words.get place = ['-', 'l'] && isBinary (words.get (place + 2)) then
      binary words true
    else if place + 3 ≤ total && isBinary (words.get (place + 1)) then binary words false
    else if looksUnary (words.get place) then unary words
    else
      advance words false
      return !(words.get place).isEmpty

/-- Answers questions with a join between them, each of which is looked at. -/
def joined (words : Words) (join : Text) (combine : Bool → Bool → Bool) (part : Asking Bool) :
    Nat → Asking Bool
  | 0 => part
  | fuel + 1 => do
    let first ← part
    if (← get) < words.words.size && words.get (← get) = join then
      advance words false
      return combine first (← joined words join combine part fuel)
    else return first

/-- Answers a question with operators of all kinds. -/
def expression (test : Nat → Asking Bool) (words : Words) : Asking Bool := do
  let fuel := words.words.size + 1
  if words.words.size ≤ (← get) then beyond words
  else joined words ['-', 'o'] or (joined words ['-', 'a'] and (term test words fuel) fuel) fuel

/-- Answers a question of one argument. -/
def one (words : Words) : Asking Bool := do
  let text := words.get (← get)
  modify (· + 1)
  return !text.isEmpty

/-- Answers a question of two arguments. -/
def two (words : Words) : Asking Bool := do
  let first := words.get (← get)
  if first = ['!'] then
    advance words false
    return !(← one words)
  else if looksUnary first then unary words
  else beyond words

/-- Answers a question of three arguments. -/
def three (test : Nat → Asking Bool) (words : Words) : Asking Bool := do
  let place ← get
  let operator := words.get (place + 1)
  if isBinary operator then binary words false
  else if words.get place = ['!'] then
    advance words true
    return !(← two words)
  else if words.get place = ['('] && words.get (place + 2) = [')'] then
    advance words false
    let value ← one words
    advance words false
    return value
  else if operator = ['-', 'a'] || operator = ['-', 'o'] then expression test words
  else refuse (quoted operator ++ ": binary operator expected".toList)

/-- Answers a question of so many arguments. -/
def answer (words : Words) : Nat → Nat → Asking Bool
  | 0, _ => return false
  | fuel + 1, count => do
    let test := answer words fuel
    let place ← get
    match count with
    | 1 => one words
    | 2 => two words
    | 3 => three test words
    | 4 =>
      if words.get place = ['!'] then
        advance words true
        return !(← three test words)
      else if words.get place = ['('] && words.get (place + 3) = [')'] then
        advance words false
        let value ← two words
        advance words false
        return value
      else expression test words
    | _ => expression test words

/-- Answers a question by the status. -/
def run (words : Words) : Work Unit := do
  let total := words.words.size
  if total = 0 then Work.leaveWith 1
  let (holds, place) ← (answer words (total + 1) total).run 0
  if place ≠ total then
    let extra := words.get place
    let complain : Asking Unit := refuse ("extra argument ".toList ++ quoted extra)
    let _ ← complain.run place
  if !holds then Work.leaveWith 1

end Pipework.Tool.Predicate

namespace Pipework.Tool

open Predicate

/-- Answers a question. -/
def test (arguments : List Text) : Work Unit := Predicate.run { words := arguments.toArray }

/-- Answers a question that ends with a bracket. -/
def bracket (arguments : List Text) : Work Unit := do
  if arguments.getLast? = some [']'] then
    Predicate.run { words := arguments.dropLast.toArray, behind := some [']'] }
  else
    Work.complain "missing ']'".toList
    Work.leaveWith noSense

end Pipework.Tool
