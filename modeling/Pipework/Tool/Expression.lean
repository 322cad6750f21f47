import Pipework.Regex.Syntax
import Pipework.Tool.Input
import Pipework.Tool.Option
import Pipework.Tool.Sort.Order

set_option autoImplicit false

/-!
Expressions whose parts are arguments: arithmetic, comparisons, and the matching and cutting of texts.
-/

namespace Pipework.Tool.Expression

/-- What is wrong with an expression. -/
inductive Fault where
  | missingAfter (argument : Text)
  | unexpected (argument : Text)
  | expectingClose (argument : Text)
  | notInteger
  | divisionByZero
  | regex (fault : Regex.Fault)
  deriving DecidableEq, Repr

def Fault.message : Fault → Text
  | missingAfter argument => "syntax error: missing argument after ".toList ++ quoted argument
  | unexpected argument =>
    (if argument = [')'] then "syntax error: unexpected " else "syntax error: unexpected argument ").toList ++
      quoted argument
  | expectingClose argument => "syntax error: expecting ')' after ".toList ++ quoted argument
  | notInteger => "non-integer argument".toList
  | divisionByZero => "division by zero".toList
  | regex fault => fault.message.toList

/-- The arguments that are left, and the one before them. -/
structure Place where
  rest : List Text
  before : Text := []

/-- An evaluation. -/
abbrev Eval := StateT Place (Except Fault)

/-- The whole number that a text stands for. -/
def integer? (text : Text) : Option Int :=
  match text with
  | '-' :: digits => (natural? digits).map fun value => -(value : Int)
  | digits => (natural? digits).map Int.ofNat

def integer (text : Text) : Eval Int :=
  match integer? text with
  | some value => return value
  | none => throw .notInteger

/-- Digits with a sign. -/
def integerText (value : Int) : Text := (toString value).toList

/-- Whether a value counts as false. -/
def isNull (text : Text) : Bool :=
  text.isEmpty ||
    let digits := if text.head? = some '-' then text.tail else text
    !digits.isEmpty && digits.all (· = '0')

/-- Takes the next argument if it is one of some. -/
def accept (operators : List String) : Eval (Option String) := do
  match (← get).rest with
  | [] => return none
  | argument :: rest =>
    match operators.find? (·.toList = argument) with
    | some operator => do
      set { rest, before := argument : Place }
      return some operator
    | none => return none

/-- Takes the next argument. -/
def take : Eval Text := do
  let place ← get
  match place.rest with
  | [] => throw (.missingAfter place.before)
  | argument :: rest => do
    set { rest, before := argument : Place }
    return argument

/-- What a regular expression matches at the start of a text: what its first group matched, or the length. -/
def matchStart (text pattern : Text) : Eval Text := do
  match Regex.read false pattern with
  | .error fault => throw (.regex fault)
  | .ok (regex, groups) =>
    match regex.matchAt {} [] none text with
    | none => return if groups = 0 then ['0'] else []
    | some found =>
      return if groups = 0 then number found.matched.length else (found.groups.lookup 1).getD []

/-- The part of a text from a place on; places are counted from one. -/
def part (text : Text) (place length : Option Int) : Text :=
  match place, length with
  | some place, some length =>
    if place ≤ 0 || length ≤ 0 then [] else (text.drop (place.toNat - 1)).take length.toNat
  | _, _ => []

/-- Compares numbers as such and other values as texts. -/
def compareValues (left right : Text) : Ordering :=
  match integer? left, integer? right with
  | some left, some right => compareOfLessAndEq left right
  | _, _ => compareText left right

def holds (operator : String) (order : Ordering) : Bool :=
  match operator with
  | "<" => order = .lt
  | "<=" => order ≠ .gt
  | "=" | "==" => order = .eq
  | "!=" => order ≠ .eq
  | ">=" => order ≠ .lt
  | _ => order = .gt

/-- The result of an arithmetic operation. -/
def calculate (operator : String) (left right : Int) : Eval Int :=
  match operator with
  | "+" => return left + right
  | "-" => return left - right
  | "*" => return left * right
  | operator =>
    if right = 0 then throw .divisionByZero
    else return if operator = "/" then left.tdiv right else left.tmod right

/-- Operators that go from left to right, from the loosest to the tightest. -/
def levels : List (List String) :=
  [["|"], ["&"], ["<", "<=", "=", "==", "!=", ">=", ">"], ["+", "-"], ["*", "/", "%"], [":"]]

/-- Applies an operator to two values. What does not count is not calculated. -/
def apply (counts : Bool) (operator : String) (left right : Text) : Eval Text := do
  if !counts then return left
  match operator with
  | "|" => return if !isNull left then left else if isNull right then ['0'] else right
  | "&" => return if isNull left || isNull right then ['0'] else left
  | ":" => matchStart left right
  | operator =>
    if ["+", "-", "*", "/", "%"].contains operator then
      let left ← integer left
      let right ← integer right
      return integerText (← calculate operator left right)
    else return if holds operator (compareValues left right) then ['1'] else ['0']

mutual

/-- Evaluates an expression with operators of some levels. -/
def evaluate : Nat → (counts : Bool) → List (List String) → Eval Text
  | 0, _, _ => throw .notInteger
  | fuel + 1, counts, [] => evaluateValue fuel counts
  | fuel + 1, counts, level :: later => do
    let first ← evaluate fuel counts later
    evaluateRest fuel counts level later first

/-- Goes on with the operators of a level. -/
def evaluateRest : Nat → Bool → List String → List (List String) → Text → Eval Text
  | 0, _, _, _, _ => throw .notInteger
  | fuel + 1, counts, level, later, left => do
    match ← accept level with
    | none => return left
    | some operator => do
      let isDecided := (operator = "|" && !isNull left) || (operator = "&" && isNull left)
      let right ← evaluate fuel (counts && !isDecided) later
      evaluateRest fuel counts level later (← apply counts operator left right)

/-- Evaluates a value. -/
def evaluateValue : Nat → Bool → Eval Text
  | 0, _ => throw .notInteger
  | fuel + 1, counts => do
    let argument ← take
    match String.ofList argument with
    | "+" => take
    | "(" => do
      let value ← evaluate fuel counts levels
      match ← accept [")"] with
      | some _ => return value
      | none =>
        let place ← get
        match place.rest with
        | [] => throw (.expectingClose place.before)
        | next :: _ => throw (.unexpected next)
    | ")" => throw (.unexpected argument)
    | "length" => return number (← evaluateValue fuel counts).length
    | "index" => do
      let text ← evaluateValue fuel counts
      let wanted ← evaluateValue fuel counts
      match text.findIdx? wanted.contains with
      | some index => return number (index + 1)
      | none => return ['0']
    | "match" => do
      let text ← evaluateValue fuel counts
      let pattern ← evaluateValue fuel counts
      matchStart text pattern
    | "substr" => do
      let text ← evaluateValue fuel counts
      let place ← evaluateValue fuel counts
      let length ← evaluateValue fuel counts
      return part text (integer? place) (integer? length)
    | _ => return argument

end

/-- The value of arguments as an expression. -/
def ofArguments (arguments : List Text) : Except Fault Text := do
  let (value, place) ← (evaluate (10 * arguments.length + 10) true levels).run { rest := arguments }
  match place.rest with
  | [] => return value
  | argument :: _ => throw (.unexpected argument)

end Expression

/-- The status that tells of a faulty expression. -/
def expressionFault : Nat := 2

/-- Prints the value of an expression. The status tells whether it counts as false. -/
def expr (arguments : List Text) : Work Unit := do
  let arguments := if arguments.head? = some ['-', '-'] then arguments.tail else arguments
  if arguments.isEmpty then Work.failUsage "missing operand".toList
  match Expression.ofArguments arguments with
  | .error fault => do
    Work.complain fault.message
    Work.leaveWith expressionFault
  | .ok value => do
    Work.putLine value
    modify ({ · with status := if Expression.isNull value then 1 else 0 })

end Pipework.Tool
