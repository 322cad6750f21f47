import Pipework.Shell.Syntax

set_option autoImplicit false

/-!
Arithmetic of shell scripts. An expression is evaluated while its tokens are read; names stand for the
numbers that their variables hold, and numbers have 64 bits.
-/

namespace Pipework.Shell.Arithmetic

/-- A token of an expression. -/
inductive ArithmeticToken where
  | number (value : Int)
  | name (name : Text)
  | operator (name : String)
  /-- A character that has no meaning. -/
  | bad
  deriving DecidableEq, Repr

/-- Why an expression has no value. -/
inductive ArithmeticFault where
  | message (message : String)
  /-- A variable that holds no number. -/
  | illegalNumber (text : Text)
  /-- A quotient that 64 bits cannot hold. The processor does not stand for it. -/
  | overflow
  deriving DecidableEq, Repr

/-- The number of values that 64 bits can hold. -/
def modulus : Nat := 18446744073709551616

def wrap (value : Int) : Int := Int.bmod value modulus

def largest : Int := 9223372036854775807

/-- A number within the bounds of 64 bits. -/
def clamp (value : Int) : Int := max (-largest - 1) (min largest value)

/-- The value of a digit. -/
def digitValue (char : Char) : Nat :=
  if char.isDigit then char.toNat - '0'.toNat
  else if 'a' ≤ char && char ≤ 'f' then char.toNat - 'a'.toNat + 10
  else if 'A' ≤ char && char ≤ 'F' then char.toNat - 'A'.toNat + 10
  else 36

/-- Reads digits in a base. -/
def readDigits (base : Nat) (text : Text) : Nat × Text :=
  let isDigit (char : Char) : Bool := digitValue char < base
  ((text.takeWhile isDigit).foldl (fun value char => value * base + digitValue char) 0,
    text.dropWhile isDigit)

/-- Reads a number, in base 16 or 8 if it begins so. -/
def readNumber (text : Text) : Nat × Text :=
  match text with
  | '0' :: x :: digit :: rest =>
    if (x = 'x' || x = 'X') && digitValue digit < 16 then readDigits 16 (digit :: rest)
    else readDigits 8 text
  | '0' :: _ => readDigits 8 text
  | _ => readDigits 10 text

/-- Drops the sign of a number. Gives whether it is negative. -/
def readSign (text : Text) : Bool × Text :=
  match text with
  | '-' :: rest => (true, rest)
  | '+' :: rest => (false, rest)
  | _ => (false, text)

/-- The number that a text holds, with blanks around it; in base 10, or in any base that is marked so. -/
def integer? (marked : Bool) (text : Text) : Option Int :=
  let (negative, digits) := readSign (text.dropWhile isSpace)
  let (value, rest) := if marked then readNumber digits else readDigits 10 digits
  let value : Int := if negative then -value else value
  if rest.length = digits.length || clamp value ≠ value || !rest.all isSpace then none else some value

/-- The operators, longer ones first. -/
def operators : List String :=
  ["<<=", ">>=", "<<", ">>", "<=", ">=", "==", "!=", "&&", "||", "+=", "-=", "*=", "/=", "%=", "&=", "^=",
    "|=", "+", "-", "*", "/", "%", "<", ">", "=", "!", "~", "&", "^", "|", "?", ":", "(", ")"]

/-- The tokens of an expression. -/
def tokens : Nat → Text → List ArithmeticToken
  | 0, _ => []
  | _, [] => []
  | fuel + 1, char :: rest =>
    if isBlank char || char = '\n' then tokens fuel rest
    else if char.isDigit then
      let (value, after) := readNumber (char :: rest)
      .number (clamp value) :: tokens fuel after
    else if isNameStart char then
      .name ((char :: rest).takeWhile isNameChar) :: tokens fuel ((char :: rest).dropWhile isNameChar)
    else
      match operators.find? fun operator => operator.toList.isPrefixOf (char :: rest) with
      | some operator => .operator operator :: tokens fuel ((char :: rest).drop operator.length)
      | none => .bad :: tokens fuel rest

/-- The state of an evaluation: what is left of the expression, and the values that variables have taken on,
the latest first. -/
structure Evaluation where
  rest : List ArithmeticToken
  assigned : List (Text × Text) := []

/-- A step of an evaluation, where variables have values. -/
abbrev Evaluate := ReaderT (Text → Text) (StateT Evaluation (Except ArithmeticFault))

def fail {α : Type} (message : String) : Evaluate α := throw (.message message)

/-- Takes the next token. -/
def next : Evaluate (Option ArithmeticToken) := do
  match (← get).rest with
  | [] => return none
  | token :: rest => do
    modify ({ · with rest })
    return some token

/-- The next token, which is not taken. -/
def peek : Evaluate (Option ArithmeticToken) := do return (← get).rest.head?

/-- The number that a variable holds. -/
def valueOf (name : Text) : Evaluate Int := do
  let text := ((← get).assigned.lookup name).getD ((← read) name)
  if text.all isSpace then return 0
  else
    match integer? true text with
    | some value => return value
    | none => throw (.illegalNumber text)

/-- Gives a variable another value. -/
def assign (name : Text) (value : Int) : Evaluate Int := do
  modify fun evaluation =>
    { evaluation with assigned := (name, (toString value).toList) :: evaluation.assigned }
  return value

/-- How weakly an operator between two operands binds. -/
def looseness? (operator : String) : Option Nat :=
  [["*", "/", "%"], ["+", "-"], ["<<", ">>"], ["<", "<=", ">", ">="], ["==", "!="], ["&"], ["^"],
    ["|"]].findIdx? (·.contains operator)

def ofBool (holds : Bool) : Int := if holds then 1 else 0

/-- Applies a function to the bits of two numbers. -/
def onBits (apply : UInt64 → UInt64 → UInt64) (left right : Int) : Int :=
  let bits (value : Int) : UInt64 := UInt64.ofNat (value.emod modulus).toNat
  wrap (apply (bits left) (bits right)).toNat

/-- Makes sure that there is a quotient. -/
def checkDivision (left right : Int) : Evaluate Unit := do
  if right = 0 then fail "division by zero"
  if largest < left.tdiv right then throw .overflow

/-- Applies an operator. -/
def apply (operator : String) (left right : Int) : Evaluate Int :=
  let shift := (right.emod 64).toNat
  match operator with
  | "*" => return wrap (left * right)
  | "/" => do
    checkDivision left right
    return left.tdiv right
  | "%" => do
    checkDivision left right
    return left.tmod right
  | "+" => return wrap (left + right)
  | "-" => return wrap (left - right)
  | "<<" => return wrap (left * ((1 : Nat) <<< shift : Nat))
  | ">>" => return left / ((1 : Nat) <<< shift : Nat)
  | "<" => return ofBool (left < right)
  | "<=" => return ofBool (left ≤ right)
  | ">" => return ofBool (right < left)
  | ">=" => return ofBool (right ≤ left)
  | "==" => return ofBool (left = right)
  | "!=" => return ofBool (left ≠ right)
  | "&" => return onBits (· &&& ·) left right
  | "^" => return onBits (· ^^^ ·) left right
  | "|" => return onBits (· ||| ·) left right
  | _ => fail "expecting EOF"

/-- The operators that change a variable, without the equals sign. -/
def changeOperator? (operator : String) : Option String :=
  if ["+=", "-=", "*=", "/=", "%=", "<<=", ">>=", "&=", "^=", "|="].contains operator then
    some (String.ofList operator.toList.dropLast)
  else none

mutual

/-- Evaluates an assignment or a condition; if `skipped` holds, its value does not count. -/
def assignment (skipped : Bool) : Nat → Evaluate Int
  | 0 => fail "expecting primary"
  | fuel + 1 => do
    match (← get).rest with
    | .name name :: .operator "=" :: rest => do
      modify ({ · with rest })
      let value ← assignment skipped fuel
      if skipped then return value else assign name value
    | .name name :: .operator operator :: rest =>
      match changeOperator? operator with
      | none => condition skipped fuel
      | some operator => do
        modify ({ · with rest })
        let value ← assignment skipped fuel
        if skipped then return value
        else
          let value ← apply operator (← valueOf name) value
          assign name value
    | _ => condition skipped fuel

/-- Evaluates a choice between two values. -/
def condition (skipped : Bool) : Nat → Evaluate Int
  | 0 => fail "expecting primary"
  | fuel + 1 => do
    let value ← disjunction skipped fuel
    if (← peek) = some (.operator "?") then
      let _ ← next
      let whenTrue ← assignment (skipped || value = 0) fuel
      if (← peek) ≠ some (.operator ":") then fail "expecting ':'"
      else
        let _ ← next
        let whenFalse ← condition (skipped || value ≠ 0) fuel
        return if value ≠ 0 then whenTrue else whenFalse
    else return value

def disjunction (skipped : Bool) : Nat → Evaluate Int
  | 0 => fail "expecting primary"
  | fuel + 1 => do
    let left ← conjunction skipped fuel
    if (← peek) = some (.operator "||") then
      let _ ← next
      let right ← disjunction (skipped || left ≠ 0) fuel
      return ofBool (left ≠ 0 || right ≠ 0)
    else return left

def conjunction (skipped : Bool) : Nat → Evaluate Int
  | 0 => fail "expecting primary"
  | fuel + 1 => do
    let left ← operation skipped fuel
    if (← peek) = some (.operator "&&") then
      let _ ← next
      let right ← conjunction (skipped || left = 0) fuel
      return ofBool (left ≠ 0 && right ≠ 0)
    else return left

/-- Evaluates operators between operands. -/
def operation (skipped : Bool) : Nat → Evaluate Int
  | 0 => fail "expecting primary"
  | fuel + 1 => do
    let left ← primary skipped fuel
    operationFrom skipped 8 fuel left

/-- Goes on behind a left operand with operators that bind more strongly than a limit says. -/
def operationFrom (skipped : Bool) (limit : Nat) : Nat → Int → Evaluate Int
  | 0, _ => fail "expecting primary"
  | fuel + 1, left => do
    match ← peek with
    | some (.operator operator) =>
      match looseness? operator with
      | some looseness =>
        if looseness < limit then
          let _ ← next
          let right ← primary skipped fuel
          let right ← operationFrom skipped looseness fuel right
          let value ← if skipped then pure right else apply operator left right
          operationFrom skipped limit fuel value
        else return left
      | none => return left
    | _ => return left

/-- Evaluates an operand. -/
def primary (skipped : Bool) : Nat → Evaluate Int
  | 0 => fail "expecting primary"
  | fuel + 1 => do
    match ← next with
    | some (.number value) => return value
    | some (.name name) => if skipped then return 0 else valueOf name
    | some (.operator "(") => do
      let value ← assignment skipped fuel
      match ← next with
      | some (.operator ")") => return value
      | _ => fail "expecting ')'"
    | some (.operator "+") => primary skipped fuel
    | some (.operator "-") => return wrap (-(← primary skipped fuel))
    | some (.operator "!") => return ofBool ((← primary skipped fuel) = 0)
    | some (.operator "~") => return -(← primary skipped fuel) - 1
    | _ => fail "expecting primary"

end

/-- The value of an expression, and the values that variables have taken on, the latest first. -/
def evaluate (valueOf : Text → Text) (expression : Text) :
    Except ArithmeticFault (Int × List (Text × Text)) := do
  let read := tokens (expression.length + 1) expression
  let whole : Evaluate Int := do
    let value ← assignment false (16 * expression.length + 32)
    if (← peek).isSome then fail "expecting EOF" else return value
  match (whole.run valueOf).run { rest := read } with
  | .ok (value, evaluation) => .ok (value, evaluation.assigned)
  | .error fault => .error fault

end Pipework.Shell.Arithmetic
