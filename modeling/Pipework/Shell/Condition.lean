import Pipework.Shell.Arithmetic
import Pipework.Shell.Work

set_option autoImplicit false

/-!
Conditions, as `test` evaluates them: comparisons of texts and numbers and questions about files, joined by
operators. A word counts as an operator only where its neighbours allow that.
-/

namespace Pipework.Shell.Condition

open Kernel

/-- What kind of word a word of a condition is. -/
inductive ConditionToken where
  | operand
  | unary (operator : String)
  | binary (operator : String)
  | negation
  | conjunction
  | disjunction
  | opening
  | closing
  | ended
  deriving DecidableEq, Repr

def unaryOperators : List String :=
  ["-r", "-w", "-x", "-e", "-f", "-d", "-c", "-b", "-p", "-u", "-g", "-k", "-s", "-t", "-z", "-n", "-h", "-O",
    "-G", "-L", "-S"]

def binaryOperators : List String :=
  ["=", "!=", "<", ">", "-eq", "-ne", "-ge", "-gt", "-le", "-lt", "-nt", "-ot", "-ef"]

/-- The kind of a word by itself. -/
def tokenOf (word : Text) : ConditionToken :=
  let name := String.ofList word
  if unaryOperators.contains name then .unary name
  else if binaryOperators.contains name then .binary name
  else
    match name with
    | "!" => .negation
    | "-a" => .conjunction
    | "-o" => .disjunction
    | "(" => .opening
    | ")" => .closing
    | _ => .operand

def isBinary (word : Text) : Bool :=
  match tokenOf word with
  | .binary _ => true
  | _ => false

/-- The kind of the first of some words. -/
def firstToken (words : List Text) : ConditionToken :=
  match words with
  | [] => .ended
  | word :: later =>
    match tokenOf word with
    | .unary operator =>
      let isOperand :=
        match later with
        | [] => true
        | [_] => false
        | next :: _ => isBinary next
      if isOperand then .operand else .unary operator
    | .opening => if later.isEmpty then .operand else .opening
    | token => token

/-- Gives up at a word. -/
def failAt {α : Type} (word : Text) (message : String) : Work α :=
  if word.isEmpty then Work.fail message.toList
  else Work.fail (word ++ ": ".toList ++ message.toList)

/-- The number that a word stands for. -/
def number (word : Text) : Work Int :=
  match Arithmetic.integer? false word with
  | some value => return value
  | none => Work.fail ("Illegal number: ".toList ++ word)

/-- What can be learnt about the file at a path. -/
def factsOf (path : Text) (followLast : Bool) : Work (Option FileFacts) := do
  match ← Work.ask (.query (.file (Bytes.ofChars path) followLast)) with
  | .facts facts => return some facts
  | _ => return none

/-- Whether a file has a property. -/
def holdsOf (facts : FileFacts) (operator : String) : Bool :=
  let hasBit (bit : Nat) : Bool := facts.mode &&& bit ≠ 0
  match operator with
  | "-r" => facts.allows .read
  | "-w" => facts.allows .write
  | "-x" => facts.allows .execute
  | "-f" => facts.kind = .regular
  | "-d" => facts.kind = .directory
  | "-c" => facts.kind = .device || facts.kind = .terminal
  | "-p" => facts.kind = .pipe
  | "-h" | "-L" => facts.kind = .link
  | "-u" => hasBit 0o4000
  | "-g" => hasBit 0o2000
  | "-k" => hasBit 0o1000
  | "-s" => 0 < facts.size
  | "-b" | "-S" => false
  | _ => true

/-- The truth of an operator with one operand. -/
def unary (operator : String) (operand : Text) : Work Bool := do
  match operator with
  | "-z" => return operand.isEmpty
  | "-n" => return !operand.isEmpty
  | "-t" => do
    let descriptor ← number operand
    match ← Work.ask (.query (.descriptor descriptor.toNat)) with
    | .facts facts => return facts.kind = .terminal
    | _ => return false
  | _ => return (← factsOf operand (operator ≠ "-h" && operator ≠ "-L")).any (holdsOf · operator)

/-- Compares two texts byte by byte. -/
def precedes : Text → Text → Bool
  | [], right => !right.isEmpty
  | _ :: _, [] => false
  | first :: left, second :: right => first < second || (first = second && precedes left right)

/-- The truth of an operator with two operands. -/
def binary (left : Text) (operator : String) (right : Text) : Work Bool := do
  let numbers (compare : Int → Int → Bool) : Work Bool := do
    return compare (← number left) (← number right)
  let files (compare : FileFacts → FileFacts → Bool) : Work Bool := do
    match ← factsOf left true, ← factsOf right true with
    | some first, some second => return compare first second
    | _, _ => return false
  match operator with
  | "=" => return left = right
  | "!=" => return left ≠ right
  | "<" => return precedes left right
  | ">" => return precedes right left
  | "-eq" => numbers fun first second => first = second
  | "-ne" => numbers fun first second => first ≠ second
  | "-ge" => numbers fun first second => second ≤ first
  | "-gt" => numbers fun first second => second < first
  | "-le" => numbers fun first second => first ≤ second
  | "-lt" => numbers fun first second => first < second
  | "-nt" => files fun first second => second.modified < first.modified
  | "-ot" => files fun first second => first.modified < second.modified
  | _ => files fun first second => first.number = second.number && first.kind = second.kind

mutual

/-- Evaluates conditions joined by `-o` that begin with words. Gives the words from the last one used on. -/
def disjunction : Nat → List Text → Work (Bool × List Text)
  | 0, words => return (false, words)
  | fuel + 1, words => do
    let (first, words) ← conjunction fuel words
    if firstToken words.tail = .disjunction then
      let (second, words) ← disjunction fuel (words.drop 2)
      return (first || second, words)
    else return (first, words)

/-- Evaluates conditions joined by `-a`. -/
def conjunction : Nat → List Text → Work (Bool × List Text)
  | 0, words => return (false, words)
  | fuel + 1, words => do
    let (first, words) ← negation fuel words
    if firstToken words.tail = .conjunction then
      let (second, words) ← conjunction fuel (words.drop 2)
      return (first && second, words)
    else return (first, words)

/-- Evaluates a condition that may be negated. -/
def negation : Nat → List Text → Work (Bool × List Text)
  | 0, words => return (false, words)
  | fuel + 1, words => do
    if firstToken words = .negation then
      let (holds, words) ← negation fuel words.tail
      return (!holds, words)
    else primary fuel words

/-- Evaluates a condition without joins. -/
def primary : Nat → List Text → Work (Bool × List Text)
  | 0, words => return (false, words)
  | fuel + 1, words => do
    match firstToken words, words with
    | .ended, _ => return (false, words)
    | .opening, _ :: words =>
      if firstToken words = .closing then return (false, words)
      else
        let (holds, words) ← disjunction fuel words
        if firstToken words.tail = .closing then return (holds, words.tail)
        else failAt [] "closing paren expected"
    | .unary operator, _ :: words =>
      match words with
      | [] => failAt operator.toList "argument expected"
      | operand :: _ => return (← unary operator operand, words)
    | _, first :: words => comparison first words
    | _, [] => return (false, [])

/-- Evaluates a condition that begins with an operand. -/
def comparison (first : Text) (words : List Text) : Work (Bool × List Text) := do
  match firstToken words, words with
  | .binary operator, _ :: right =>
    match right with
    | [] => failAt operator.toList "argument expected"
    | second :: _ => return (← binary first operator second, right)
  | _, _ => return (!first.isEmpty, first :: words)

end

/-- Evaluates words from some reading of the first of them on, which must use all of them. -/
def whole (words : List Text) : Work Bool := do
  let (holds, rest) ← disjunction (8 * words.length + 8) words
  match rest with
  | word :: _ :: _ => failAt word "unexpected operator"
  | _ => return holds

/-- Evaluates the words of a condition. Three words with an operator between two operands are always a
comparison; up to four may be negated or stand in parentheses. -/
def evaluate : Nat → List Text → Work Bool
  | 0, _ => return false
  | fuel + 1, words => do
    let simple : Work Bool := do
      let count := words.length
      if count = 3 || count = 4 then
        if words.head? = some ['('] && words.getLast? = some [')'] then whole words.tail.dropLast
        else if words.head? = some ['!'] then return !(← evaluate fuel words.tail)
        else whole words
      else whole words
    match words with
    | [] => return false
    | [left, operator, right] =>
      match tokenOf operator with
      | .binary operator => binary left operator right
      | _ => simple
    | _ => simple

end Pipework.Shell.Condition
