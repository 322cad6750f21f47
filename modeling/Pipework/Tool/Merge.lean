import Pipework.Tool.Sort

set_option autoImplicit false

/-!
Two sorted texts taken together: the lines that they share and those that only one has, and lines that are joined
by a field.
-/

namespace Pipework.Tool

open Kernel

/-- How the order of lines is looked after. -/
inductive OrderCheck where
  | never
  /-- Once a line was found that only one text has. -/
  | afterMismatch
  | always
  deriving DecidableEq, Repr

/-- Where two texts stand that are read side by side. -/
structure MergeState where
  /-- Whether a line was found that only one of the texts has. -/
  mismatched : Bool := false
  /-- Whether the first and the second text were found out of order. -/
  disorderFirst : Bool := false
  disorderSecond : Bool := false
  /-- How many lines only the first text has, only the second, and both. -/
  onlyFirst : Nat := 0
  onlySecond : Nat := 0
  both : Nat := 0

/-- How lines in common are shown. -/
structure CommStyle where
  /-- Whether each of the three columns is shown. -/
  showFirst : Bool
  showSecond : Bool
  showBoth : Bool
  delimiter : Text
  last : Char
  check : OrderCheck

/-- Looks after the order of a text when a line of it was left behind. -/
def CommStyle.checkOrder (style : CommStyle) (isFirst : Bool) (lines : List Text) (state : MergeState) :
    Work MergeState := do
  let known := if isFirst then state.disorderFirst else state.disorderSecond
  let wanted := style.check = .always || (style.check = .afterMismatch && state.mismatched)
  match lines with
  | first :: second :: _ =>
    if wanted && !known && compareText first second = .gt then
      let message := "file ".toList ++ (if isFirst then ['1'] else ['2']) ++ " is not in sorted order".toList
      if style.check = .always then Work.fail message
      else
        Work.complain message
        return if isFirst then { state with disorderFirst := true }
          else { state with disorderSecond := true }
    else return state
  | _ => return state

/-- Shows the lines of two texts in columns. -/
def showCommon (style : CommStyle) : Nat → List Text → List Text → MergeState → Work MergeState
  | 0, _, _, state => return state
  | fuel + 1, first, second, state => do
    let line (place : Nat) (shown : Bool) (text : Text) : Work Unit :=
      if shown then Work.put ((List.replicate place style.delimiter).flatten ++ text ++ [style.last])
      else return ()
    let secondPlace := if style.showFirst then 1 else 0
    let bothPlace := secondPlace + (if style.showSecond then 1 else 0)
    let order : Option Ordering :=
      match first, second with
      | [], [] => none
      | _ :: _, [] => some .lt
      | [], _ :: _ => some .gt
      | left :: _, right :: _ => some (compareText left right)
    match order with
    | none => return state
    | some .lt => do
      line 0 style.showFirst (first.headD [])
      let state ← style.checkOrder true first
        { state with mismatched := true, onlyFirst := state.onlyFirst + 1 }
      showCommon style fuel first.tail second state
    | some .gt => do
      line secondPlace style.showSecond (second.headD [])
      let state ← style.checkOrder false second
        { state with mismatched := true, onlySecond := state.onlySecond + 1 }
      showCommon style fuel first second.tail state
    | some .eq => do
      line bothPlace style.showBoth (first.headD [])
      let state ← style.checkOrder true first { state with both := state.both + 1 }
      let state ← style.checkOrder false second state
      showCommon style fuel first.tail second.tail state

/-- Reads one of the two operands. -/
def readMergeOperand (operand : Text) : Work Text := do
  match ← Work.readOperand operand with
  | .ok text => return text
  | .error fault => Work.fail (because (shownName operand) fault.errno)

/-- Reads that there are two operands. -/
def twoOperands (operands : List Text) : Work (Text × Text) := do
  match operands with
  | [] => Work.failUsage "missing operand".toList
  | [operand] => Work.failUsage ("missing operand after ".toList ++ quoted operand)
  | [first, second] => return (first, second)
  | _ :: _ :: extra :: _ => failExtra extra

/-- Says at the end that something was out of order. -/
def reportDisorder (state : MergeState) : Work Unit := do
  if state.disorderFirst || state.disorderSecond then
    Work.report "input is not in sorted order".toList

/-- Shows which lines two sorted files have in common. -/
def comm (arguments : List Text) : Work Unit := do
  let table : OptionTable :=
    { letters := "123z\x01:"
      names :=
        [("output-delimiter", '\x01'), ("check-order", 'C'), ("nocheck-order", 'N'), ("zero-terminated", 'z'),
          ("total", 'T')] }
  let (given, operands) ← readOptions table arguments
  let (first, second) ← twoOperands operands
  let last := if hasLetter given 'z' then '\x00' else '\n'
  let linesOf (text : Text) : List Text := (splitAfter last text).map (chompOf last)
  let left := linesOf (← readMergeOperand first)
  let right := linesOf (← readMergeOperand second)
  let style : CommStyle :=
    { showFirst := !hasLetter given '1'
      showSecond := !hasLetter given '2'
      showBoth := !hasLetter given '3'
      delimiter := (argumentOf? given '\x01').getD ['\t']
      last
      check :=
        match lastOf? given ['C', 'N'] with
        | some 'C' => .always
        | some _ => .never
        | none => .afterMismatch }
  let state ← showCommon style (left.length + right.length + 1) left right {}
  if hasLetter given 'T' then
    let totals := [number state.onlyFirst, number state.onlySecond, number state.both, "total".toList]
    Work.put (List.intercalate style.delimiter totals ++ [last])
  reportDisorder state

/-- One of the two texts that are joined. -/
structure JoinSide where
  /-- How diagnostics call the text. -/
  name : Text := []
  /-- Which field is compared, counted from zero. -/
  field : Nat := 0
  /-- Whether lines are shown that the other text has no match for. -/
  showsUnpaired : Bool := false

/-- A line with its fields. -/
structure JoinLine where
  text : Text
  fields : List Text

/-- A field of a joined line. -/
inductive JoinField where
  | common
  /-- A field of the first or of the second text, counted from zero. -/
  | ofSide (isFirst : Bool) (field : Nat)
  deriving DecidableEq, Repr

/-- How texts are joined. -/
structure JoinStyle where
  first : JoinSide
  second : JoinSide
  showsPairs : Bool
  separator : Option Char
  /-- What stands for fields that are missing. -/
  filling : Text
  /-- Which fields are shown, if that is given. -/
  fields : Option (List JoinField)
  foldCase : Bool
  check : OrderCheck
  last : Char

namespace JoinStyle

/-- The fields of a line. -/
def split (style : JoinStyle) (line : Text) : List Text :=
  match style.separator with
  | some char => (splitAfter char (line ++ [char])).map (chompOf char)
  | none =>
    (line.splitBy fun left right => isBlank left = isBlank right).filter fun run =>
      !run.all isBlank

def keyOf (style : JoinStyle) (isFirst : Bool) (fields : List Text) : Text :=
  let key := fields.getD (if isFirst then style.first.field else style.second.field) []
  if style.foldCase then key.map Char.toUpper else key

/-- The fields of a line without the one that is compared. -/
def others (style : JoinStyle) (isFirst : Bool) (fields : List Text) : List Text :=
  fields.eraseIdx (if isFirst then style.first.field else style.second.field)

/-- A joined line; one of the two lines may be missing. -/
def line (style : JoinStyle) (first second : Option (List Text)) : Text :=
  let common : Text :=
    match first, second with
    | some fields, _ => fields.getD style.first.field []
    | none, some fields => fields.getD style.second.field []
    | none, none => []
  let fillEmpty (text : Text) : Text := if text.isEmpty then style.filling else text
  let shown : List Text :=
    match style.fields with
    | none =>
      common :: ((first.map (style.others true)).getD []) ++ (second.map (style.others false)).getD []
    | some wanted =>
      wanted.map fun field =>
        match field with
        | .common => fillEmpty common
        | .ofSide isFirst index =>
          fillEmpty ((((if isFirst then first else second).getD [])).getD index [])
  List.intercalate [style.separator.getD ' '] shown ++ [style.last]

/-- Looks after the order of a text when a line of it was left behind. The lines at hand begin with the one
that was left, which has a given number. -/
def checkOrder (style : JoinStyle) (isFirst : Bool) (passed : Nat) (lines : List JoinLine)
    (state : MergeState) : Work MergeState := do
  let known := if isFirst then state.disorderFirst else state.disorderSecond
  let wanted := style.check = .always || (style.check = .afterMismatch && state.mismatched)
  match lines with
  | before :: line :: _ =>
    if wanted && !known &&
        compareText (style.keyOf isFirst before.fields) (style.keyOf isFirst line.fields) = .gt then
      let name := if isFirst then style.first.name else style.second.name
      let message := name ++ ':' :: number (passed + 1) ++ ": is not sorted: ".toList ++ line.text
      if style.check = .always then Work.fail message
      else
        Work.complain message
        return if isFirst then { state with disorderFirst := true } else { state with disorderSecond := true }
    else return state
  | _ => return state

/-- Puts out a line that has no match, if that is wanted. -/
def putUnpaired (style : JoinStyle) (isFirst : Bool) (line : JoinLine) : Work Unit :=
  if isFirst then
    if style.first.showsUnpaired then Work.put (style.line (some line.fields) none) else return ()
  else if style.second.showsUnpaired then Work.put (style.line none (some line.fields))
  else return ()

/-- Puts out the lines at the end of a text that the other one has no match for. -/
def putRest (style : JoinStyle) (isFirst : Bool) : Nat → List JoinLine → MergeState → Work MergeState
  | _, [], state => return state
  | passed, line :: later, state => do
    style.putUnpaired isFirst line
    let state ← style.checkOrder isFirst passed (line :: later) state
    putRest style isFirst (passed + 1) later state

/-- Joins two texts, of which some lines have been passed. -/
def join (style : JoinStyle) :
    Nat → Nat → Nat → List JoinLine → List JoinLine → MergeState → Work MergeState
  | 0, _, _, _, _, state => return state
  | fuel + 1, passedFirst, passedSecond, first, second, state => do
    match first, second with
    | left :: lefts, right :: rights =>
      match compareText (style.keyOf true left.fields) (style.keyOf false right.fields) with
      | .lt => do
        style.putUnpaired true left
        let state ← style.checkOrder true passedFirst first state
        join style fuel (passedFirst + 1) passedSecond lefts second { state with mismatched := true }
      | .gt => do
        style.putUnpaired false right
        let state ← style.checkOrder false passedSecond second state
        join style fuel passedFirst (passedSecond + 1) first rights { state with mismatched := true }
      | .eq => do
        let key := style.keyOf true left.fields
        let equalLeft := first.takeWhile fun line => style.keyOf true line.fields = key
        let equalRight := second.takeWhile fun line => style.keyOf false line.fields = key
        let restLeft := first.drop equalLeft.length
        let restRight := second.drop equalRight.length
        let passedFirst := passedFirst + equalLeft.length
        let passedSecond := passedSecond + equalRight.length
        let state ← style.checkOrder true (passedFirst - 1) (left :: restLeft) state
        let state ← style.checkOrder false (passedSecond - 1) (right :: restRight) state
        if style.showsPairs then
          equalLeft.forM fun left => equalRight.forM fun right =>
            Work.put (style.line (some left.fields) (some right.fields))
        join style fuel passedFirst passedSecond restLeft restRight state
    | first, second => do
      let state ← style.putRest true passedFirst first state
      style.putRest false passedSecond second state

end JoinStyle

/-- Reads the number of a field. -/
def readFieldNumber (text : Text) : Work Nat := do
  match natural? text with
  | some 0 | none => Work.fail ("invalid field number: ".toList ++ quoted text)
  | some field => return field - 1

/-- Reads which fields are shown. -/
def readJoinFields (text : Text) : Work (List JoinField) := do
  let words := (splitAfter ',' (text.map fun char => if isBlank char then ',' else char)).map (chompOf ',')
  words.mapM fun word => do
    match word with
    | ['0'] => return .common
    | '1' :: '.' :: field => return .ofSide true (← readFieldNumber field)
    | '2' :: '.' :: field => return .ofSide false (← readFieldNumber field)
    | _ => Work.fail ("invalid field specifier: ".toList ++ quoted word)

/-- The fields that are shown if each line has as many as the first one of its text. -/
def automaticFields (first second : JoinSide) (left right : List JoinLine) : List JoinField :=
  let count (lines : List JoinLine) : Nat := ((lines.head?).map fun line => line.fields.length).getD 0
  let fieldsOf (isFirst : Bool) (side : JoinSide) (lines : List JoinLine) : List JoinField :=
    ((List.range (count lines)).filter (· ≠ side.field)).map (.ofSide isFirst)
  .common :: fieldsOf true first left ++ fieldsOf false second right

/-- Joins the lines of two sorted files that have a field in common. -/
def join (arguments : List Text) : Work Unit := do
  let table : OptionTable :=
    { letters := "a:e:i1:2:j:o:t:v:z"
      names :=
        [("ignore-case", 'i'), ("check-order", 'C'), ("nocheck-order", 'N'), ("header", 'H'),
          ("zero-terminated", 'z')] }
  let (given, operands) ← readOptions table arguments
  let side (letter : Char) : Work JoinSide := do
    let field ← match argumentOf? given letter <|> argumentOf? given 'j' with
      | some text => readFieldNumber text
      | none => pure 0
    let wanted (option : Given) : Bool :=
      (option.letter = 'a' || option.letter = 'v') && option.argument = some [letter]
    return { field, showsUnpaired := given.any wanted }
  let first ← side '1'
  let second ← side '2'
  let separator ← (argumentOf? given 't').mapM fun text => do
    match text with
    | [char] => return char
    | [] => return '\n'
    | ['\\', '0'] => return '\x00'
    | _ => Work.fail ("multi-character tab ".toList ++ quoted text)
  let isAutomatic := argumentOf? given 'o' = some "auto".toList
  let fields ← (if isAutomatic then none else argumentOf? given 'o').mapM readJoinFields
  let (leftOperand, rightOperand) ← twoOperands operands
  let last := if hasLetter given 'z' then '\x00' else '\n'
  let style : JoinStyle :=
    { first := { first with name := leftOperand }
      second := { second with name := rightOperand }
      separator, fields, last
      showsPairs := !hasLetter given 'v'
      filling := (argumentOf? given 'e').getD []
      foldCase := hasLetter given 'i'
      check :=
        match lastOf? given ['C', 'N'] with
        | some 'C' => .always
        | some _ => .never
        | none => .afterMismatch }
  let linesOf (text : Text) : List JoinLine :=
    (splitAfter last text).map fun line =>
      let text := chompOf last line
      { text, fields := style.split text }
  let read (operand : Text) : Work Text := do
    match ← Work.readOperand operand with
    | .ok text => return text
    | .error (.unopened errno) => Work.fail (because (shownName operand) errno)
    | .error (.unread errno) => Work.fail (because "read error".toList errno)
  if leftOperand = inputOperand && rightOperand = inputOperand then
    Work.fail "both files cannot be standard input".toList
  let left := linesOf (← read leftOperand)
  let right := linesOf (← read rightOperand)
  let style : JoinStyle :=
    if isAutomatic then { style with fields := some (automaticFields first second left right) } else style
  let isHeaded := hasLetter given 'H' && !(left.isEmpty && right.isEmpty)
  if isHeaded then
    Work.put (style.line ((left.head?).map JoinLine.fields) ((right.head?).map JoinLine.fields))
  let skipped := if isHeaded then 1 else 0
  let state ← style.join (left.length + right.length + 1) (skipped + 1) (skipped + 1) (left.drop skipped)
    (right.drop skipped) {}
  reportDisorder state

end Pipework.Tool
