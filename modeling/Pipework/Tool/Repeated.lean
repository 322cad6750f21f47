import Pipework.Tool.Sort

set_option autoImplicit false

/-!
Lines that repeat the one before them: they are left out, counted or looked for.
-/

namespace Pipework.Tool

open Kernel

/-- What of a line counts when it is compared with the next. -/
structure RepeatStyle where
  /-- How many fields and then how many characters do not count. -/
  skippedFields : Nat := 0
  skippedChars : Nat := 0
  /-- How many characters count then. -/
  width : Option Nat := none
  foldCase : Bool := false

/-- What of a line counts. -/
def RepeatStyle.relevant (style : RepeatStyle) (line : Text) : Text :=
  let rest := (SortKey.skipFields none true style.skippedFields line).drop style.skippedChars
  let rest := (style.width.map (rest.take ·)).getD rest
  if style.foldCase then rest.map Char.toUpper else rest

/-- Lines in groups of those that repeat each other. -/
def RepeatStyle.groups (style : RepeatStyle) (lines : List Text) : List (List Text) :=
  lines.splitBy fun left right => style.relevant left = style.relevant right

/-- Where empty lines stand between groups. -/
inductive GroupGaps where
  | none
  | between
  | before
  | after
  /-- Before the first group and behind each. -/
  | both
  deriving DecidableEq, Repr

/-- What is put out of a group of lines. -/
structure RepeatOutput where
  counts : Bool := false
  /-- Whether lines are put out that are not repeated, and those that are. -/
  single : Bool := true
  multiple : Bool := true
  /-- Whether all lines of a group are put out. -/
  all : Bool := false
  gaps : GroupGaps := .none

def RepeatOutput.ofGroup (output : RepeatOutput) (group : List Text) : List Text :=
  let isWanted := if group.length = 1 then output.single else output.multiple
  if !isWanted then []
  else if output.all then group
  else
    let head : Text := if output.counts then padLeft 7 (number group.length) ++ [' '] else []
    (group.take 1).map (head ++ ·)

/-- What is put out of all groups. -/
def RepeatOutput.ofGroups (output : RepeatOutput) (groups : List (List Text)) : List Text :=
  let shown := (groups.map output.ofGroup).filter fun lines => !lines.isEmpty
  match output.gaps with
  | .none => shown.flatten
  | .between => List.intercalate [[]] shown
  | .before => shown.flatMap fun lines => [] :: lines
  | .after => shown.flatMap (· ++ [[]])
  | .both => if shown.isEmpty then [] else [] :: shown.flatMap (· ++ [[]])

/-- Reads where empty lines stand. -/
def readGaps (option : String) (known : List (String × GroupGaps)) (text : Text) : Work GroupGaps := do
  match known.lookup (String.ofList text) with
  | some gaps => return gaps
  | none =>
    let valid := known.flatMap fun entry => "\n  - ".toList ++ quoted entry.1.toList
    Work.failUsage ("invalid argument ".toList ++ quoted text ++ " for ".toList ++ quoted option.toList ++
      "\nValid arguments are:".toList ++ valid)

/-- Reads a number of things that are skipped or compared. -/
def readRepeatNumber (given : List Given) (letter : Char) (what : String) : Work (Option Nat) := do
  match argumentOf? given letter with
  | none => return none
  | some text =>
    match size? text with
    | some count => return some count
    | none => Work.fail (text ++ ": invalid number of ".toList ++ what.toList)

def uniqOptions : OptionTable where
  letters := "cdDf:is:uw:z\x01::\x02::"
  names :=
    [("count", 'c'), ("repeated", 'd'), ("all-repeated", '\x01'), ("group", '\x02'),
      ("skip-fields", 'f'), ("ignore-case", 'i'), ("skip-chars", 's'), ("unique", 'u'), ("check-chars", 'w'), ("zero-terminated", 'z')]

/-- What is said of an operand that cannot be read. -/
def uniqComplaint : InputComplaint := fun operand fault =>
  match fault with
  | .unopened errno => because (shownName operand) errno
  | .unread errno => because ("error reading ".toList ++ inQuotes operand) errno

/-- Leaves out lines that repeat the one before them. -/
def uniq (arguments : List Text) : Work Unit := do
  let arguments := arguments.flatMap fun argument =>
    match argument with
    | '-' :: digit :: rest => if isDigit digit then ["-f".toList, digit :: rest] else [argument]
    | '+' :: digit :: rest => if isDigit digit then ["-s".toList, digit :: rest] else [argument]
    | _ => [argument]
  let (given, operands) ← readOptions uniqOptions arguments
  match operands.drop 2 with
  | extra :: _ => failExtra extra
  | [] => pure ()
  let style : RepeatStyle :=
    { skippedFields := (← readRepeatNumber given 'f' "fields to skip").getD 0
      skippedChars := (← readRepeatNumber given 's' "bytes to skip").getD 0
      width := ← readRepeatNumber given 'w' "bytes to compare"
      foldCase := hasLetter given 'i' }
  let repeatedGaps ← (argumentOf? given '\x01').mapM
    (readGaps "--all-repeated" [("none", .none), ("prepend", .before), ("separate", .between)])
  let groupGaps ← (argumentOf? given '\x02').mapM
    (readGaps "--group" [("prepend", .before), ("append", .after), ("separate", .between), ("both", .both)])
  let groups := hasLetter given '\x02'
  if groups && (hasLetter given 'c' || hasLetter given 'd' || hasLetter given 'D' || hasLetter given '\x01' ||
      hasLetter given 'u') then
    Work.failUsage "--group is mutually exclusive with -c/-d/-D/-u".toList
  let all := hasLetter given 'D' || hasLetter given '\x01'
  if all && hasLetter given 'c' then
    Work.failUsage "printing all duplicated lines and repeat counts is meaningless".toList
  let output : RepeatOutput :=
    { counts := hasLetter given 'c'
      single := !hasLetter given 'd' && !all
      multiple := !hasLetter given 'u'
      all := all || groups
      gaps := if groups then groupGaps.getD .between else repeatedGaps.getD .none }
  let last := if hasLetter given 'z' then '\x00' else '\n'
  let operand := operands.headD inputOperand
  let source ←
    if operand = inputOperand then pure 0
    else
      match ← Work.openAside operand .read with
      | .error errno => Work.fail (uniqComplaint operand (.unopened errno))
      | .ok descriptor => pure descriptor
  let target ←
    match (operands.drop 1).filter (· ≠ inputOperand) with
    | [] => pure none
    | path :: _ =>
      match ← Work.openAside path .replace with
      | .error errno => Work.fail (because (shownName path) errno)
      | .ok descriptor => pure (some descriptor)
  match ← Work.readToEnd source stepLimit [] with
  | .error errno => Work.fail (uniqComplaint operand (.unread errno))
  | .ok text => do
    let groups := style.groups ((splitAfter last text).map (chompOf last))
    let result := (output.ofGroups groups).flatMap (· ++ [last])
    match target with
    | some descriptor => do
      let _ ← Work.writeAll descriptor (result.length + 1) (Bytes.ofChars result)
      Work.tell (.close descriptor)
    | none => Work.put result

end Pipework.Tool
