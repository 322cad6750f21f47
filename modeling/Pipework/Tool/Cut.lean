import Pipework.Tool.Input
import Pipework.Tool.Option

set_option autoImplicit false

/-!
Parts of lines by their places, and lines put side by side. Places are counted from one.
-/

namespace Pipework.Tool

/-- Places from one to another; without an end, all places from there on. -/
structure PlaceRange where
  first : Nat
  last : Option Nat
  deriving DecidableEq, Repr

namespace PlaceRange

def contains (range : PlaceRange) (place : Nat) : Bool :=
  range.first ≤ place && range.last.all (place ≤ ·)

/-- Puts ranges together that overlap, given in the order of their starts. -/
def merge : List PlaceRange → List PlaceRange
  | [] => []
  | range :: later =>
    match merge later with
    | [] => [range]
    | next :: others =>
      match range.last with
      | none => [range]
      | some last =>
        if next.first ≤ last then
          { range with last := next.last.map (max last ·) } :: others
        else range :: next :: others

end PlaceRange

/-- What places are counted in. -/
structure PlaceKind where
  isField : Bool

namespace PlaceKind

def invalidRange (kind : PlaceKind) : Text :=
  (if kind.isField then "invalid field range" else "invalid byte or character range").toList

def countedFromOne (kind : PlaceKind) : Text :=
  ((if kind.isField then "fields" else "byte/character positions") ++ " are numbered from 1").toList

def invalidPlace (kind : PlaceKind) : Text :=
  (if kind.isField then "invalid field value " else "invalid byte/character position ").toList

/-- Reads a range such as `2-5`. -/
def readRange (kind : PlaceKind) (text : Text) : Work PlaceRange := do
  let first := text.takeWhile isDigit
  match text.drop first.length with
  | [] =>
    match natural? first with
    | some 0 | none => Work.failUsage kind.countedFromOne
    | some place => return { first := place, last := some place }
  | '-' :: rest => do
    let last := rest.takeWhile isDigit
    match rest.drop last.length with
    | '-' :: _ => Work.failUsage kind.invalidRange
    | _ :: _ => Work.failUsage (kind.invalidPlace ++ quoted rest)
    | [] =>
      if first.isEmpty && last.isEmpty then Work.failUsage "invalid range with no endpoint: -".toList
      else
        let start := (natural? first).getD 1
        if start = 0 then Work.failUsage kind.countedFromOne
        else
          match natural? last with
          | none => return { first := start, last := none }
          | some place =>
            if place < start then Work.failUsage "invalid decreasing range".toList
            else return { first := start, last := some place }
  | _ => Work.failUsage (kind.invalidPlace ++ quoted text)

/-- Reads ranges with commas or blanks between them. -/
def readRanges (kind : PlaceKind) (text : Text) : Work (List PlaceRange) := do
  let words := (splitAfter ',' (text.map fun char => if isBlank char then ',' else char)).map (chompOf ',')
  let words := if text.getLast?.all fun char => char = ',' || isBlank char then words ++ [[]] else words
  let ranges ← words.mapM kind.readRange
  return PlaceRange.merge (ranges.mergeSort fun left right => left.first ≤ right.first)

end PlaceKind

/-- How lines are cut. -/
structure CutStyle where
  kind : PlaceKind
  ranges : List PlaceRange
  delimiter : Char := '\t'
  outputDelimiter : Option Text := none
  /-- Whether the other places are wanted. -/
  complement : Bool := false
  /-- Whether lines without a delimiter are left out. -/
  onlyDelimited : Bool := false
  last : Char := '\n'

namespace CutStyle

def wants (style : CutStyle) (place : Nat) : Bool :=
  (style.ranges.any (·.contains place)) != style.complement

/-- Whether a range begins at a place. -/
def beginsAt (style : CutStyle) (place : Nat) : Bool :=
  if style.complement then !style.wants (place - 1) || place = 1
  else style.ranges.any (·.first = place)

/-- The wanted characters of a line. -/
def cutChars (style : CutStyle) (line : Text) : Text :=
  let kept := line.zipIdx.filter fun entry => style.wants (entry.2 + 1)
  match style.outputDelimiter with
  | none => kept.map Prod.fst
  | some delimiter =>
    (kept.zipIdx.flatMap fun ((char, place), index) =>
      if index ≠ 0 && style.beginsAt (place + 1) then delimiter ++ [char] else [char])

/-- The wanted fields of a line, unless it is left out. -/
def cutFields (style : CutStyle) (line : Text) : Option Text :=
  if line.contains style.delimiter then
    let fields := (splitAfter style.delimiter (line ++ [style.delimiter])).map (chompOf style.delimiter)
    let kept := fields.zipIdx.filter fun entry => style.wants (entry.2 + 1)
    some (List.intercalate (style.outputDelimiter.getD [style.delimiter]) (kept.map Prod.fst))
  else if style.onlyDelimited then none
  else some line

def cutLine (style : CutStyle) (line : Text) : Option Text :=
  if style.kind.isField then style.cutFields line else some (style.cutChars line)

end CutStyle

def cutOptions : OptionTable where
  letters := "b:c:d:f:nszO:C"
  names :=
    [("bytes", 'b'), ("characters", 'c'), ("fields", 'f'), ("delimiter", 'd'), ("only-delimited", 's'),
      ("output-delimiter", 'O'), ("complement", 'C'), ("zero-terminated", 'z')]

/-- Prints parts of lines. -/
def cut (arguments : List Text) : Work Unit := do
  let (given, operands) ← readOptions cutOptions arguments
  let lists := given.filter fun option => "bcf".toList.contains option.letter
  let delimiter := argumentOf? given 'd'
  if 1 < lists.length then Work.failUsage "only one list may be specified".toList
  if delimiter.any (1 < ·.length) then
    Work.failUsage "the delimiter must be a single character".toList
  match lists with
  | [] => Work.failUsage "you must specify a list of bytes, characters, or fields".toList
  | list :: _ => do
    let kind : PlaceKind := { isField := list.letter = 'f' }
    if delimiter.isSome && !kind.isField then
      Work.failUsage "an input delimiter may be specified only when operating on fields".toList
    if hasLetter given 's' && !kind.isField then
      Work.failUsage
        "suppressing non-delimited lines makes sense\n\tonly when operating on fields".toList
    let ranges ← kind.readRanges (list.argument.getD [])
    let style : CutStyle :=
      { kind, ranges
        delimiter := (delimiter.map fun text => text.headD '\x00').getD '\t'
        outputDelimiter := argumentOf? given 'O'
        complement := hasLetter given 'C'
        onlyDelimited := hasLetter given 's'
        last := if hasLetter given 'z' then '\x00' else '\n' }
    forEachInput inputComplaint operands fun _ text =>
      ((splitAfter style.last text).map (chompOf style.last)).forM fun line =>
        match style.cutLine line with
        | some text => Work.put (text ++ [style.last])
        | none => return ()
    Work.closeInput "-"

/-- The delimiters that a text lists; some may be empty. -/
def delimiterList : Text → List Text
  | [] => []
  | '\\' :: char :: rest =>
    (match char with
      | '0' => []
      | 'b' => ['\x08']
      | 'f' => ['\x0c']
      | 'n' => ['\n']
      | 'r' => ['\r']
      | 't' => ['\t']
      | 'v' => ['\x0b']
      | other => [other]) :: delimiterList rest
  | char :: rest => [char] :: delimiterList rest

/-- Joins texts with delimiters that come around again. -/
def joinCycling (delimiters : List Text) (texts : List Text) : Text :=
  (texts.zipIdx.flatMap fun (text, index) =>
    if index = 0 then text
    else delimiters.getD ((index - 1) % (max 1 delimiters.length)) [] ++ text)

/-- Rows that take a line from each column. A column is given by the number of the text that it takes lines from,
so that several columns may share one. There are rows as long as one of them finds a line. -/
def pasteRows (delimiters : List Text) (last : Char) (columns : List Nat) :
    Nat → Array (List Text) → List Text
  | 0, _ => []
  | fuel + 1, texts =>
    let (found, texts) := columns.foldl (fun (found, texts) column =>
      match texts.getD column [] with
      | [] => (none :: found, texts)
      | line :: later => (some line :: found, texts.setIfInBounds column later))
      (([], texts) : List (Option Text) × Array (List Text))
    if found.all Option.isNone then []
    else
      (joinCycling delimiters (found.reverse.map (·.getD [])) ++ [last]) ::
        pasteRows delimiters last columns fuel texts

/-- Puts lines side by side, or one after the other. -/
def paste (arguments : List Text) : Work Unit := do
  let table : OptionTable :=
    { letters := "d:sz", names := [("delimiters", 'd'), ("serial", 's'), ("zero-terminated", 'z')] }
  let (given, operands) ← readOptions table arguments
  let delimiters := ((argumentOf? given 'd').map delimiterList).getD [['\t']]
  let delimiters := if delimiters.isEmpty then [[]] else delimiters
  let last := if hasLetter given 'z' then '\x00' else '\n'
  let linesOf (text : Text) : List Text := (splitAfter last text).map (chompOf last)
  if hasLetter given 's' then
    (if operands.isEmpty then [inputOperand] else operands).forM fun operand => do
      match ← Work.readOperand operand with
      | .ok text => Work.put (joinCycling delimiters (linesOf text) ++ [last])
      | .error fault => do
        match fault with
        | .unread _ => Work.put [last]
        | .unopened _ => pure ()
        Work.report (inputComplaint operand fault)
  else
    let operands := if operands.isEmpty then [inputOperand] else operands
    operands.forM fun operand => do
      if operand ≠ inputOperand then
        match ← Work.openAside operand .read with
        | .ok descriptor => Work.tell (.close descriptor)
        | .error errno => Work.fail (because (shownName operand) errno)
    let texts ← operands.mapM fun operand => do
      match ← Work.readOperand operand with
      | .ok text => return linesOf text
      | .error fault => do
        Work.report (inputComplaint operand fault)
        return []
    let columns := operands.zipIdx.map fun (operand, index) =>
      if operand = inputOperand then (operands.findIdx (· = inputOperand)) else index
    let count := texts.foldl (fun total lines => total + lines.length) 0
    (pasteRows delimiters last columns (count + 1) texts.toArray).forM Work.put
  Work.closeInput "-"

end Pipework.Tool
