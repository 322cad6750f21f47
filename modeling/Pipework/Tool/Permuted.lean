import Pipework.Regex.Syntax
import Pipework.Tool.Option
import Pipework.Tool.Permuted.Line
import Pipework.Tool.Quantity

set_option autoImplicit false

/-!
The permuted index of texts: a line for each word, in the order of the words, with the sentence around it.
-/

namespace Pipework.Tool

open Kernel

namespace Permuted

/-- Resolves escapes. -/
def unescape : Nat → Text → Text
  | 0, _ => []
  | _, [] => []
  | _, ['\\'] => []
  | fuel + 1, '\\' :: letter :: rest =>
    let isHex (char : Char) : Bool := (hexadecimal? char).isSome
    match letter with
    | 'x' =>
      let digits := (rest.take 3).takeWhile isHex
      if digits.isEmpty then '\\' :: 'x' :: unescape fuel rest
      else valueOf 16 digits :: unescape fuel (rest.drop digits.length)
    | '0' =>
      let digits := (rest.take 3).takeWhile fun char => '0' ≤ char && char ≤ '7'
      valueOf 8 digits :: unescape fuel (rest.drop digits.length)
    | 'c' => []
    | letter =>
      match controls.lookup letter with
      | some char => char :: unescape fuel rest
      | none => '\\' :: letter :: unescape fuel rest
  | fuel + 1, char :: rest => char :: unescape fuel rest
where
  controls : List (Char × Char) :=
    [('a', '\x07'), ('b', '\x08'), ('f', '\x0c'), ('n', '\n'), ('r', '\r'), ('t', '\t'), ('v', '\x0b')]
  /-- The value of a hexadecimal digit. -/
  hexadecimal? (char : Char) : Option Nat :=
    if isDigit char then some (char.toNat - '0'.toNat)
    else if 'a' ≤ char.toLower && char.toLower ≤ 'f' then some (char.toLower.toNat - 'a'.toNat + 10)
    else none
  valueOf (base : Nat) (digits : Text) : Char :=
    Char.ofNat (digits.foldl (fun value digit => value * base + (hexadecimal? digit).getD 0) 0 % 256)

/-- A set in brackets, and what follows it. -/
def takeSet (text : Text) : Text × Text :=
  let (start, rest) : Text × Text :=
    match text with
    | '^' :: ']' :: rest => (['^', ']'], rest)
    | ']' :: rest => ([']'], rest)
    | rest => ([], rest)
  let inside := rest.takeWhile (· ≠ ']')
  (start ++ inside ++ (rest.drop inside.length).take 1, rest.drop (inside.length + 1))

/-- A regular expression in which repetitions have no backslashes and braces are plain, in the basic form. -/
def basicForm : Nat → Text → Text
  | 0, _ => []
  | _, [] => []
  | fuel + 1, '\\' :: char :: rest =>
    if "+?\x7b\x7d".toList.contains char then char :: basicForm fuel rest else '\\' :: char :: basicForm fuel rest
  | fuel + 1, '[' :: rest =>
    let (inside, rest) := takeSet rest
    '[' :: inside ++ basicForm fuel rest
  | fuel + 1, char :: rest =>
    if char = '+' || char = '?' then '\\' :: char :: basicForm fuel rest
    else if char = '.' then "[^\n]".toList ++ basicForm fuel rest
    else char :: basicForm fuel rest

/-- Reads a regular expression. -/
def readRegex (text : Text) : Work Regex := do
  match Regex.read false (basicForm (text.length + 1) text) with
  | .ok (regex, _) => return regex
  | .error fault => Work.fail (fault.message.toList ++ " (for regexp ".toList ++ quoted text ++ [')'])

/-- What ends a sentence in prose. -/
def proseEnd : Text := "[.?!][]\x22')\x7d]*\\($\\|\t\\|  \\)[ \t\n]*".toList

/-- What the options say. -/
structure Wish where
  style : Style := {}
  form : Option Form := none
  sentenceEnd : Option Text := none
  word : Text := []
  breaks : Option Text := none
  ignored : Option Text := none
  wanted : Option Text := none
  foldCase : Bool := false
  refers : Bool := false

namespace Wish

/-- Reads a width. -/
def readWidth (what : String) (text : Text) : Work Nat := do
  match readQuantity? { readsPrefixes := true } text with
  | some reading =>
    if reading.rest.isEmpty && !reading.overflows && 0 < reading.value && reading.value ≤ 9223372036854775807 then
      return reading.value
    else refuse
  | none => refuse
where
  refuse : Work Nat := Work.fail ("invalid ".toList ++ what.toList ++ ": ".toList ++ quoted text)

/-- Takes on an option. -/
def addOption (wish : Wish) (option : Given) : Work Wish := do
  let text := option.argument.getD []
  let plain := unescape (text.length + 1) text
  match option.letter with
  | 'G' => return { wish with style.isRoomy := false }
  | 'b' => return { wish with breaks := some text }
  | 'f' => return { wish with foldCase := true }
  | 'g' => return { wish with style.gap := ← readWidth "gap width" text }
  | 'i' => return { wish with ignored := some text }
  | 'o' => return { wish with wanted := some text }
  | 'r' => return { wish with refers := true }
  | 'w' => return { wish with style.width := ← readWidth "line width" text }
  | 'A' => return { wish with style.countsLines := true }
  | 'F' => return { wish with style.truncation := plain }
  | 'M' => return { wish with style.command := text }
  | 'O' => return { wish with form := some .requests }
  | 'R' => return { wish with style.refersRight := true }
  | 'S' => return { wish with sentenceEnd := some plain }
  | 'T' => return { wish with form := some .commands }
  | 'W' => return { wish with word := plain }
  | '\x01' => return { wish with form := some (← chooseFrom "--format" [("roff", .requests), ("tex", .commands)] text) }
  | _ => return wish

/-- Reads a file on which the index depends. -/
def readWhole (operand : Text) : Work Text := do
  match ← Work.readOperand (if operand.isEmpty then inputOperand else operand) with
  | .ok text => return text
  | .error fault => Work.fail (because (shownName (if operand.isEmpty then inputOperand else operand)) fault.errno)

/-- What words are made of. -/
def wordRule (wish : Wish) : Work WordRule := do
  let isBlankHere (char : Char) : Bool := char = ' ' || char = '\t' || char = '\n'
  if !wish.word.isEmpty then
    let regex ← readRegex wish.word
    match wish.breaks with
    | some path => do
      let _ ← readWhole path
      return .regex regex
    | none => return .regex regex
  else
    match wish.breaks with
    | some path => do
      let breaks ← readWhole path
      return .chars fun char => !breaks.contains char && (wish.style.isRoomy || !isBlankHere char)
    | none =>
      if wish.style.isRoomy then return .chars Char.isAlpha
      else return .chars fun char => !isBlankHere char

/-- How words and sentences are told apart. -/
def grammar (wish : Wish) : Work Grammar := do
  let sentenceText :=
    wish.sentenceEnd.getD (if wish.style.isRoomy && !wish.refers then proseEnd else ['\n'])
  let sentenceEnd ← if sentenceText.isEmpty then pure none else do pure (some (← readRegex sentenceText))
  return { word := ← wish.wordRule, sentenceEnd, sentenceText, foldCase := wish.foldCase
           startsWithReference := wish.refers }

/-- A word as it is compared with others. -/
def keyOf (wish : Wish) (word : Text) : Text := if wish.foldCase then word.map Char.toUpper else word

/-- Reads a list of words. -/
def readWords (wish : Wish) (path : Option Text) : Work (List Text) := do
  match path with
  | none => return []
  | some path => return ((plainLines (← readWhole path)).filter (!·.isEmpty)).map wish.keyOf

end Wish

/-- A text of which the words are indexed, with the number of lines up to its end. -/
structure Indexed where
  operand : Text
  text : Array Char
  lineCount : Nat

/-- Whether a text comes from the input. -/
def isInput (operand : Text) : Bool := operand.isEmpty || operand = inputOperand

/-- Reads texts and collects their words. -/
def readTexts (selection : Selection) : List Text → (passed : List Indexed) → Finding → Work (List Indexed × Finding)
  | [], passed, finding => return (passed.reverse, finding)
  | operand :: later, passed, finding => do
    let text := (← Wish.readWhole operand).toArray
    let refers := selection.grammar.startsWithReference
    let place := if refers then skipWhile isSpace text text.size (skipReference text text.size 0) else 0
    let started := { finding with lines := { place, line := finding.lines.line } }
    match selection.addText passed.length text (text.size + 1) 0 started with
    | none =>
      Work.fail ("error: regular expression has a match of length zero: ".toList ++
        quoted selection.grammar.sentenceText)
    | some finding =>
      let lineCount := finding.lines.line + 1
      readTexts selection later ({ operand, text, lineCount } :: passed)
        { finding with lines := { line := lineCount } }

/-- The name of a text in references. -/
def nameOf (indexed : Indexed) : Text := if isInput indexed.operand then [] else indexed.operand

/-- The number of lines in front of each text. -/
def linesBefore (texts : List Indexed) : List Nat := 0 :: texts.map Indexed.lineCount

/-- The reference to an occurrence. -/
def referenceOf (style : Style) (texts : List Indexed) (indexed : Indexed) (occurrence : Occurrence) : Text :=
  if style.countsLines then
    nameOf indexed ++ ':' :: number (occurrence.line + 1 - (linesBefore texts).getD occurrence.source 0)
  else if style.hasReferences then
    let last := skipReference indexed.text occurrence.context.last occurrence.lineStart
    (indexed.text.extract occurrence.lineStart last).toList
  else []

/-- The width of references that are names with numbers of lines. -/
def countedWidth (texts : List Indexed) : Nat :=
  ((texts.zip (linesBefore texts)).map fun (indexed, before) =>
    (number (indexed.lineCount + 1 - before)).length + (nameOf indexed).length).foldl max 0 + 1

end Permuted

open Permuted

/-- The options of a permuted index. -/
def ptxOptions : OptionTable where
  letters := "AF:GM:ORS:TW:b:i:fg:o:trw:\x01:"
  names :=
    [("auto-reference", 'A'), ("break-file", 'b'), ("flag-truncation", 'F'), ("ignore-case", 'f'), ("gap-size", 'g'),
      ("ignore-file", 'i'), ("macro-name", 'M'), ("only-file", 'o'), ("references", 'r'), ("right-side-refs", 'R'),
      ("format", '\x01'), ("sentence-regexp", 'S'), ("traditional", 'G'), ("typeset-mode", 't'), ("width", 'w'),
      ("word-regexp", 'W')]

/-- Turns the output to a file. -/
def redirectOutput (path : Text) : Work Unit := do
  match ← Work.openAside path .replace with
  | .error errno => Work.fail (because (shownName path) errno)
  | .ok descriptor => do
    Work.tell (.duplicate descriptor 1)
    Work.tell (.close descriptor)

/-- Prints the permuted index of files. -/
def ptx (arguments : List Text) : Work Unit := do
  let (given, operands) ← readOptions ptxOptions arguments
  let wish ← given.foldlM Wish.addOption {}
  let operands ← match operands with
    | [] => pure [inputOperand]
    | source :: later => do
      if wish.style.isRoomy then pure operands
      else
        later.head?.forM redirectOutput
        match later.drop 1 with
        | extra :: _ => failExtra extra
        | [] => pure [source]
  let form := wish.form.getD (if wish.style.isRoomy then .plain else .requests)
  let grammar ← wish.grammar
  let ignored ← wish.readWords wish.ignored
  let wanted ← wish.readWords wish.wanted
  let keeps (word : Text) : Bool :=
    !ignored.contains (wish.keyOf word) && (wanted.isEmpty || wanted.contains (wish.keyOf word))
  let selection : Selection := { keeps, grammar, countsLines := wish.style.countsLines }
  let (texts, finding) ← readTexts selection operands [] { lines := {} }
  let style : Style :=
    { wish.style with
      form
      hasReferences := wish.style.countsLines || wish.refers
      referenceWidth := if wish.style.countsLines then countedWidth texts else finding.widest }
  let keyed := finding.found.reverse.map fun occurrence =>
    let text := ((texts[occurrence.source]?).map Indexed.text).getD #[]
    (wish.keyOf (text.extract occurrence.key.first occurrence.key.last).toList, occurrence)
  (keyed.mergeSort fun left right => !decide (right.1 < left.1)).forM fun (_, occurrence) => do
    match texts[occurrence.source]? with
    | none => return ()
    | some indexed =>
      Work.putLine (style.line { grammar, text := indexed.text } finding.longest
        (referenceOf style texts indexed occurrence) occurrence)

end Pipework.Tool
