import Pipework.Tool.Permuted.Occurrence

set_option autoImplicit false

/-!
Lines of a permuted index: the word stands in the middle, with what comes before and after it in the sentence. What
does not fit is wrapped around to the other end of the line.
-/

namespace Pipework.Tool

namespace Permuted

/-- In which form lines are written. -/
inductive Form where
  /-- For reading as it is. -/
  | plain
  /-- As requests with arguments in double quotes. -/
  | requests
  /-- As commands with arguments in braces. -/
  | commands
  deriving DecidableEq, Repr

/-- How wide lines are, and how they are written. -/
structure Style where
  form : Form := .plain
  command : Text := ['x', 'x']
  width : Nat := 72
  gap : Nat := 3
  /-- What stands where something is left out. -/
  truncation : Text := ['/']
  /-- Whether marks of truncation have room on both sides. -/
  isRoomy : Bool := true
  hasReferences : Bool := false
  /-- Whether references stand at the right end. -/
  refersRight : Bool := false
  /-- Whether references are names of files with numbers of lines. -/
  countsLines : Bool := false
  /-- The width of references. -/
  referenceWidth : Nat := 0

namespace Style

/-- The width that is left for the words. -/
def textWidth (style : Style) : Nat :=
  if style.hasReferences && !style.refersRight then style.width - (style.referenceWidth + style.gap) else style.width

/-- Half of a line. -/
def half (style : Style) : Nat := style.textWidth / 2

/-- The most that stands in front of a word. -/
def beforeWidth (style : Style) : Int :=
  let width : Int := (style.half : Int) - style.gap
  if style.isRoomy then max 0 (width - 2 * style.truncation.length) else width

/-- The most that a word takes with what follows it. -/
def afterWidth (style : Style) : Int :=
  (style.half : Int) - 2 * style.truncation.length - (if style.isRoomy then 0 else 1)

end Style

/-- A part of a line, and whether something is left out at its outer end. -/
structure Field where
  span : Span := { first := 0, last := 0 }
  isCut : Bool := false

/-- Whether something is in a field. -/
def Field.isFull (field : Field) : Bool := field.span.first < field.span.last

/-- The fields of a line, by what they hold: what follows the rest of the sentence, what comes before the word, the
word and what follows it, and what comes before all that. -/
structure Fields where
  tail : Field
  before : Field
  keyAfter : Field
  head : Field

/-- A text with its grammar. -/
structure Source where
  grammar : Grammar
  text : Array Char

namespace Source

/-- Goes on over words as long as they fit. Gives the last place that fits, and whether everything did. -/
def extendWhile (source : Source) (limit : Nat) (fits : Nat → Bool) : Nat → (fitting place : Nat) → Nat
  | 0, fitting, _ => fitting
  | fuel + 1, fitting, place =>
    if place < limit && fits place then
      source.extendWhile limit fits fuel place (skipSomething source.grammar source.text limit place)
    else if fits place then place
    else fitting

/-- Goes on over words until what is left fits. -/
def shrinkUntil (source : Source) (limit : Nat) (width : Int) : Nat → Nat → Nat
  | 0, place => place
  | fuel + 1, place =>
    if (place : Int) + width < limit then
      source.shrinkUntil limit width fuel (skipSomething source.grammar source.text limit place)
    else place

/-- The field with the word and what follows it. -/
def keyAfterField (source : Source) (style : Style) (occurrence : Occurrence) : Field :=
  let first := occurrence.key.first
  let fits (place : Nat) : Bool := (place : Int) ≤ first + style.afterWidth
  let fuel := source.text.size + 1
  let last := source.extendWhile occurrence.context.last fits fuel occurrence.key.last occurrence.key.last
  { span := { first, last := backOverBlanks source.text first last }
    isCut := !style.truncation.isEmpty && last < occurrence.context.last }

/-- Where what comes before a word can begin at the earliest. -/
def leftLimit (source : Source) (style : Style) (longest : Nat) (occurrence : Occurrence) : Nat :=
  let distance := style.half + longest
  if distance < occurrence.key.first - occurrence.context.first then
    skipSomething source.grammar source.text occurrence.key.first (occurrence.key.first - distance)
  else occurrence.context.first

/-- The field with what comes before the word. -/
def beforeField (source : Source) (style : Style) (left : Nat) (occurrence : Occurrence) : Field :=
  let last := backOverBlanks source.text left occurrence.key.first
  let first := source.shrinkUntil last style.beforeWidth (source.text.size + 1) left
  { span := { first := skipWhile isSpace source.text source.text.size first, last }
    isCut := !style.truncation.isEmpty && occurrence.context.first < backOverBlanks source.text 0 first }

/-- The field with what follows the others, and whether something does. -/
def tailField (source : Source) (style : Style) (occurrence : Occurrence) (before keyAfter : Field) :
    Option (Field × Bool) :=
  let width := style.beforeWidth - ((before.span.last : Int) - before.span.first) - style.gap
  if width ≤ 0 then none
  else
    let first := skipWhile isSpace source.text source.text.size keyAfter.span.last
    let fits (place : Nat) : Bool := (place : Int) < first + width
    let last := source.extendWhile occurrence.context.last fits (source.text.size + 1) first first
    let isFull : Bool := first < last
    some
      ({ span := { first, last := backOverBlanks source.text first last }
         isCut := !style.truncation.isEmpty && isFull && last < occurrence.context.last }, isFull)

/-- The field with what comes before the others. -/
def headField (source : Source) (style : Style) (left : Nat) (occurrence : Occurrence) (before keyAfter : Field) :
    Option (Field × Bool) :=
  let width := style.afterWidth - ((keyAfter.span.last : Int) - keyAfter.span.first) - style.gap
  if width ≤ 0 then none
  else
    let last := backOverBlanks source.text 0 before.span.first
    let first := source.shrinkUntil last width (source.text.size + 1) left
    let isFull : Bool := first < last
    some
      ({ span := { first := if isFull then skipWhile isSpace source.text last first else first, last }
         isCut := !style.truncation.isEmpty && isFull && occurrence.context.first < first }, isFull)

/-- The fields of the line for an occurrence. -/
def fields (source : Source) (style : Style) (longest : Nat) (occurrence : Occurrence) : Fields :=
  let keyAfter := source.keyAfterField style occurrence
  let left := source.leftLimit style longest occurrence
  let before := source.beforeField style left occurrence
  let (tail, tailIsFull) := (source.tailField style occurrence before keyAfter).getD ({}, false)
  let (head, headIsFull) := (source.headField style left occurrence before keyAfter).getD ({}, false)
  { tail, head
    before := { before with isCut := before.isCut && !headIsFull }
    keyAfter := { keyAfter with isCut := keyAfter.isCut && !tailIsFull } }

end Source

namespace Style

/-- A character as a form writes it. -/
def writeChar (style : Style) (char : Char) : Text :=
  if isSpace char then [' ']
  else
    match style.form with
    | .plain => [char]
    | .requests => if char = '\x22' then ['\x22', '\x22'] else [char]
    | .commands =>
      if "$%&#_".toList.contains char then ['\\', char]
      else if char = '\x7b' || char = '\x7d' then ['$', '\\', char, '$']
      else if char = '\\' then "\\backslash\x7b\x7d".toList
      else [char]

/-- A part of a text as a form writes it. -/
def write (style : Style) (text : Array Char) (span : Span) : Text :=
  (text.extract span.first span.last).toList.flatMap style.writeChar

/-- The mark at the end of a field where something is left out. -/
def markOf (style : Style) (field : Field) : Text := if field.isCut then style.truncation else []

/-- A line for reading as it is. -/
def plainLine (style : Style) (text : Array Char) (reference : Text) (fields : Fields) : Text :=
  let blanks (width : Int) : Text := List.replicate width.toNat ' '
  let half : Int := style.half
  let size (field : Field) : Int := (field.span.last : Int) - field.span.first + (style.markOf field).length
  let shown (field : Field) : Text := style.write text field.span
  let left : Text :=
    if style.refersRight then []
    else
      let mark : Text := if style.countsLines then [':'] else []
      reference ++ mark ++
        blanks ((style.referenceWidth : Int) + style.gap - reference.length - mark.length)
  let tail : Text :=
    if fields.tail.isFull then
      shown fields.tail ++ style.markOf fields.tail ++
        blanks (half - style.gap - size fields.before - size fields.tail)
    else blanks (half - style.gap - size fields.before)
  let head : Text :=
    if fields.head.isFull then
      blanks (half - size fields.keyAfter - size fields.head) ++ style.markOf fields.head ++ shown fields.head
    else if style.hasReferences && style.refersRight then blanks (half - size fields.keyAfter)
    else []
  let right : Text := if style.hasReferences && style.refersRight then blanks style.gap ++ reference else []
  left ++ tail ++ style.markOf fields.before ++ shown fields.before ++ blanks style.gap ++
    shown fields.keyAfter ++ style.markOf fields.keyAfter ++ head ++ right

/-- A line as a request with arguments in double quotes. -/
def requestLine (style : Style) (text : Array Char) (reference : Text) (fields : Fields) : Text :=
  let shown (field : Field) : Text := style.write text field.span
  let argument (content : Text) : Text := " \x22".toList ++ content ++ ['\x22']
  '.' :: style.command ++
    argument (shown fields.tail ++ style.markOf fields.tail) ++
    argument (style.markOf fields.before ++ shown fields.before) ++
    argument (shown fields.keyAfter ++ style.markOf fields.keyAfter) ++
    argument (style.markOf fields.head ++ shown fields.head) ++
    (if style.hasReferences then argument reference else [])

/-- A line as a command with arguments in braces, in which the word is an argument of its own. -/
def commandLine (style : Style) (source : Source) (reference : Text) (fields : Fields) : Text :=
  let argument (span : Span) : Text := '\x7b' :: style.write source.text span ++ ['\x7d']
  let whole := fields.keyAfter.span
  let middle := skipSomething source.grammar source.text whole.last whole.first
  '\\' :: style.command ++ ' ' :: argument fields.tail.span ++ argument fields.before.span ++
    argument { whole with last := middle } ++ argument { whole with first := middle } ++
    argument fields.head.span ++ (if style.hasReferences then '\x7b' :: reference ++ ['\x7d'] else [])

/-- The line for an occurrence. -/
def line (style : Style) (source : Source) (longest : Nat) (reference : Text) (occurrence : Occurrence) : Text :=
  let fields := source.fields style longest occurrence
  let reference := reference.flatMap style.writeChar
  match style.form with
  | .plain => style.plainLine source.text reference fields
  | .requests => style.requestLine source.text reference fields
  | .commands => style.commandLine source reference fields

end Style

end Permuted

end Pipework.Tool
