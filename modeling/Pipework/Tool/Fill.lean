import Pipework.Tool.Input
import Pipework.Tool.Option

set_option autoImplicit false

/-!
The filling of paragraphs. Words are put into lines so that the whole paragraph costs least, where a line costs
more the farther it is from the length aimed at, and more if it breaks at a bad place. `fillParagraph` finds the
best breaks from the end of the paragraph to its start.
-/

namespace Pipework.Tool

namespace Fill

/-- A word of a paragraph. -/
structure Item where
  text : Text
  /-- How many blanks follow it on the same line. -/
  space : Nat
  /-- Whether it ends like a sentence. -/
  period : Bool
  /-- Whether it ends with punctuation. -/
  punctuated : Bool
  /-- Whether a sentence ends with it. -/
  final : Bool
  deriving DecidableEq, Repr

/-- Whether a word opens something. -/
def Item.opens (item : Item) : Bool := item.text.head?.any "(['\x60\x22".toList.contains

/-- A line that was read. -/
structure Line where
  indent : Nat
  items : List Item
  /-- Whether blanks were counted across a tab in front of the words, and among them. -/
  tabInFront : Bool
  tabInside : Bool

/-- Which lines form a paragraph, and how its lines begin. -/
inductive Shape where
  | plain
  | crown
  | tagged
  | alone
  deriving DecidableEq, Repr

/-- How paragraphs are filled. -/
structure Style where
  shape : Shape := .plain
  /-- Whether blanks between words are made uniform. -/
  uniform : Bool := false
  /-- No line is as long as this, unless it is a single word. -/
  width : Nat := 75
  /-- The length aimed at. -/
  goal : Nat := 70

/-- How far apart the stops of tabs are. -/
def tabWidth : Nat := 8

/-- Passes over blanks from a column on. Gives the column behind them, whether there was a tab, and the rest. -/
def passBlanks : Nat → Bool → Text → Nat × Bool × Text
  | column, tab, ' ' :: rest => passBlanks (column + 1) tab rest
  | column, _, '\t' :: rest => passBlanks ((column / tabWidth + 1) * tabWidth) true rest
  | column, tab, rest => (column, tab, rest)

/-- Whether a word ends like a sentence, leaving out closing signs behind it. -/
def endsSentence (word : Text) : Bool :=
  match word.reverse with
  | [] => false
  | last :: before =>
    let back := (last :: before).dropWhile ")]'\x22".toList.contains
    (if back.isEmpty then word.head? else back.head?).any ".?!".toList.contains

/-- Whether a character is punctuation. -/
def isPunctuation (char : Char) : Bool := '!' ≤ char && char ≤ '~' && !char.isAlphanum

/-- The words from a column on, and whether there was a tab among them. -/
def readItems (uniform ended : Bool) : Nat → Nat → Text → List Item × Bool
  | 0, _, _ => ([], false)
  | _, _, [] => ([], false)
  | fuel + 1, column, first :: rest =>
    let word := first :: rest.takeWhile (!isSpace ·)
    let behind := column + word.length
    let (next, tab, rest) := passBlanks behind false ((first :: rest).drop word.length)
    let isLast := rest.isEmpty
    let period := endsSentence word
    let final := (isLast && !ended) || (period && (isLast || 1 < next - behind))
    let space := if isLast || uniform then (if final then 2 else 1) else next - behind
    let punctuated := word.getLast?.any isPunctuation
    let (later, tabLater) := readItems uniform ended fuel next rest
    ({ text := word, space, period, punctuated, final } :: later, tab || tabLater)

/-- Reads a line; `ended` tells whether a line feed ended it. -/
def readLine (style : Style) (ended : Bool) (text : Text) : Line :=
  let (indent, tabInFront, rest) := passBlanks 0 false text
  let (items, tabInside) := readItems style.uniform ended (rest.length + 1) indent rest
  { indent, items, tabInFront, tabInside }

/-- The best way to go on from a word. -/
structure Break where
  /-- What the lines from here on cost. -/
  cost : Int
  /-- How many words stand on the line, and how long it is. -/
  count : Nat
  length : Nat
  /-- How many lines there are from here on. -/
  lines : Nat

/-- What a line costs by its distance from the length aimed at. -/
def distanceCost (distance : Int) : Int := (distance * 10) * (distance * 10)

/-- What a line of a given length costs if another one follows. The last line costs nothing. -/
def lineCost (goal : Nat) (length : Nat) (next : Break) : Int :=
  if next.lines = 0 then 0
  else
    distanceCost ((goal : Int) - length) +
      (if next.lines = 1 then 0 else distanceCost ((length : Int) - next.length) / 2)

/-- What it costs to begin a line with a word, given the word before it and the one before that. -/
def startCost (item : Item) (before before2 : Option Item) : Int :=
  let byEnding : Int :=
    match before with
    | none => 0
    | some last =>
      if last.period then (if last.final then -2500 else 360000)
      else if last.punctuated then -1600
      else if before2.any Item.final then 40000 / (last.text.length + 2 : Nat)
      else 0
  let byWord : Int :=
    if item.opens then -1600 else if item.final then 22500 / (item.text.length + 2 : Nat) else 0
  4900 + byEnding + byWord

/-- Looks for the best end of a line that has words already. `breaks` are the ways to go on from the next word
and from those behind it. -/
def bestEnd (style : Style) :
    (count length space : Nat) → List Item → List Break → Option Break → Option Break
  | _, _, _, _, [], best => best
  | count, length, space, items, next :: breaks, best =>
    let cost := lineCost style.goal length next + next.cost
    let best :=
      if best.all fun found => cost < found.cost then
        some { cost, count, length, lines := next.lines + 1 }
      else best
    match items with
    | [] => best
    | item :: later =>
      let longer := length + space + item.text.length
      if longer < style.width then bestEnd style (count + 1) longer item.space later breaks best
      else best

/-- The best ways to go on from each word, and the one from the end. `before` are the words in front of them, the
latest first; lines begin at `indent`, and the first one at `firstIndent`. -/
def bestBreaks (style : Style) (firstIndent indent : Nat) : (before : List Item) → List Item → List Break
  | _, [] => [{ cost := 0, count := 0, length := 0, lines := 0 }]
  | before, item :: later =>
    let breaks := bestBreaks style firstIndent indent (item :: before) later
    let start := if before.isEmpty then firstIndent else indent
    let own := bestEnd style 1 (start + item.text.length) item.space later breaks none
    let extra := startCost item before.head? before.tail.head?
    (match own with
    | some best => { best with cost := best.cost + extra }
    | none => { cost := extra, count := 1, length := 0, lines := 1 }) :: breaks

/-- Blanks from one column to another, as tabs where they fit if tabs are in use. -/
def blanks (tabs : Bool) (column target : Nat) : Text :=
  let stop := target / tabWidth * tabWidth
  if tabs && column + 1 < stop then
    List.replicate (stop / tabWidth - column / tabWidth) '\t' ++ List.replicate (target - stop) ' '
  else List.replicate (target - column) ' '

/-- A line of words from a column on. -/
def showItems (tabs : Bool) : Nat → List Item → Text
  | _, [] => ['\n']
  | _, [item] => item.text ++ ['\n']
  | column, item :: later =>
    let behind := column + item.text.length
    item.text ++ blanks tabs behind (behind + item.space) ++ showItems tabs (behind + item.space) later

/-- The lines of a paragraph, given how many words each takes. -/
def showLines (tabs : Bool) (indent : Nat) : (next : Nat) → Nat → List Item → List Break → Text
  | _, 0, _, _ => []
  | _, _, [], _ => []
  | _, _, _, [] => []
  | start, fuel + 1, items, best :: breaks =>
    let count := max 1 best.count
    blanks tabs 0 start ++ showItems tabs start (items.take count) ++
      showLines tabs indent indent fuel (items.drop count) ((best :: breaks).drop count)

/-- Fills a paragraph. -/
def fillParagraph (style : Style) (tabs : Bool) (firstIndent indent : Nat) (items : List Item) : Text :=
  let last := items.getLast?.map fun item => { item with period := true, final := true }
  let items := items.dropLast ++ last.toList
  showLines tabs indent firstIndent (items.length + 1) items (bestBreaks style firstIndent indent [] items)

/-- How far the lines of a paragraph are indented behind the first one, given the line that follows that one. The
former value counts for tagged paragraphs without such lines. -/
def otherIndent (shape : Shape) (former first : Nat) (next : Option Line) : Nat :=
  let same := next.filter fun line => !line.items.isEmpty
  match shape with
  | .plain | .alone => first
  | .crown => (same.map Line.indent).getD first
  | .tagged =>
    match same with
    | some line =>
      if line.indent ≠ first then line.indent
      else if former ≠ first then former
      else taggedIndent first
    | none => if former ≠ first then former else taggedIndent first
where
  /-- An indent that differs from another one. -/
  taggedIndent (first : Nat) : Nat := if first = 0 then 3 else 0

/-- How many lines behind the first one belong to the same paragraph. -/
def countRest (shape : Shape) (first indent : Nat) (later : List Line) : Nat :=
  let fits (line : Line) : Bool := !line.items.isEmpty && line.indent = indent
  match shape with
  | .alone => 0
  | .tagged =>
    if (later.head?.filter fun line => !line.items.isEmpty).all fun line => line.indent = first then 0
    else (later.takeWhile fits).length
  | _ => (later.takeWhile fits).length

/-- Fills all paragraphs. Tabs are in use as soon as one was read. -/
def fillAll (style : Style) : Nat → (tabs : Bool) → (former : Nat) → List Line → Text
  | 0, _, _, _ => []
  | _, _, _, [] => []
  | fuel + 1, tabs, former, line :: later =>
    let tabs := tabs || line.tabInFront
    if line.items.isEmpty then '\n' :: fillAll style fuel tabs former later
    else
      let indent := otherIndent style.shape former line.indent later.head?
      let count := countRest style.shape line.indent indent later
      let own := line :: later.take count
      let rest := later.drop count
      let tabs := tabs || own.any (fun line => line.tabInFront || line.tabInside) || rest.head?.any Line.tabInFront
      fillParagraph style tabs line.indent indent (own.flatMap Line.items) ++ fillAll style fuel tabs indent rest

/-- Fills the paragraphs of a text. -/
def fillText (style : Style) (text : Text) : Text :=
  let read := (lines text).map fun line => readLine style (line.getLast? = some '\n') (chomp line)
  fillAll style (read.length + 1) false 0 read

end Fill

/-- What is said of an operand whose paragraphs cannot be filled. -/
def fmtComplaint : InputComplaint := fun operand fault =>
  match fault with
  | .unopened errno => because ("cannot open ".toList ++ inQuotes operand ++ " for reading".toList) errno
  | .unread _ => "read error".toList

/-- Fills paragraphs. -/
def fmt (arguments : List Text) : Work Unit := do
  let table : OptionTable :=
    { letters := "ctsuw:g:"
      names :=
        [("crown-margin", 'c'), ("tagged-paragraph", 't'), ("split-only", 's'), ("uniform-spacing", 'u'),
          ("width", 'w'), ("goal", 'g')] }
  let arguments :=
    match arguments with
    | ('-' :: digit :: digits) :: later =>
      if (digit :: digits).all isDigit then ['-', 'w'] :: (digit :: digits) :: later else arguments
    | _ => arguments
  let (given, operands) ← readOptions table arguments
  let size (letter : Char) (most : Nat) : Work (Option Nat) :=
    (argumentOf? given letter).mapM fun text =>
      match natural? text with
      | some value =>
        if value ≤ most then return value
        else Work.fail ("invalid width: ".toList ++ quoted text ++ ": Numerical result out of range".toList)
      | none => Work.fail ("invalid width: ".toList ++ quoted text)
  let width ← size 'w' 2500
  let goal ← size 'g' (width.getD 75)
  let width := width.getD (goal.elim 75 (· + 10))
  let style : Fill.Style :=
    { shape :=
        if hasLetter given 's' then .alone
        else if hasLetter given 'c' then .crown
        else if hasLetter given 't' then .tagged
        else .plain
      uniform := hasLetter given 'u'
      width
      goal := goal.getD (width * 187 / 200) }
  forEachInput fmtComplaint operands fun _ text => Work.put (Fill.fillText style text)
  Work.closeInput "closing standard input"

end Pipework.Tool
