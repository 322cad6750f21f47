import Pipework.Regex.Syntax
import Pipework.Tool.Input
import Pipework.Tool.Option

set_option autoImplicit false

/-!
Lines with numbers in front of them. Marks divide the text into pages with a header, a body and a footer, each of
which has its own rule of which lines have numbers.
-/

namespace Pipework.Tool

/-- Which lines have numbers. -/
inductive NumberingRule where
  | all
  | notEmpty
  | none
  | matching (regex : Regex)

/-- How numbers are aligned. -/
inductive NumberAlignment where
  | left
  | right
  | zeros
  deriving DecidableEq, Repr

/-- How lines are numbered. -/
structure Numbering where
  header : NumberingRule := .none
  body : NumberingRule := .notEmpty
  footer : NumberingRule := .none
  mark : Text := ['\\', ':']
  start : Int := 1
  increment : Int := 1
  /-- How many empty lines count as one. -/
  joined : Nat := 1
  alignment : NumberAlignment := .right
  separator : Text := ['\t']
  width : Nat := 6
  /-- Whether each part of a page starts again. -/
  restarts : Bool := true

/-- How far numbering has come. -/
structure NumberingState where
  rule : NumberingRule
  next : Int
  /-- The number of empty lines since the last one that had a number, itself included. -/
  emptyLines : Nat := 1

namespace Numbering

/-- A number in its column. -/
def showNumber (numbering : Numbering) (value : Int) : Text :=
  let digits := number value.natAbs
  let sign : Text := if value < 0 then ['-'] else []
  match numbering.alignment with
  | .left => padRight numbering.width (sign ++ digits)
  | .right => padLeft numbering.width (sign ++ digits)
  | .zeros => sign ++ List.replicate (numbering.width - sign.length - digits.length) '0' ++ digits

/-- A line with its number. -/
def withNumber (numbering : Numbering) (state : NumberingState) (line : Text) : NumberingState × Text :=
  ({ state with next := state.next + numbering.increment },
    numbering.showNumber state.next ++ numbering.separator ++ line ++ ['\n'])

/-- A line without a number. -/
def withoutNumber (numbering : Numbering) (line : Text) : Text :=
  List.replicate (numbering.width + numbering.separator.length) ' ' ++ line ++ ['\n']

/-- The rule of the part of a page that a line begins. -/
def partOf? (numbering : Numbering) (line : Text) : Option NumberingRule :=
  let mark := numbering.mark
  if mark.isEmpty then Option.none
  else if line = mark ++ mark ++ mark then some numbering.header
  else if line = mark ++ mark then some numbering.body
  else if line = mark then some numbering.footer
  else Option.none

/-- Shows one line. -/
def step (numbering : Numbering) (state : NumberingState) (line : Text) : NumberingState × Text :=
  match numbering.partOf? line with
  | some rule =>
    ({ state with rule, next := if numbering.restarts then numbering.start else state.next }, ['\n'])
  | Option.none =>
    match state.rule with
    | .all =>
      if numbering.joined ≤ 1 then numbering.withNumber state line
      else if !line.isEmpty || state.emptyLines = numbering.joined then
        numbering.withNumber { state with emptyLines := 1 } line
      else ({ state with emptyLines := state.emptyLines + 1 }, numbering.withoutNumber line)
    | .notEmpty =>
      if line.isEmpty then (state, numbering.withoutNumber line) else numbering.withNumber state line
    | .none => (state, numbering.withoutNumber line)
    | .matching regex =>
      if regex.occursIn {} line then numbering.withNumber state line
      else (state, numbering.withoutNumber line)

/-- Shows lines one after the other. -/
def showLines (numbering : Numbering) (state : NumberingState) (lines : List Text) :
    NumberingState × List Text :=
  let (state, shown) := lines.foldl (fun (state, shown) line =>
    let (state, text) := numbering.step state line
    (state, text :: shown)) ((state, []) : NumberingState × List Text)
  (state, shown.reverse)

end Numbering

/-- Reads a rule. -/
def readNumberingRule (part : String) (text : Text) : Work NumberingRule := do
  match text with
  | ['a'] => return .all
  | ['t'] => return .notEmpty
  | ['n'] => return .none
  | 'p' :: pattern =>
    match Regex.read false pattern with
    | .ok (regex, _) => return .matching regex
    | .error fault => Work.fail fault.message.toList
  | _ => do
    Work.failUsage ("invalid ".toList ++ part.toList ++ " numbering style: ".toList ++ quoted text)

/-- A number that may have a sign. -/
def integer? (text : Text) : Option Int :=
  match text with
  | '-' :: digits => (natural? digits).map fun value => -(value : Int)
  | '+' :: digits => (natural? digits).map Int.ofNat
  | digits => (natural? digits).map Int.ofNat

/-- Takes on an option. -/
def Numbering.addOption (numbering : Numbering) (option : Given) : Work Numbering := do
  let text := option.argument.getD []
  let readInteger (complaint : String) : Work Int := do
    match integer? text with
    | some value => return value
    | Option.none => Work.fail (complaint.toList ++ ": ".toList ++ quoted text)
  let readPositive (complaint : String) : Work Nat := do
    let value ← readInteger complaint
    if value < 1 then
      Work.fail (complaint.toList ++ ": ".toList ++ quoted text ++ ": Numerical result out of range".toList)
    else return value.toNat
  match option.letter with
  | 'b' => return { numbering with body := ← readNumberingRule "body" text }
  | 'h' => return { numbering with header := ← readNumberingRule "header" text }
  | 'f' => return { numbering with footer := ← readNumberingRule "footer" text }
  | 'd' => return { numbering with mark := if text.length = 1 then text ++ [':'] else text }
  | 'v' => return { numbering with start := ← readInteger "invalid starting line number" }
  | 'i' => return { numbering with increment := ← readInteger "invalid line number increment" }
  | 'l' => return { numbering with joined := ← readPositive "invalid line number of blank lines" }
  | 'w' => return { numbering with width := ← readPositive "invalid line number field width" }
  | 's' => return { numbering with separator := text }
  | 'p' => return { numbering with restarts := false }
  | 'n' =>
    match String.ofList text with
    | "ln" => return { numbering with alignment := .left }
    | "rn" => return { numbering with alignment := .right }
    | "rz" => return { numbering with alignment := .zeros }
    | _ => Work.failUsage ("invalid line numbering format: ".toList ++ quoted text)
  | _ => return numbering

/-- Numbers lines. -/
def nl (arguments : List Text) : Work Unit := do
  let table : OptionTable :=
    { letters := "b:d:f:h:i:l:n:ps:v:w:"
      names :=
        [("header-numbering", 'h'), ("body-numbering", 'b'), ("footer-numbering", 'f'),
          ("starting-line-number", 'v'), ("line-increment", 'i'), ("no-renumber", 'p'),
          ("join-blank-lines", 'l'), ("number-separator", 's'), ("number-width", 'w'),
          ("number-format", 'n'), ("section-delimiter", 'd')] }
  let (given, operands) ← readOptions table arguments
  let numbering ← given.foldlM Numbering.addOption ({} : Numbering)
  let _ ← (if operands.isEmpty then [inputOperand] else operands).foldlM (fun state operand => do
    match ← Work.readOperand operand with
    | .ok content => do
      let (state, shown) := numbering.showLines state (plainLines content)
      shown.forM Work.put
      return state
    | .error fault => do
      Work.report (inputComplaint operand fault)
      return state) { rule := numbering.body, next := numbering.start }
  Work.closeInput "-"

end Pipework.Tool
