import Pipework.Shell.Pattern
import Pipework.Tool.Option
import Pipework.Tool.Path
import Pipework.Tool.Quantity
import Pipework.Tool.Running
import Pipework.Tool.Search.Display

set_option autoImplicit false

/-!
The search for lines that match one of some patterns.
-/

namespace Pipework.Tool.Search

open Kernel

/-- What is put out about the lines that were found. -/
inductive Report where
  | lines
  | count
  /-- Names of files with such lines. -/
  | namesFound
  /-- Names of files without such lines. -/
  | namesMissing
  | nothing
  deriving DecidableEq, Repr

/-- What is done with files that do not look like text. -/
inductive BinaryUse where
  /-- It is said that something was found there, and not what. -/
  | mention
  | takeAsText
  | pass
  deriving DecidableEq, Repr

/-- What is done with directories. -/
inductive DirectoryUse where
  | read
  | descend
  | skip
  deriving DecidableEq, Repr

/-- A rule about which files are left out, or are the only ones that are not. -/
structure NameRule where
  includes : Bool
  pattern : Text
  deriving DecidableEq, Repr

/-- How a search is done. -/
structure Style where
  criterion : Criterion
  display : Display
  report : Report := .lines
  /-- Whether the search ends with the first line that is found, whatever follows. -/
  endsAtOnce : Bool := false
  silent : Bool := false
  most : Option Nat := none
  /-- How many lines around those that were found are shown, if any are. -/
  linesBefore : Option Nat := none
  linesAfter : Option Nat := none
  /-- What stands between groups of lines. -/
  separator : Option Text := some ['-', '-']
  binary : BinaryUse := .mention
  directories : DirectoryUse := .read
  /-- Whether the names of files in directories are shown. -/
  namesBelow : Bool := true
  /-- Whether links in directories are followed. -/
  followsLinks : Bool := false
  skipsDevices : Bool := false
  rules : List NameRule := []
  directoryRules : List NameRule := []
  inputName : Text := "(standard input)".toList

/-- What was found in a text. -/
structure Finding where
  /-- How many lines were found. -/
  count : Nat := 0
  /-- How many characters there are up to the end of the last one. -/
  place : Nat := 0
  deriving DecidableEq, Repr

/-- Whether the wanted number of lines was found. -/
def Style.isDone (style : Style) (finding : Finding) : Bool := style.most.any (· ≤ finding.count)

/-- The state of showing lines: the number of the last one that was shown, how many more are shown, and the lines
since then in reverse order. -/
structure Showing where
  shown : Nat := 0
  pending : Nat := 0
  /-- Whether a group of lines was shown before. -/
  used : Bool := false
  passed : List NumberedLine := []

/-- Shows a line that was found, with the lines before it. -/
def showFound (style : Style) (put : Bool → NumberedLine → Work Unit) (showing : Showing) (line : NumberedLine) :
    Work Showing := do
  let context := (showing.passed.take (style.linesBefore.getD 0)).reverse
  let first := line.number - context.length
  let isApart := showing.shown = 0 || first ≠ showing.shown + 1
  if (style.linesBefore.isSome || style.linesAfter.isSome) && showing.used && isApart then
    match style.separator with
    | some separator => Work.put (style.display.painted Palette.mark separator ++ ['\n'])
    | none => pure ()
  context.forM (put false)
  put true line
  return { shown := line.number, pending := style.linesAfter.getD 0, used := true, passed := [] }

/-- Goes through lines, and shows those that are wanted with the lines around them. -/
def showLines (style : Style) (put : Bool → NumberedLine → Work Unit) :
    List NumberedLine → Finding → Showing → Work (Finding × Showing)
  | [], finding, showing => return (finding, showing)
  | line :: later, finding, showing => do
    let pass : Work Showing := do
      if showing.pending ≠ 0 then
        put false line
        return { showing with shown := line.number, pending := showing.pending - 1, passed := [] }
      else return { showing with passed := line :: showing.passed }
    if style.isDone finding then
      if showing.pending = 0 then return (finding, showing)
      else showLines style put later finding (← pass)
    else if style.criterion.wants line.text then
      let showing ← showFound style put showing line
      let finding : Finding :=
        { count := finding.count + 1, place := line.place + line.text.length + 1 }
      showLines style put later finding showing
    else showLines style put later finding (← pass)

/-- Counts lines that are wanted, up to some number of them. -/
def countLines (criterion : Criterion) (most : Option Nat) : List NumberedLine → Finding → Finding
  | [], finding => finding
  | line :: later, finding =>
    if most.any (· ≤ finding.count) then finding
    else if criterion.wants line.text then
      countLines criterion most later { count := finding.count + 1, place := line.place + line.text.length + 1 }
    else countLines criterion most later finding

/-- The most digits of a place in a file whose size is not known. -/
def unknownWidth : Nat := 19

/-- How wide numbers are shown for a file of a size. -/
def numberWidth (style : Style) (size : Option Nat) : Nat :=
  if !style.display.aligned then 0
  else
    match size with
    | some size => (number (size + if style.display.showsLines then 1 else 0)).length
    | none => unknownWidth

/-- Searches a text. Gives what was found, and whether a group of lines was shown by then. -/
def searchText (style : Style) (name : Text) (size : Option Nat) (text : Text) (used : Bool) :
    Work (Finding × Bool) := do
  let last := style.display.last
  let isBinary := style.binary ≠ .takeAsText && text.contains '\x00' && last = '\n'
  let text :=
    if isBinary then
      if style.binary = .pass then [] else text.map fun char => if char = '\x00' then '\n' else char
    else text
  let lines := numberLines last text
  let few (most : Option Nat) : Finding := countLines style.criterion most lines {}
  match style.report with
  | .count => do
    let finding := few style.most
    let head : Text :=
      if style.display.showsNames then style.display.shownFile name ++ style.display.behindName ':' else []
    Work.putLine (head ++ number finding.count)
    return (finding, used)
  | .nothing => return (few (some 1), used)
  | .namesFound | .namesMissing => do
    let finding := few (some (min 1 (style.most.getD 1)))
    if (finding.count ≠ 0) = (style.report = .namesFound) then
      Work.put (style.display.shownFile name ++ [if style.display.endsNames then '\x00' else '\n'])
    return (finding, used)
  | .lines =>
    if isBinary then
      let finding := few (some 1)
      if finding.count ≠ 0 && !style.silent then Work.complain (name ++ ": binary file matches".toList)
      return (finding, used)
    else
      let width := numberWidth style size
      let put (selected : Bool) (line : NumberedLine) : Work Unit :=
        Work.put (style.display.shownLine style.criterion name width selected line)
      let (finding, showing) ← showLines style put lines {} { used }
      return (finding, showing.used)

/-- Complains about a file that cannot be searched. -/
def complainOf (style : Style) (name : Text) (errno : Errno) : Work Unit := do
  if !style.silent then Work.complain (because name errno)
  Work.noteFailure

/-- What has come of a search so far: whether something was found, and whether a group of lines was shown. -/
structure Outcome where
  found : Bool := false
  used : Bool := false

/-- Searches an open file. -/
def searchOpened (style : Style) (name : Text) (descriptor : Nat) (outcome : Outcome) : Work Outcome := do
  let facts ← Work.factsOf descriptor
  let isRegular := facts.any (·.kind = .regular)
  let isOutput ← match facts, ← Work.factsOf 1 with
    | some source, some target =>
      pure (isRegular && source.number = target.number && style.report = .lines && style.most ≠ some 1)
    | _, _ => pure false
  if isOutput then
    if !style.silent then Work.complain (name ++ ": input file is also the output".toList)
    Work.noteFailure
    return outcome
  else
    let text ← match ← Work.readToEnd descriptor stepLimit [] with
      | .ok text => pure text
      | .error errno => do
        complainOf style name errno
        pure []
    let size := if isRegular then facts.map FileFacts.size else none
    let (finding, used) ← searchText style name size text outcome.used
    let listsNames := style.report = .namesFound || style.report = .namesMissing
    if descriptor = 0 && style.isDone finding && !listsNames && !style.endsAtOnce then
      Work.giveBack (text.length - finding.place)
    return { found := outcome.found || finding.count ≠ 0, used }

/-- Whether some rule leaves out a name. Where `anywhere` holds, it is enough that a rule fits what follows some
slash. The last rule that fits counts; if none does, names are left out if the first rule is about the only ones
that are not. -/
def isLeftOut (anywhere : Bool) (rules : List NameRule) (name : Text) : Bool :=
  let fits (rule : NameRule) (name : Text) : Bool :=
    Shell.Pattern.matchesAll (Shell.Pattern.ofText (rule.pattern.map fun char => (char, false))) name
  let rec tails : Text → List Text
    | [] => []
    | '/' :: rest => if rest.head? = some '/' then tails rest else rest :: tails rest
    | _ :: rest => tails rest
  let names := name :: if anywhere then tails name else []
  match rules.reverse.find? fun rule => names.any (fits rule) with
  | some rule => !rule.includes
  | none => (rules.head?.map NameRule.includes).getD false

/-- Searches a file, or the files in a directory and below it. -/
def searchFile (style : Style) : Nat → (isOperand : Bool) → (path shown : Text) → Outcome → Work Outcome
  | 0, _, _, _, outcome => return outcome
  | fuel + 1, isOperand, path, shown, outcome => do
    let missed (errno : Errno) : Work Outcome := do
      complainOf style shown errno
      return outcome
    let descends := style.directories = .descend
    match ← Work.facts path (isOperand || style.followsLinks) with
    | .error errno => missed errno
    | .ok facts =>
      let isDirectory := facts.kind = .directory
      let name := if isOperand then path else baseName path
      let rules := if isDirectory then style.directoryRules else style.rules
      let isLeftOut := !(isDirectory && shown.isEmpty) && (descends || !isDirectory) && isLeftOut isOperand rules name
      if isLeftOut || (facts.kind = .link && !isOperand) then return outcome
      else if isDirectory && style.directories = .skip then return outcome
      else if isDirectory && descends then
        match ← Work.names path with
        | .error errno => missed errno
        | .ok names =>
          let style : Style :=
            { style with display := { style.display with showsNames := style.namesBelow } }
          (names.filter (!isDotPath ·)).foldlM (fun outcome name => do
            let inner := joinPath path name
            searchFile style fuel false inner (if shown.isEmpty then name else joinPath shown name) outcome) outcome
      else if (style.skipsDevices || (descends && !isOperand)) && facts.kind ≠ .regular && !isDirectory then
        return outcome
      else
        match ← Work.openAside path .read with
        | .error errno => missed errno
        | .ok descriptor => do
          let outcome ← searchOpened style shown descriptor outcome
          Work.tell (.close descriptor)
          return outcome

/-- Searches what an operand stands for. -/
def searchOperand (style : Style) (outcome : Outcome) (operand : Text) : Work Outcome :=
  if operand = inputOperand then do
    modify ({ · with usesInput := true })
    searchOpened style style.inputName 0 outcome
  else searchFile style Files.depthLimit true operand operand outcome

/-- How the tool is used. -/
def usage (name : Text) : Text :=
  "Usage: ".toList ++ name ++ " [OPTION]... PATTERNS [FILE]...\nTry '".toList ++ name ++
    " --help' for more information.\n".toList

/-- Searches operands until the outcome is known. -/
def searchAll (style : Style) : List Text → Outcome → Work Outcome
  | [], outcome => return outcome
  | operand :: later, outcome => do
    let outcome ← searchOperand style outcome operand
    if style.endsAtOnce && outcome.found then return outcome else searchAll style later outcome

end Search

open Search Kernel

def grepOptions : OptionTable where
  letters := "0123456789A:B:C:D:EFGHILPTUVX:abcd:e:f:hilm:noqRrsuvwxyZz!::\x01:\x02:\x03:\x04:\x05:\x06:\x07:\x08%&"
  names :=
    [("basic-regexp", 'G'), ("extended-regexp", 'E'), ("fixed-regexp", 'F'), ("fixed-strings", 'F'),
      ("perl-regexp", 'P'), ("after-context", 'A'), ("before-context", 'B'), ("binary-files", '\x01'),
      ("line-buffered", '&'), ("byte-offset", 'b'), ("context", 'C'), ("color", '!'), ("colour", '!'),
      ("count", 'c'), ("devices", 'D'), ("directories", 'd'), ("exclude", '\x05'), ("exclude-from", '\x06'),
      ("exclude-dir", '\x07'), ("file", 'f'), ("files-with-matches", 'l'), ("files-without-match", 'L'),
      ("group-separator", '\x03'), ("include", '\x04'), ("ignore-case", 'i'), ("no-ignore-case", '%'),
      ("initial-tab", 'T'), ("label", '\x02'), ("line-number", 'n'), ("line-regexp", 'x'), ("max-count", 'm'),
      ("no-filename", 'h'), ("no-group-separator", '\x08'), ("no-messages", 's'), ("null", 'Z'),
      ("null-data", 'z'), ("only-matching", 'o'), ("quiet", 'q'), ("recursive", 'r'),
      ("dereference-recursive", 'R'), ("regexp", 'e'), ("invert-match", 'v'), ("silent", 'q'), ("text", 'a'),
      ("binary", 'U'), ("unix-byte-offsets", 'u'), ("with-filename", 'H'), ("word-regexp", 'w')]

/-- The number that the last digits among options stand for. -/
def digitsGiven (given : List Given) : Option Nat :=
  let back := given.reverse.dropWhile fun option => !isDigit option.letter
  natural? ((back.takeWhile fun option => isDigit option.letter).map Given.letter).reverse

/-- The number of lines that an argument stands for. -/
def contextLength (text : Text) : Work Nat :=
  match readQuantity? {} text with
  | some reading =>
    if reading.rest.isEmpty then return reading.value
    else Work.fail (text ++ ": invalid context length argument".toList)
  | none => Work.fail (text ++ ": invalid context length argument".toList)

/-- The limit that an argument sets; one that is negative is none. -/
def maxCount (text : Text) : Work (Option Nat) :=
  let unsigned := text.dropWhile isSpace
  let isNegative := unsigned.head? = some '-'
  match readQuantity? {} (if isNegative then unsigned.tail else text) with
  | some reading =>
    if reading.rest.isEmpty then return if isNegative && reading.value ≠ 0 then none else some reading.value
    else Work.fail "invalid max count".toList
  | none => Work.fail "invalid max count".toList

/-- Words for whether colors are shown; only on a terminal if neither is said. -/
def colorWords : List (String × Option Bool) :=
  [("always", some true), ("yes", some true), ("force", some true), ("never", some false), ("no", some false),
    ("none", some false), ("auto", none), ("tty", none), ("if-tty", none)]

/-- What is done with directories, by name. -/
def directoryWords : List (String × DirectoryUse) := [("read", .read), ("recurse", .descend), ("skip", .skip)]

/-- What is done with files that do not look like text, by name. -/
def binaryWords : List (String × BinaryUse) :=
  [("binary", .mention), ("text", .takeAsText), ("without-match", .pass)]

/-- Whether the use of a device is known by a name. -/
def isDeviceWord (text : Text) : Bool := text = "read".toList || text = "skip".toList

/-- Checks an option when it is met. -/
def checkSearchOption (option : Given) : Work Unit := do
  let argument := option.argument.getD []
  match option.letter with
  | 'A' | 'B' | 'C' => do
    let _ ← contextLength argument
  | 'm' => do
    let _ ← maxCount argument
  | 'D' => if !isDeviceWord argument then Work.fail "unknown devices method".toList
  | 'd' => do
    let _ ← chooseFrom "--directories" directoryWords argument
  | '\x01' =>
    if (binaryWords.lookup (String.ofList argument)).isNone then Work.fail "unknown binary-files type".toList
  | '!' =>
    match option.argument with
    | some word => if (colorWords.lookup (String.ofList word)).isNone then Work.leaveMisused
    | none => return ()
  | 'u' => Work.complain "warning: --unix-byte-offsets (-u) is obsolete".toList
  | _ => return ()

/-- The patterns that options and operands give, and the operands that are left. -/
def givenPatterns (given : List Given) (operands : List Text) : Work (List Text × List Text) := do
  let fromOptions ← given.filterMapM fun option => do
    match option.letter, option.argument with
    | 'e', some text => return some (text ++ ['\n'])
    | 'f', some path =>
      match ← Work.readOperand path with
      | .ok text => return some (if text.isEmpty || text.getLast? = some '\n' then text else text ++ ['\n'])
      | .error fault => Work.fail (because path fault.errno)
    | _, _ => return none
  if hasLetter given 'e' || hasLetter given 'f' then return (fromOptions, operands)
  else
    match operands with
    | [] => Work.leaveMisused
    | pattern :: operands => return ([pattern ++ ['\n']], operands)

/-- Prints the lines that match a pattern. -/
def grep (environment : Variables) (arguments : List Text) : Work Unit := do
  let (given, operands) ← readOptionsWith checkSearchOption grepOptions arguments
  let has (letter : Char) : Bool := hasLetter given letter
  let kinds := ((given.map Given.letter).filter ['E', 'F', 'G', 'P'].contains).eraseDups
  if 1 < kinds.length then Work.fail "conflicting matchers specified".toList
  let (texts, operands) ← givenPatterns given operands
  let lines := texts.flatMap fun text => (splitAfter '\n' text).map chomp
  let matchesNothing := lines.isEmpty
  let isEmpty := matchesNothing || lines = [[]]
  let inverted := has 'v' != matchesNothing
  let written : Writing :=
    match kinds.head? with
    | some 'E' | some 'P' => .extended
    | some 'F' => .literal
    | _ => .basic
  let patterns ← readPatterns written (if matchesNothing then [[]] else lines.eraseDups)
  let most ← (argumentOf? given 'm').mapM maxCount
  let most := most.join
  let wholeLines := has 'x' && !matchesNothing
  let wholeWords := has 'w' && !matchesNothing
  let around := (← (argumentOf? given 'C').mapM contextLength) <|> digitsGiven given
  let directories : DirectoryUse :=
    match (given.reverse.find? fun option => ['r', 'R', 'd'].contains option.letter) with
    | some { letter := 'd', argument, .. } => (directoryWords.lookup (String.ofList (argument.getD []))).getD .read
    | some _ => .descend
    | none => .read
  let descends := directories == .descend
  let outputIsNothing ← match ← Work.factsOf 1, ← Work.facts "/dev/null".toList true with
    | some target, .ok nothing => pure (target.number = nothing.number && target.kind = nothing.kind)
    | _, _ => pure false
  let report : Search.Report :=
    if has 'q' || outputIsNothing then .nothing
    else
      match lastOf? given ['l', 'L'] with
      | some 'l' => .namesFound
      | some _ => .namesMissing
      | none => if has 'c' then .count else .lines
  let color := ((argumentOf? given '!').bind fun word => (colorWords.lookup (String.ofList word)).join).getD false
  let palette : Palette :=
    match environment.lookup "GREP_COLORS".toList with
    | some text => Palette.assignAll {} ((splitAfter ':' (text ++ [':'])).map (chompOf ':'))
    | none => {}
  let fromFiles ← given.filterMapM fun option => do
    match option.letter, option.argument with
    | '\x04', some pattern => return some [(⟨true, pattern⟩ : NameRule)]
    | '\x05', some pattern => return some [⟨false, pattern⟩]
    | '\x06', some path =>
      match ← Work.readOperand path with
      | .ok text => return some ((plainLines text).map (⟨false, ·⟩))
      | .error fault => Work.fail (because path fault.errno)
    | _, _ => return none
  let directoryRules := given.filterMap fun option =>
    if option.letter = '\x07' then option.argument.map fun pattern => (⟨false, trimSlashes pattern⟩ : NameRule)
    else none
  let separator := (given.reverse.find? fun option => option.letter = '\x03' || option.letter = '\x08')
  let endsWithZero := has 'z'
  let binary :=
    match given.reverse.find? fun option => ['a', 'I', '\x01'].contains option.letter with
    | some { letter := 'a', .. } => .takeAsText
    | some { letter := 'I', .. } => .pass
    | some { argument, .. } => (binaryWords.lookup (String.ofList (argument.getD []))).getD .mention
    | none => .mention
  let mayShowNames := 1 < operands.length
  let style : Search.Style :=
    { criterion :=
        { patterns, inverted, wholeLines, wholeWords
          matching := { foldCase := (lastOf? given ['i', 'y', '%']).any (· ≠ '%') } }
      display :=
        { showsNames := (lastOf? given ['h', 'H']).elim mayShowNames (· = 'H')
          endsNames := has 'Z', showsLines := has 'n', showsPlaces := has 'b', aligned := has 'T'
          onlyMatched := has 'o'
          palette := if color then some palette else none
          last := if endsWithZero then '\x00' else '\n' }
      report, endsAtOnce := has 'q', silent := has 's', most, binary, directories
      namesBelow := lastOf? given ['h', 'H'] ≠ some 'h'
      linesBefore := (← (argumentOf? given 'B').mapM contextLength) <|> around
      linesAfter := (← (argumentOf? given 'A').mapM contextLength) <|> around
      separator := match separator with
        | some { argument := some text, .. } => some text
        | some _ => none
        | none => some ['-', '-']
      followsLinks := has 'R'
      skipsDevices := argumentOf? given 'D' = some "skip".toList
      rules := fromFiles.flatten, directoryRules
      inputName := (argumentOf? given '\x02').getD "(standard input)".toList }
  if (most = some 0 || (isEmpty && inverted && !wholeLines && !wholeWords)) && report ≠ .namesMissing then
    Work.leaveWith 1
  let outcome ← if operands.isEmpty && descends then searchFile style Files.depthLimit true ['.'] [] {}
    else searchAll style (if operands.isEmpty then [inputOperand] else operands) {}
  let failed := (← get).status ≠ 0
  if has 'q' && outcome.found then Work.leaveWith 0
  if !failed && !outcome.found then modify ({ · with status := 1 })

/-- The tool under an old name that stands for an option. -/
def oldGrep (option : Text) (environment : Variables) (arguments : List Text) : Work Unit := do
  modify ({ · with name := "grep".toList })
  grep environment (option :: arguments)

end Pipework.Tool
