import Pipework.Tool.Option
import Pipework.Tool.Sort.Key

set_option autoImplicit false

/-!
Sorting of lines by keys, and the test whether lines are sorted. Lines that are equal by all keys are compared as
a whole, unless the order in which they come is to be kept.
-/

namespace Pipework.Tool

/-- How lines are sorted. -/
structure SortStyle where
  keys : List SortKey
  separator : Option Char := none
  /-- Whether lines that are equal by all keys keep their order. -/
  stable : Bool := false
  /-- Whether the order of lines as a whole is reversed. -/
  reversed : Bool := false
  /-- Whether only the first of equal lines is kept. -/
  unique : Bool := false
  /-- What shuffled orders depend on. -/
  salt : Text := []
  last : Char := '\n'

namespace SortStyle

def compareByKeys (style : SortStyle) (left right : Text) : Ordering :=
  style.keys.foldl (fun order key => order.then (key.compare style.separator style.salt left right)) .eq

def compare (style : SortStyle) (left right : Text) : Ordering :=
  let byKeys := style.compareByKeys left right
  if (style.stable || style.unique) && !style.keys.isEmpty then byKeys
  else
    let whole := compareText left right
    byKeys.then (if style.reversed then whole.swap else whole)

/-- Leaves out lines that equal the one before them. -/
def dropEqual (style : SortStyle) : List Text → List Text
  | first :: second :: later =>
    if style.compare first second = .eq then dropEqual style (first :: later)
    else first :: dropEqual style (second :: later)
  | lines => lines
termination_by lines => lines.length

/-- Lines in order. -/
def sort (style : SortStyle) (lines : List Text) : List Text :=
  let sorted := lines.mergeSort fun left right => style.compare left right != .gt
  if style.unique then style.dropEqual sorted else sorted

/-- The first of several texts whose next line comes no later than those of the others. -/
def firstSource (style : SortStyle) : List (List Text) → Option (Nat × Text)
  | [] => none
  | source :: later =>
    match source, (firstSource style later).map fun (index, line) => (index + 1, line) with
    | [], found => found
    | line :: _, none => some (0, line)
    | line :: _, some (index, other) =>
      if style.compare line other != .gt then some (0, line) else some (index, other)

/-- Takes lines from several texts, always the least of the next ones. -/
def merge (style : SortStyle) : Nat → List (List Text) → List Text
  | 0, _ => []
  | fuel + 1, sources =>
    match style.firstSource sources with
    | none => []
    | some (index, line) => line :: merge style fuel (sources.modify index List.tail)

/-- A line with marks for the parts by which it was compared. -/
def traced (style : SortStyle) (line : Text) : Text :=
  let settles := !(style.unique || style.stable)
  (line.map fun char => if char = '\t' then '>' else char) ++ '\n' ::
    style.keys.flatMap (·.marks style.separator line) ++
    (if settles || style.keys.isEmpty then partMarks [] line else [])

/-- The first line that comes before the one in front of it, with its number. -/
def disorder? (style : SortStyle) : Nat → List Text → Option (Nat × Text)
  | count, first :: second :: later =>
    let order := style.compare first second
    if order = .gt || (style.unique && order = .eq) then some (count + 2, second)
    else disorder? style (count + 1) (second :: later)
  | _, _ => none

end SortStyle

/-- What is said of an operand that cannot be sorted. -/
def sortComplaint : InputComplaint := fun operand fault =>
  match fault with
  | .unopened errno => because ("cannot read: ".toList ++ shownName operand) errno
  | .unread errno =>
    let verb := if errno = .badDescriptor then "stat failed: " else "read failed: "
    because (verb.toList ++ shownName operand) errno

/-- What is said of output that cannot be written: once when it fails, and once at the end. -/
def sortOutputComplaint : OutputComplaint := fun overflow errno =>
  because ((if overflow then "write" else "fflush").toList ++ " failed: 'standard output'".toList) errno ::
    lateComplaint overflow errno

def sortOptions : OptionTable where
  letters := "bcCdfghik:mMno:rRsS:t:T:uVy:z\x01::\x02:\x03:\x04\x05:\x06:\x07:\x08:\x0b:"
  names :=
    [("ignore-leading-blanks", 'b'), ("check", '\x01'), ("compress-program", '\x03'), ("debug", '\x04'),
      ("dictionary-order", 'd'), ("ignore-case", 'f'), ("files0-from", '\x05'), ("general-numeric-sort", 'g'),
      ("ignore-nonprinting", 'i'), ("key", 'k'), ("merge", 'm'), ("month-sort", 'M'), ("numeric-sort", 'n'),
      ("human-numeric-sort", 'h'), ("version-sort", 'V'), ("random-sort", 'R'), ("random-source", '\x06'),
      ("sort", '\x02'), ("output", 'o'), ("reverse", 'r'), ("stable", 's'), ("batch-size", '\x07'),
      ("buffer-size", 'S'), ("field-separator", 't'), ("temporary-directory", 'T'), ("unique", 'u'),
      ("zero-terminated", 'z'), ("parallel", '\x08')]

/-- The letter behind which a key stands that is given with a plus sign, and with a hyphen for its end. -/
def oldKeyLetter : Char := '\x0b'

/-- The letters that stand for orders with names. -/
def namedOrders : List (String × Char) :=
  [("general-numeric", 'g'), ("human-numeric", 'h'), ("month", 'M'), ("numeric", 'n'), ("random", 'R'),
    ("version", 'V')]

/-- The letters that stand for ways to check. -/
def namedChecks : List (String × Char) := [("quiet", 'C'), ("silent", 'C'), ("diagnose-first", 'c')]

/-- Whether the argument of an option is the next argument. -/
def wantsNext (table : OptionTable) (argument : Text) : Bool :=
  match argument with
  | '-' :: '-' :: name =>
    !name.contains '=' &&
      ((table.matchingNames name).head?.any fun entry => table.kind? entry.2 = some .withArgument)
  | '-' :: letters =>
    match letters.dropWhile fun letter => table.kind? letter = some .plain with
    | [letter] => table.kind? letter = some .withArgument
    | _ => false
  | _ => false

/-- Turns keys that are given with plus signs into arguments of an option. -/
def withoutOldKeys : Nat → List Text → List Text
  | 0, arguments => arguments
  | _, [] => []
  | fuel + 1, argument :: later =>
    match argument with
    | ['-', '-'] => argument :: later
    | '+' :: text =>
      if (oldKey? text).isNone then argument :: withoutOldKeys fuel later
      else
        match later with
        | ('-' :: digit :: ending) :: rest =>
          if isDigit digit then
            ('-' :: oldKeyLetter :: argument ++ '-' :: digit :: ending) :: withoutOldKeys fuel rest
          else ('-' :: oldKeyLetter :: argument) :: withoutOldKeys fuel later
        | _ => ('-' :: oldKeyLetter :: argument) :: withoutOldKeys fuel later
    | _ =>
      if wantsNext sortOptions argument then
        argument :: later.take 1 ++ withoutOldKeys fuel (later.drop 1)
      else argument :: withoutOldKeys fuel later

/-- Reads a key that is given with a plus sign. -/
def readOldKey (text : Text) : Work SortKey := do
  let start := (text.tail.takeWhile (· ≠ '-'))
  let key := (oldKey? start).getD {}
  match text.drop (start.length + 1) with
  | [] => return key
  | ending => readOldEnd key ending

/-- Turns options that name an order or a way to check into letters. -/
def plainSortOption (option : Given) : Work Given := do
  match option.letter, option.argument with
  | '\x01', none => return { letter := 'c' }
  | '\x01', some way => return { letter := ← chooseFrom "--check" namedChecks way }
  | '\x02', some name => return { letter := ← chooseFrom "--sort" namedOrders name }
  | _, _ => return option

/-- Reads the character between fields. -/
def readSeparator (text : Text) : Work Char := do
  match text with
  | [] => Work.fail "empty tab".toList
  | [char] => return char
  | ['\\', '0'] => return '\x00'
  | _ => Work.fail ("multi-character tab ".toList ++ quoted text)

/-- Gives up because of options that exclude each other. -/
def failTogether {α : Type} (letters : Text) : Work α :=
  Work.fail ("options '-".toList ++ letters ++ "' are incompatible".toList)

/-- The keys that options give. -/
def givenKeys (given : List Given) : Work (List SortKey) :=
  given.filterMapM fun option => do
    match option.letter, option.argument with
    | 'k', some text => return some (← readKey text)
    | letter, some text => if letter = oldKeyLetter then return some (← readOldKey text) else return none
    | _, _ => return none

/-- The letter behind a digit at the end of a size that is no factor. -/
def isPlainUnit (letter : Char) : Bool := letter = 'b' || letter = '%'

/-- Makes sure of an argument that says how much memory is used. -/
def checkBufferSize (text : Text) : Work Unit := do
  let known : QuantityLetters := { letters := "EgGkKmMPtTYZ" }
  let refuse (reading : Option QuantityReading) : Work Unit := failQuantity "-S".toList reading text
  match readQuantity? known text with
  | none => refuse none
  | some reading =>
    match reading.rest with
    | [] => if reading.overflows then refuse (some reading)
    | [letter] => if !isPlainUnit letter then refuse (some reading)
    | _ => refuse (some reading)

/-- Makes sure of an argument that says how many files are merged at once. -/
def checkBatchSize (text : Text) : Work Unit := do
  match readQuantity? {} text with
  | some { value, overflows := false, rest := [] } =>
    if value < 2 then
      Work.report ("invalid --batch-size argument ".toList ++ quoted text)
      Work.fail "minimum --batch-size argument is '2'".toList
  | reading => failQuantity "--batch-size".toList reading text

/-- Makes sure of an argument that says how many threads sort. -/
def checkThreads (text : Text) : Work Unit := do
  match readQuantity? {} text with
  | some { value, rest := [], .. } =>
    if value = 0 then Work.fail "number in parallel must be nonzero".toList
  | reading => failQuantity "--parallel".toList reading text

/-- Makes sure that an option that was given more than once has had one argument only. -/
def checkSame (complaint : String) (letter : Char) (given : List Given) : Work Unit := do
  let arguments := (given.filter (·.letter = letter)).filterMap Given.argument
  if arguments.any fun argument => arguments.head? ≠ some argument then Work.fail complaint.toList

/-- Makes sure of an option by itself. -/
def checkSortOption (option : Given) : Work Unit := do
  match option.letter, option.argument with
  | '\x01', some _ | '\x02', some _ =>
    let _ ← plainSortOption option
  | 'k', some text =>
    let _ ← readKey text
  | 't', some text =>
    let _ ← readSeparator text
  | 'S', some text => checkBufferSize text
  | '\x07', some text => checkBatchSize text
  | '\x08', some text => checkThreads text
  | letter, some text =>
    if letter = oldKeyLetter then
      let _ ← readOldKey text
  | _, none => return ()

/-- Makes sure that options do not contradict each other. -/
def checkSortOptions (given : List Given) : Work Unit := do
  let checks := given.filter fun option => option.letter = 'c' || option.letter = 'C'
  if (checks.map Given.letter).eraseDups.length = 2 then failTogether "cC".toList
  checkSame "multiple compress programs specified" '\x03' given
  checkSame "multiple output files specified" 'o' given
  checkSame "multiple random sources specified" '\x06' given
  let separators ← (given.filter (·.letter = 't')).mapM fun option => readSeparator (option.argument.getD [])
  if 1 < separators.eraseDups.length then Work.fail "incompatible tabs".toList

/-- Reads how lines are sorted. -/
def sortStyle (given : List Given) : Work SortStyle := do
  let common := given.foldl (fun (style : KeyStyle) option =>
    (style.addLetter true true option.letter).getD style) {}
  let keys := (← givenKeys given).map fun key => if key.style = {} then { key with style := common } else key
  let separator ← (argumentOf? given 't').mapM readSeparator
  let keys : List SortKey := if keys.isEmpty && !common.isPlain then [{ style := common }] else keys
  match keys.find? fun key => !key.style.isConsistent with
  | some key =>
    failTogether { key.style with skipStart := false, skipEnd := false, reversed := false }.letters
  | none => pure ()
  if hasLetter given '\x04' then
    let conflict := if hasLetter given 'o' then some 'o' else none
    match (lastOf? given ['c', 'C']).or conflict with
    | some letter => failTogether (letter :: " --debug".toList)
    | none => pure ()
    let remarks := sortRemarks separator (!(← givenKeys given).isEmpty)
      (!(hasLetter given 's' || hasLetter given 'u')) common keys
    remarks.forM Work.complain
  return {
    keys, separator
    stable := hasLetter given 's'
    reversed := common.reversed
    unique := hasLetter given 'u'
    last := if hasLetter given 'z' then '\x00' else '\n' }

/-- How much of a source of random data is used. -/
def saltSize : Nat := 16

/-- What shuffled orders depend on: the first bytes of a file, if one is given. -/
def readSalt (path : Option Text) : Work Text := do
  match path with
  | none => return List.replicate saltSize '\x00'
  | some path =>
    match ← Work.openAside path .read with
    | .error errno => Work.fail (because ("open failed: ".toList ++ shownName path) errno)
    | .ok descriptor => do
      let reply ← Work.ask (.read descriptor saltSize)
      Work.tell (.close descriptor)
      match reply with
      | .data bytes =>
        if bytes.length < saltSize then Work.fail (quoted path ++ ": end of file".toList)
        return Bytes.toChars bytes
      | .failed errno => Work.fail (because (quoted path ++ ": read error".toList) errno)
      | _ => return []

/-- Writes lines to a file instead of the output. -/
def writeFile (path text : Text) : Work Unit := do
  match ← Work.openAside path .replace with
  | .error errno => Work.fail (because ("open failed: ".toList ++ shownName path) errno)
  | .ok descriptor => do
    match ← Work.writeAll descriptor (text.length + 1) (Bytes.ofChars text) with
    | some errno => Work.report (because ("write failed: ".toList ++ shownName path) errno)
    | none => Work.tell (.close descriptor)

/-- Gives up if a file cannot be opened. -/
def openForSort (complaint : String) (operand : Text) : Work Unit := do
  match ← Work.openAside operand .read with
  | .ok descriptor => Work.tell (.close descriptor)
  | .error errno => Work.fail (because (complaint.toList ++ ": ".toList ++ shownName operand) errno)

/-- The names in a file, each of which ends with a zero byte. -/
def readNames (path : Text) (operands : List Text) : Work (List Text) := do
  match operands with
  | extra :: _ => do
    Work.complain ("extra operand ".toList ++ inQuotes extra)
    Work.tell (.write 2 (Bytes.ofString "file operands cannot be combined with --files0-from\n"))
    Work.leaveMisused
  | [] => pure ()
  let content ← match ← Work.readOperand path with
    | .ok text => pure text
    | .error (.unopened errno) =>
      Work.fail (because ("cannot open ".toList ++ inQuotes path ++ " for reading".toList) errno)
    | .error (.unread _) => Work.fail ("cannot read file names from ".toList ++ inQuotes path)
  let names := (splitAfter '\x00' content).map (chompOf '\x00')
  if names.isEmpty then Work.fail ("no input from ".toList ++ inQuotes path)
  names.zipIdx.forM fun (name, index) => do
    if name = inputOperand then
      Work.fail ("when reading file names from stdin, no file name of ".toList ++ inQuotes name ++
        " allowed".toList)
    if name.isEmpty then
      Work.fail (shownName path ++ ':' :: number (index + 1) ++ ": invalid zero-length file name".toList)
  return names

/-- Tests whether lines are sorted. -/
def checkSorted (style : SortStyle) (complains : Bool) (operand : Text) (lines : List Text) : Work Unit := do
  match style.disorder? 0 lines with
  | none => return ()
  | some (count, line) => do
    if complains then Work.complain (operand ++ ':' :: number count ++ ": disorder: ".toList ++ line)
    Work.leaveWith 1

/-- The lines of each operand. -/
def readSources (last : Char) (operands : List Text) : Work (List (List Text)) :=
  operands.mapM fun operand => do
    match ← Work.readOperand operand with
    | .ok text => return (splitAfter last text).map (chompOf last)
    | .error fault => Work.fail (sortComplaint operand fault)

/-- Sorts lines, or tests whether they are sorted. -/
def sort (arguments : List Text) : Work Unit := do
  let (given, operands) ← readOptionsWith checkSortOption sortOptions (withoutOldKeys (arguments.length + 1) arguments)
  let given ← given.mapM plainSortOption
  checkSortOptions given
  let operands ← match argumentOf? given '\x05' with
    | some path => readNames path operands
    | none => pure operands
  let style ← sortStyle given
  let salt ← if style.keys.any (·.style.random) then readSalt (argumentOf? given '\x06') else pure []
  let style := { style with salt }
  let operands := if operands.isEmpty then [inputOperand] else operands
  match lastOf? given ['c', 'C'], operands with
  | some letter, _ :: extra :: _ =>
    Work.fail ("extra operand ".toList ++ inQuotes extra ++ " not allowed with -".toList ++ [letter])
  | some letter, operands => do
    let operand := operands.headD inputOperand
    if hasLetter given 'o' then failTogether [letter, 'o']
    if operand ≠ inputOperand then openForSort "open failed" operand
    let sources ← readSources style.last [operand]
    checkSorted style (letter = 'c') operand sources.flatten
  | none, operands => do
    operands.forM fun operand => do
      if operand ≠ inputOperand then openForSort "cannot read" operand
    let sources ← readSources style.last operands
    let lines := sources.flatten
    let arranged :=
      if !hasLetter given 'm' then style.sort lines
      else
        let merged := style.merge (lines.length + 1) sources
        if style.unique then style.dropEqual merged else merged
    match argumentOf? given 'o' with
    | some path => writeFile path (arranged.flatMap (· ++ [style.last]))
    | none =>
      if hasLetter given '\x04' then arranged.forM fun line => Work.put (style.traced line)
      else Work.put (arranged.flatMap (· ++ [style.last]))

end Pipework.Tool
