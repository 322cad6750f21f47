import Pipework.Tool.Making

set_option autoImplicit false

/-!
Tools that tell what is in directories, and what is known about files, as they lay it out or in a format.
-/

namespace Pipework.Tool

open Kernel
open Files (slash)

/-- How entries are laid out. -/
inductive ListingLayout where
  | single
  /-- In columns, each of which is filled before the next. -/
  | down
  /-- In columns, row by row. -/
  | across
  | commas
  | long
  deriving DecidableEq, Repr

/-- In which order entries come. -/
inductive ListingOrder where
  | name
  | size
  | time
  | none
  deriving DecidableEq, Repr

/-- Which mark stands behind a name. -/
inductive ListingMarks where
  | none
  | directories
  | all
  deriving DecidableEq, Repr

/-- How names are written. -/
inductive NameStyle where
  | literal
  /-- As a shell would read them; all names or only those that need it in quotes. -/
  | shell (always escapes : Bool)
  /-- In double quotes. -/
  | doubleQuoted
  | singleQuoted
  /-- Without quotes, but with backslashes. -/
  | escaped
  deriving DecidableEq, Repr

namespace NameStyle

/-- The styles by their names. -/
def named : List (String × NameStyle) :=
  [("literal", .literal), ("shell", .shell false false), ("shell-always", .shell true false),
    ("shell-escape", .shell false true), ("shell-escape-always", .shell true true), ("c", .doubleQuoted),
    ("c-maybe", .doubleQuoted), ("escape", .escaped), ("locale", .singleQuoted), ("clocale", .doubleQuoted)]

/-- A name with backslashes in front of the given characters, and with escapes for those that cannot be
shown. -/
def withEscapes (special : List Char) (name : Text) : Text :=
  name.flatMap fun char => if special.contains char then ['\\', char] else (escapeOf? char).getD [char]

/-- A name in a style. -/
def render (masks : Bool) (name : Text) : NameStyle → Text
  | .literal => maskIn name
  | .shell always escapes =>
    if !always && showsAsIs name then name
    else if escapes then inQuotes name
    else if name.contains '\x27' && fitsDoubleQuotes name then '\x22' :: name ++ ['\x22']
    else '\x27' :: (maskIn name).flatMap (fun char => if char = '\x27' then "'\\''".toList else [char]) ++ ['\x27']
  | .doubleQuoted => '\x22' :: withEscapes ['\x22', '\\'] name ++ ['\x22']
  | .singleQuoted => quoted name
  | .escaped => withEscapes [' ', '\\'] name
where
  /-- The name with question marks for what cannot be shown, if these are wanted. -/
  maskIn (name : Text) : Text := if masks then name.map fun char => if isShowable char then char else '?' else name

end NameStyle

/-- How directories are listed. -/
structure ListingStyle where
  layout : ListingLayout := .single
  order : ListingOrder := .name
  reversed : Bool := false
  marks : ListingMarks := .none
  /-- Whether names with a dot in front are shown. -/
  hidden : Bool := false
  /-- Whether the directory itself and the one above are shown. -/
  dots : Bool := false
  /-- Whether directories are shown themselves and not what is in them. -/
  itself : Bool := false
  recursive : Bool := false
  showsOwner : Bool := true
  showsGroup : Bool := true
  numeric : Bool := false
  showsBlocks : Bool := false
  follows : Bool := false
  names : NameStyle := .literal
  /-- Whether question marks stand for what cannot be shown. -/
  masks : Bool := false
  /-- Patterns are not known; these names are left out. -/
  omitted : List Text := []

/-- An entry of a listing. -/
structure ListingEntry where
  name : Text
  facts : FileFacts
  target : Text := []

/-- The letter for a kind of file. -/
def kindLetter : FileKind → Char
  | .regular => '-'
  | .directory => 'd'
  | .link => 'l'
  | .pipe => 'p'
  | .device | .terminal => 'c'

namespace ListingEntry

/-- How much room a file takes, in units of 1024 bytes. -/
def blocks (entry : ListingEntry) : Nat :=
  match entry.facts.kind with
  | .regular | .directory => (entry.facts.size + 4095) / 4096 * 4
  | _ => 0

/-- The mark behind the name. -/
def mark (entry : ListingEntry) (marks : ListingMarks) : Text :=
  match marks, entry.facts.kind with
  | .none, _ => []
  | _, .directory => ['/']
  | .directories, _ => []
  | .all, .link => ['@']
  | .all, .pipe => ['|']
  | .all, .regular => if entry.facts.mode &&& 0o111 ≠ 0 then ['*'] else []
  | .all, _ => []

/-- Whether one entry comes no later than another. -/
def comesFirst (order : ListingOrder) (left right : ListingEntry) : Bool :=
  let byName : Bool := !decide (right.name < left.name)
  match order with
  | .name | .none => byName
  | .size => right.facts.size < left.facts.size || (left.facts.size = right.facts.size && byName)
  | .time =>
    right.facts.modified < left.facts.modified || (left.facts.modified = right.facts.modified && byName)

end ListingEntry

namespace ListingStyle

/-- Entries in their order. -/
def arrange (style : ListingStyle) (entries : List ListingEntry) : List ListingEntry :=
  let sorted :=
    if style.order = .none then entries else entries.mergeSort (ListingEntry.comesFirst style.order)
  if style.reversed then sorted.reverse else sorted

/-- A name as it is shown. -/
def shown (style : ListingStyle) (name : Text) : Text := style.names.render style.masks name

/-- What is shown of an entry in layouts that only show names. -/
def short (style : ListingStyle) (entry : ListingEntry) : Text :=
  (if style.showsBlocks then number entry.blocks ++ [' '] else []) ++
    style.shown entry.name ++ entry.mark style.marks

/-- Lines about entries with all that is known of them, in columns. -/
def longLines (style : ListingStyle) (entries : List ListingEntry) : List Text :=
  let widest (shown : ListingEntry → Text) : Nat :=
    entries.foldl (fun width entry => max width (shown entry).length) 0
  let links (entry : ListingEntry) : Text := number entry.facts.names
  let size (entry : ListingEntry) : Text := number entry.facts.size
  let owner : Text := if style.numeric then ['0'] else "root".toList
  entries.map fun entry =>
    let columns : List Text :=
      (if style.showsBlocks then [padLeft (widest (number ·.blocks)) (number entry.blocks)] else []) ++
      [kindLetter entry.facts.kind :: modeText entry.facts.mode,
        padLeft (widest links) (links entry)] ++
      (if style.showsOwner then [owner] else []) ++ (if style.showsGroup then [owner] else []) ++
      [padLeft (widest size) (size entry), "Jan  1 00:00".toList, style.shown entry.name]
    List.intercalate [' '] columns ++
      (if entry.facts.kind = .link then " -> ".toList ++ style.shown entry.target else entry.mark style.marks)

/-- The widths of columns, if items are laid out in so many of them and fit. -/
def columnWidths? (across : Bool) (lengths : List Nat) (count : Nat) : Option (List Nat) :=
  let rows := (lengths.length + count - 1) / count
  let columnOf (index : Nat) : Nat := if across then index % count else index / rows
  let widths : List Nat := (List.range count).map fun column =>
    ((lengths.zipIdx).filter fun item => columnOf item.2 = column).foldl (fun width item =>
      max width (item.1 + (if column + 1 = count then 0 else 2))) 3
  if widths.foldl Nat.add 0 < 80 then some widths else none

/-- Blanks and tabs that lead from one place in a line to another. -/
def indent : Nat → Nat → Nat → Text
  | 0, _, _ => []
  | fuel + 1, place, goal =>
    if goal ≤ place then []
    else if (place + 1) / 8 < goal / 8 then '\t' :: indent fuel (place + 8 - place % 8) goal
    else ' ' :: indent fuel (place + 1) goal

/-- A row of items in columns. -/
def row : Nat → List (Text × Nat) → Text
  | _, [] => []
  | _, [(item, _)] => item
  | start, (item, width) :: later =>
    item ++ indent 80 (start + item.length) (start + width) ++ row (start + width) later

/-- Items in as many columns as fit. -/
def inColumns (across : Bool) (items : List Text) : List Text :=
  let lengths := items.map List.length
  let counts := (List.range (min 26 items.length)).map (· + 1)
  match counts.reverse.findSome? fun count =>
      (columnWidths? across lengths count).map fun widths => (count, widths) with
  | none => items
  | some (count, widths) =>
    let rows := (items.length + count - 1) / count
    (List.range rows).map fun index =>
      let chosen := (List.range count).filterMap fun column =>
        let place := if across then index * count + column else column * rows + index
        (items[place]?).map fun item => (item, widths.getD column 0)
      row 0 chosen

/-- Items with commas between them, in lines. -/
def withCommas : Nat → List Text → Text
  | _, [] => ['\n']
  | _, [item] => item ++ ['\n']
  | place, item :: next :: later =>
    let behind := place + item.length
    let fits := behind + next.length + 2 < 80
    item ++ (if fits then [',', ' '] else [',', '\n']) ++
      withCommas (if fits then behind + 2 else 0) (next :: later)

/-- Puts out entries. -/
def print (style : ListingStyle) (entries : List ListingEntry) : Work Unit := do
  let entries := style.arrange entries
  let items := entries.map style.short
  match style.layout with
  | .single => items.forM Work.putLine
  | .down => if !items.isEmpty then (inColumns false items).forM Work.putLine
  | .across => if !items.isEmpty then (inColumns true items).forM Work.putLine
  | .commas => if !items.isEmpty then Work.put (withCommas 0 items)
  | .long => (style.longLines entries).forM Work.putLine

/-- The entry for a path, under some name. -/
def entryAt (style : ListingStyle) (path name : Text) : Work (Except Errno ListingEntry) := do
  let facts ← Work.facts path style.follows
  let facts ← match facts with
    | .error _ => Work.facts path false
    | facts => pure facts
  match facts with
  | .error errno => return .error errno
  | .ok facts => do
    let target ← match ← Work.ask (.query (.linkTarget (Bytes.ofChars path))) with
      | .data target => pure (Bytes.toChars target)
      | _ => pure []
    return .ok { name, facts, target }

/-- Lists what is in a directory, and in those below it down to a given depth. -/
def listDirectory (style : ListingStyle) : Nat → Bool → Bool → Text → Work Unit
  | 0, _, _, _ => return ()
  | depth + 1, showsName, isFirst, path => do
    match ← Work.names path with
    | .error errno => do
      Work.complain (because ("cannot open directory ".toList ++ inQuotes path) errno)
      modify ({ · with status := 2 })
    | .ok names => do
      let dots : List Text := if style.dots then [['.'], ['.', '.']] else []
      let wanted := dots ++ names.filter fun name =>
        (style.hidden || name.head? ≠ some '.') && !style.omitted.contains name
      let entries ← wanted.filterMapM fun name => do
        match ← style.entryAt (joinPath path name) name with
        | .ok entry => return some entry
        | .error _ => return some { name, facts := { kind := .link } }
      if !isFirst then Work.putLine []
      if showsName then Work.putLine (style.shown path ++ [':'])
      if style.layout = .long || style.showsBlocks then
        let total := entries.foldl (fun total entry => total + entry.blocks) 0
        Work.putLine ("total ".toList ++ number total)
      style.print entries
      if style.recursive then
        let inner := (style.arrange entries).filter fun entry =>
          entry.facts.kind = .directory && entry.name ≠ ['.'] && entry.name ≠ ['.', '.']
        inner.forM fun entry => listDirectory style depth true false (joinPath path entry.name)

end ListingStyle

def lsNames : List (String × Char) :=
  [("all", 'a'), ("almost-all", 'A'), ("directory", 'd'), ("recursive", 'R'), ("reverse", 'r'),
    ("classify", 'F'), ("numeric-uid-gid", 'n'), ("dereference", 'L'), ("size", 's'), ("ignore", 'I'),
    ("quote-name", 'Q'), ("literal", 'N'), ("escape", 'b'), ("inode", 'i'), ("color", 'K'),
    ("hide-control-chars", 'q'), ("show-control-chars", '\x01'), ("quoting-style", '\x02')]

/-- Takes on an option of how to list. -/
def ListingStyle.addOption (style : ListingStyle) (option : Given) : ListingStyle :=
  match option.letter with
  | '1' => if style.layout = .long then style else { style with layout := .single }
  | 'a' => { style with hidden := true, dots := true }
  | 'A' => { style with hidden := true, dots := false }
  | 'C' => { style with layout := .down }
  | 'd' => { style with itself := true }
  | 'f' => { style with hidden := true, dots := true, order := .none }
  | 'F' => { style with marks := .all }
  | 'g' => { style with layout := .long, showsOwner := false }
  | 'G' => { style with showsGroup := false }
  | 'I' => { style with omitted := option.argument.getD [] :: style.omitted }
  | 'l' => { style with layout := .long }
  | 'L' => { style with follows := true }
  | 'm' => { style with layout := .commas }
  | 'n' => { style with layout := .long, numeric := true }
  | 'o' => { style with layout := .long, showsGroup := false }
  | 'p' => { style with marks := .directories }
  | 'Q' => { style with names := .doubleQuoted }
  | 'N' => { style with names := .literal }
  | 'b' => { style with names := .escaped }
  | 'q' => { style with masks := true }
  | '\x01' => { style with masks := false }
  | '\x02' =>
    { style with
      names := (NameStyle.named.lookup (String.ofList (option.argument.getD []))).getD style.names }
  | 'r' => { style with reversed := true }
  | 'R' => { style with recursive := true }
  | 's' => { style with showsBlocks := true }
  | 'S' => { style with order := .size }
  | 't' => { style with order := .time }
  | 'U' => { style with order := .none }
  | 'x' => { style with layout := .across }
  | _ => style

/-- Lists files and directories in a style that options may change. -/
def listIn (usual : ListingStyle) (arguments : List Text) : Work Unit := do
  let table : OptionTable := { letters := "1aAbBcCdfFgGhHiI:klLmnNopqQrRsStT:uUvw:xXZ\x01\x02:", names := lsNames }
  let (given, operands) ← readOptions table arguments
  given.forM fun option => do
    let name := option.argument.getD []
    if option.letter = '\x02' && (NameStyle.named.lookup (String.ofList name)).isNone then
      let valid := NameStyle.named.flatMap fun entry => "\n  - '".toList ++ entry.1.toList ++ ['\x27']
      modify fun progress => { progress with habits := { progress.habits with misuse := some 1 } }
      Work.failUsage ("invalid argument ".toList ++ quoted name ++
        " for '--quoting-style'\nValid arguments are:".toList ++ valid)
  let style := given.foldl ListingStyle.addOption usual
  let operands := if operands.isEmpty then [['.']] else operands
  let followsLinks := !style.itself && style.layout ≠ .long && style.marks ≠ .all
  let found ← operands.filterMapM fun path => do
    let isLinkToDirectory : Bool ← if followsLinks then Work.isDirectory path else pure false
    match ← ListingStyle.entryAt { style with follows := style.follows || isLinkToDirectory } path path with
    | .ok entry => return some entry
    | .error errno => do
      Work.report (because ("cannot access ".toList ++ inQuotes path) errno)
      return none
  let (directories, others) := found.partition fun entry => !style.itself && entry.facts.kind = .directory
  if !others.isEmpty then style.print others
  let showsName := 1 < operands.length || style.recursive
  let _ ← (style.arrange directories).foldlM (fun isFirst entry => do
    style.listDirectory Files.depthLimit showsName isFirst entry.name
    return false) others.isEmpty

/-- Lists files and directories. -/
def ls (arguments : List Text) : Work Unit := listIn {} arguments

/-- Lists files and directories in columns. -/
def dir (arguments : List Text) : Work Unit := listIn { layout := .down, names := .escaped } arguments

/-- Lists files and directories with all that is known of them. -/
def vdir (arguments : List Text) : Work Unit := listIn { layout := .long, names := .escaped } arguments

/-- How a kind of file is called. -/
def kindName (facts : FileFacts) : String :=
  match facts.kind with
  | .regular => if facts.size = 0 then "regular empty file" else "regular file"
  | .directory => "directory"
  | .link => "symbolic link"
  | .pipe => "fifo"
  | .device | .terminal => "character special file"

/-- What a directive of a format shows. -/
def showFact (path : Text) (facts : FileFacts) (target : Text) : Char → Text
  | 'n' => path
  | 'N' => inQuotes path ++ (if facts.kind = .link then " -> ".toList ++ inQuotes target else [])
  | 's' => number facts.size
  | 'a' => Nat.toDigits 8 facts.mode
  | 'A' => kindLetter facts.kind :: modeText facts.mode
  | 'F' => (kindName facts).toList
  | 'h' => number facts.names
  | 'i' => number facts.number
  | 'u' | 'g' => ['0']
  | 'U' | 'G' => "root".toList
  | 'B' => "512".toList
  | 'b' => number ((facts.size + 4095) / 4096 * 8)
  | 'o' => number blockLength
  | 'Y' => (toString (facts.modified.fdiv 1000000000)).toList
  | _ => ['?']
where
  blockLength : Nat := 4096

/-- Fills in a format. -/
def fillFormat (escapes : Bool) (spell : Char → Text) : Nat → Text → Text
  | 0, _ => []
  | _, [] => []
  | _ + 1, ['%'] => ['%']
  | fuel + 1, '%' :: rest =>
    let flags := rest.takeWhile fun char => "-0+# ".toList.contains char
    let rest := rest.drop flags.length
    let width := rest.takeWhile isDigit
    match rest.drop width.length with
    | [] => []
    | '%' :: later => '%' :: fillFormat escapes spell fuel later
    | letter :: later =>
      let shown := spell letter
      let columns := (natural? width).getD 0
      let padded :=
        if flags.contains '-' then padRight columns shown
        else if flags.contains '0' then List.replicate (columns - shown.length) '0' ++ shown
        else padLeft columns shown
      padded ++ fillFormat escapes spell fuel later
  | fuel + 1, '\\' :: char :: rest =>
    if escapes then
      let shown : Char := match char with
        | 'n' => '\n'
        | 't' => '\t'
        | 'r' => '\r'
        | 'a' => '\x07'
        | '0' => '\x00'
        | char => char
      shown :: fillFormat escapes spell fuel rest
    else '\\' :: fillFormat escapes spell fuel (char :: rest)
  | fuel + 1, char :: rest => char :: fillFormat escapes spell fuel rest

/-- Prints what is known about files under a format. -/
def stat (arguments : List Text) : Work Unit := do
  let table : OptionTable :=
    { letters := "c:fLt\x01:"
      names :=
        [("format", 'c'), ("printf", '\x01'), ("dereference", 'L'), ("terse", 't'), ("file-system", 'f')] }
  let (given, operands) ← readOptions table arguments
  needOperand operands
  let format := (argumentOf? given 'c').getD ((argumentOf? given '\x01').getD "%n".toList)
  let escapes := hasLetter given '\x01'
  operands.forM fun path => do
    let facts ← if path = inputOperand then do
        match ← Work.ask (.query (.descriptor 0)) with
        | .facts facts => pure (.ok facts)
        | .failed errno => pure (.error errno)
        | _ => pure (.error .badDescriptor)
      else Work.facts path (hasLetter given 'L')
    match facts with
    | .error errno => Work.report (because ("cannot statx ".toList ++ inQuotes path) errno)
    | .ok facts => do
      let target ← match ← Work.ask (.query (.linkTarget (Bytes.ofChars path))) with
        | .data target => pure (Bytes.toChars target)
        | _ => pure []
      let shown := fillFormat escapes (showFact path facts target) (format.length + 1) format
      Work.put (if escapes then shown else shown ++ ['\n'])

end Pipework.Tool
