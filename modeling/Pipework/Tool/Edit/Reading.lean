import Pipework.Tool.Edit.Escape
import Pipework.Tool.Edit.Script

set_option autoImplicit false

/-!
The reading of editing scripts. A script is given in parts, each an expression among the arguments or a file. A
fault of a script is reported with the place up to which it was read.
-/

namespace Pipework.Tool.Edit

/-- Where a part of a script comes from. -/
inductive Origin where
  /-- An expression among the arguments, by its number. -/
  | expression (index : Nat)
  | file (name : Text)
  deriving DecidableEq, Repr

/-- A place in a script: a part of it, and what comes before the place there. -/
structure ScriptPlace where
  origin : Origin
  passed : Text := []
  deriving DecidableEq, Repr

/-- A place as diagnostics show it. -/
def ScriptPlace.shown (place : ScriptPlace) : Text :=
  match place.origin with
  | .expression index =>
    "-e expression #".toList ++ number index ++ ", char ".toList ++ number place.passed.length
  | .file name => "file ".toList ++ name ++ " line ".toList ++ number (place.passed.count '\n' + 1)

/-- A place to which a command or a run refers later, when only lines are known. -/
def ScriptPlace.afterwards (place : ScriptPlace) : ScriptPlace :=
  match place.origin with
  | .expression _ => { place with passed := [] }
  | .file _ => place

/-- How a script is written. -/
structure Dialect where
  /-- Whether regular expressions are written in the extended way. -/
  extended : Bool := false
  /-- Whether only what is standard is understood. -/
  strict : Bool := false
  /-- Whether commands that reach other files or programs are refused. -/
  confined : Bool := false
  /-- The character that ends lines. -/
  last : Char := '\n'
  deriving DecidableEq, Repr

/-- What was read of a script. -/
structure Draft where
  /-- The commands, the latest first. -/
  commands : List Command := []
  /-- The places of the blocks that are open, the innermost first. -/
  blocks : List ScriptPlace := []
  /-- Text of the last command that goes on in the next part. -/
  pending : Option Text := none
  /-- The files to which commands write, the latest first. -/
  outputs : List Text := []
  /-- How many expressions were read. -/
  expressionCount : Nat := 0
  /-- Whether nothing was read yet. -/
  isNew : Bool := true
  /-- Whether the script says that only what is asked for is put out. -/
  isQuiet : Bool := false
  /-- Where the last part ended. -/
  place : ScriptPlace := { origin := .expression 0 }

/-- Where the reading of a part stands. -/
structure Reader where
  origin : Origin
  whole : Text
  rest : Text
  dialect : Dialect
  draft : Draft

def Reader.place (reader : Reader) : ScriptPlace :=
  { origin := reader.origin, passed := reader.whole.take (reader.whole.length - reader.rest.length) }

/-- A reading of some part of a script. It may fail with a message. -/
abbrev Reads := ExceptT String (StateM Reader)

namespace Reads

variable {α : Type}

/-- Gives up, at the present place. -/
def fail (message : String) : Reads α := throw message

/-- Takes the next character. -/
def take : Reads (Option Char) := do
  match (← get).rest with
  | [] => return none
  | char :: rest => do
    modify ({ · with rest })
    return some char

/-- Puts a character back. -/
def putBack : Option Char → Reads Unit
  | none => return ()
  | some char => modify fun reader => { reader with rest := char :: reader.rest }

/-- Takes the next character that is not blank. -/
def takeVisible : Reads (Option Char) := do
  modify fun reader => { reader with rest := reader.rest.dropWhile isBlank }
  take

/-- Takes characters of some kind. -/
def takeWhile (isWanted : Char → Bool) : Reads Text := do
  let taken := (← get).rest.takeWhile isWanted
  modify fun reader => { reader with rest := reader.rest.drop taken.length }
  return taken

/-- Reads a number. -/
def takeNumber : Reads Nat := do return digitsValue (← takeWhile isDigit)

/-- Reads the end of a command. -/
def endCommand : Reads Unit := do
  let char ← takeVisible
  match char with
  | some '\x7d' | some '#' => putBack char
  | none | some '\n' | some ';' => return ()
  | _ => fail "extra characters after command"

def changeDraft (change : Draft → Draft) : Reads Unit :=
  modify fun reader => { reader with draft := change reader.draft }

/-- Replaces escapes in a text. -/
def replaceEscapes (use : EscapeUse) (text : Text) : Reads Text := do
  let dialect := (← get).dialect
  let replaced :=
    if use = .regex && dialect.strict then replaceOutsideSets? (text.length + 1) text
    else replaceEscapes? use (text.length + 1) text
  match replaced with
  | some text => return text
  | none => fail "recursive escaping after \\c not allowed"

end Reads

open Reads

/-- Reads up to a delimiter. A backslash takes the meaning from a delimiter; in a regular expression, brackets
do so, too. -/
def untilDelimiter (delimiter : Char) (isRegex : Bool) (fault : String) : Nat → Reads Text
  | 0 => fail fault
  | fuel + 1 => do
    match ← take with
    | none => fail fault
    | some '\n' => do
      putBack (some '\n')
      fail fault
    | some char =>
      if char = delimiter then return []
      else if char = '[' && isRegex then do
        let rest := (← get).rest
        let inside := rest.take (rest.length - (behindBrackets rest).length)
        let line := inside.takeWhile (· ≠ '\n')
        modify ({ · with rest := rest.drop line.length })
        if line.length < inside.length then fail fault
        let shown := if (← get).dialect.strict then inside else withLineFeeds inside
        return '[' :: shown ++ (← untilDelimiter delimiter isRegex fault fuel)
      else if char = '\\' then
        match ← take with
        | none => fail fault
        | some char =>
          let kept : Text :=
            if char = delimiter then if !isRegex && char = '&' then ['\\', char] else [char]
            else if char = '\n' then if isRegex then [char] else ['\\', char]
            else if char = 'n' && isRegex then ['\n']
            else ['\\', char]
          return kept ++ (← untilDelimiter delimiter isRegex fault fuel)
      else return char :: (← untilDelimiter delimiter isRegex fault fuel)

/-- Reads a regular expression that was cut out of a script. Also gives the number of its groups. -/
def readRegex (matching : Regex.Matching) (text : Text) : Reads (EditPattern × Option Nat) := do
  let dialect := (← get).dialect
  if text.isEmpty then
    if matching.foldCase || matching.byLine then fail "cannot specify modifiers on empty regexp"
    return ({ regex := none, matching }, none)
  else
    let text ← replaceEscapes .regex text
    let text := if dialect.strict then withoutExtras dialect.extended (text.length + 1) text else text
    match Regex.readStrictly dialect.extended text with
    | .ok (regex, groups) => return ({ regex := some regex, matching, groups }, some groups)
    | .error fault => fail fault.message

/-- Reads the letters behind the regular expression of an address. -/
def addressMatching : Nat → Regex.Matching → Reads Regex.Matching
  | 0, matching => return matching
  | fuel + 1, matching => do
    let char ← takeVisible
    let isKnown := !(← get).dialect.strict
    if char = some 'I' && isKnown then addressMatching fuel { matching with foldCase := true }
    else if char = some 'M' && isKnown then addressMatching fuel { matching with byLine := true }
    else
      putBack char
      return matching

/-- Reads an address that a character begins, if it begins one. -/
def readAddress (char : Option Char) : Reads (Option Address) := do
  let size := (← get).rest.length
  let fault := "unterminated address regex"
  let pattern (delimiter : Char) : Reads (Option Address) := do
    let text ← untilDelimiter delimiter true fault (size + 1)
    let lineBreak := (← get).dialect.last
    let matching ← addressMatching (size + 1) { lineBreak }
    let (pattern, _) ← readRegex matching text
    return some (.matching pattern)
  match char with
  | some '/' => pattern '/'
  | some '\\' => do
    match ← take with
    | some delimiter => pattern delimiter
    | none => fail fault
  | some '$' => return some .last
  | some digit =>
    if isDigit digit then
      putBack char
      let first ← takeNumber
      let next ← takeVisible
      if next = some '~' && !(← get).dialect.strict then
        let _ ← takeWhile isBlank
        let step ← takeNumber
        return some (if step = 0 then .line first else .every first step)
      else
        putBack next
        return some (.line first)
    else return none
  | none => return none

/-- Reads where a range ends. -/
def readRangeEnd : Reads RangeEnd := do
  let char ← takeVisible
  let counted : Reads Nat := do
    let _ ← takeWhile isBlank
    takeNumber
  if (← get).dialect.strict && (char = some '+' || char = some '~') then fail "unexpected \x60,'"
  match char with
  | some '+' => return .after (← counted)
  | some '~' => return .multiple (← counted)
  | _ =>
    match ← readAddress char with
    | some address => return .at address
    | none => fail "unexpected \x60,'"

/-- The pieces of what is put in place of matches; texts are given in reverse order. -/
def replacementPieces (strict : Bool) : Nat → Text → Text → List ReplacementPiece
  | 0, _, _ => []
  | fuel + 1, collected, text =>
    let literal : List ReplacementPiece := if collected.isEmpty then [] else [.text collected.reverse]
    let piece (piece : ReplacementPiece) (rest : Text) : List ReplacementPiece :=
      literal ++ piece :: replacementPieces strict fuel [] rest
    match text with
    | [] => literal
    | '&' :: rest => piece (.group 0) rest
    | '\\' :: char :: rest =>
      if isDigit char then piece (.group (char.toNat - '0'.toNat)) rest
      else
        match if strict then '\\' else char with
        | 'L' => piece (.case .lower) rest
        | 'U' => piece (.case .upper) rest
        | 'E' => piece (.case .keep) rest
        | 'l' => piece (.case .lowerFirst) rest
        | 'u' => piece (.case .upperFirst) rest
        | _ => replacementPieces strict fuel (char :: collected) rest
    | char :: rest => replacementPieces strict fuel (char :: collected) rest

/-- Gives up at a command that reaches other files or programs, if such are refused. -/
def refuseReach : Reads Unit := do
  if (← get).dialect.confined then fail "e/r/w commands disabled in sandbox mode"

/-- Reads the name of a file, up to the end of the line. -/
def readFileName : Reads Text := do
  refuseReach
  let _ ← takeWhile isBlank
  let name ← takeWhile (· ≠ '\n')
  let _ ← take
  if name.isEmpty then fail "missing filename in r/R/w/W commands" else return name

/-- Reads the name of a file to which a command writes. -/
def readOutputName : Reads Text := do
  let name ← readFileName
  changeDraft fun draft => { draft with outputs := name :: draft.outputs }
  return name

/-- Options of a replacement, and whether a number was given. -/
structure SubstitutionOptions where
  place : Option Nat := none
  all : Bool := false
  prints : Bool := false
  printsFirst : Bool := false
  runs : Bool := false
  file : Option Text := none
  matching : Regex.Matching := {}

/-- Reads the options of a replacement. -/
def readSubstitutionOptions : Nat → SubstitutionOptions → Reads SubstitutionOptions
  | 0, options => return options
  | fuel + 1, options => do
    let unknown := "unknown option to \x60s'"
    let char ← take
    let strict := (← get).dialect.strict
    let unlessStrict (options : SubstitutionOptions) : Reads SubstitutionOptions :=
      if strict then fail unknown else readSubstitutionOptions fuel options
    match char with
    | some 'g' =>
      if options.all then fail "multiple \x60g' options to \x60s' command"
      else readSubstitutionOptions fuel { options with all := true }
    | some 'p' =>
      if options.prints || options.printsFirst then fail "multiple \x60p' options to \x60s' command"
      else readSubstitutionOptions fuel { options with prints := options.runs, printsFirst := !options.runs }
    | some 'e' => unlessStrict { options with runs := true }
    | some 'i' | some 'I' => unlessStrict { options with matching := { options.matching with foldCase := true } }
    | some 'm' | some 'M' => unlessStrict { options with matching := { options.matching with byLine := true } }
    | some 'w' => return { options with file := some (← readOutputName) }
    | some '\x7d' | some '#' => do
      putBack char
      return options
    | none | some '\n' | some ';' => return options
    | some '\r' => do
      if (← take) = some '\n' then return options else fail unknown
    | some char =>
      if isDigit char then
        putBack char
        let place ← takeNumber
        if options.place.isSome then fail "multiple number options to \x60s' command"
        else if place = 0 then fail "number option to \x60s' command may not be zero"
        else readSubstitutionOptions fuel { options with place := some place }
      else if isSpace char then readSubstitutionOptions fuel options
      else fail unknown

/-- The highest group that a replacement refers to. -/
def highestGroup (replacement : List ReplacementPiece) : Nat :=
  replacement.foldl (fun highest piece =>
    match piece with
    | .group index => max highest index
    | _ => highest) 0

/-- What is said of a replacement that refers to a group that there is not. -/
def groupFault (index : Nat) : String :=
  "invalid reference \\" ++ toString index ++ " on \x60s' command's RHS"

/-- Reads a replacement behind its letter. -/
def readSubstitution : Reads Action := do
  let size := (← get).rest.length + 1
  let fault := "unterminated \x60s' command"
  match ← take with
  | none => fail fault
  | some delimiter => do
    let regexText ← untilDelimiter delimiter true fault size
    let replacementText ← untilDelimiter delimiter false fault size
    let replacementText ← replaceEscapes .replacement replacementText
    let dialect := (← get).dialect
    let options ← readSubstitutionOptions size { matching := { lineBreak := dialect.last } }
    let (pattern, groups) ← readRegex options.matching regexText
    let replacement := replacementPieces dialect.strict (replacementText.length + 1) [] replacementText
    let highest := highestGroup replacement
    if groups.any (· < highest) && !dialect.strict then fail (groupFault highest)
    if options.runs then refuseReach
    return .substitute {
      pattern, replacement
      place := options.place.getD 1
      all := options.all
      prints := options.prints
      printsFirst := options.printsFirst
      runs := options.runs
      file := options.file }

/-- The characters of a translation, without the backslashes before them. -/
def translationChars : Text → Text
  | [] => []
  | '\\' :: char :: rest => char :: translationChars rest
  | char :: rest => char :: translationChars rest

/-- Reads a translation behind its letter. -/
def readTranslation : Reads Action := do
  let size := (← get).rest.length + 1
  let fault := "unterminated \x60y' command"
  match ← take with
  | none => fail fault
  | some delimiter => do
    let sources ← replaceEscapes .characters (← untilDelimiter delimiter false fault size)
    let targets ← replaceEscapes .characters (← untilDelimiter delimiter false fault size)
    let sources := translationChars sources
    let targets := translationChars targets
    if sources.length ≠ targets.length then
      fail "strings for \x60y' command are different lengths"
    else
      endCommand
      return .translate sources targets

/-- Takes lines of text as they are written; a backslash at the end of a line means that another one follows. Also
gives whether the text ends before its line does. -/
def takeTextLines : Nat → Reads (Text × Bool)
  | 0 => return ([], false)
  | fuel + 1 => do
    let behind (start : Text) : Reads (Text × Bool) := do
      let (text, isOpen) ← takeTextLines fuel
      return (start ++ text, isOpen)
    match ← take with
    | none => return ([], false)
    | some '\n' => return ([], false)
    | some '\\' => do
      match ← take with
      | none => return ([], true)
      | some char => behind ['\\', char]
    | some char => behind [char]

/-- A text without the backslashes before its characters. -/
def withoutBackslashes : Text → Text
  | [] => []
  | '\\' :: char :: rest => char :: withoutBackslashes rest
  | char :: rest => char :: withoutBackslashes rest

/-- Gives the last command its text. -/
def Action.withText (text : Text) : Action → Action
  | .append _ => .append text
  | .insert _ => .insert text
  | .change _ => .change text
  | .run _ => .run text
  | action => action

/-- Reads lines of text behind the start of a text. If they end too early, the text goes on in the next part. -/
def readTextLines (start : Text) : Reads Text := do
  let reader ← get
  let (text, isOpen) ← takeTextLines (reader.rest.length + 1)
  let ended := start ++ text ++ ['\n']
  if isOpen then changeDraft fun draft => { draft with pending := some (start ++ text ++ ['\n']) }
  return withoutBackslashes (← replaceEscapes .text ended)

/-- Reads the text of a command that a character begins. -/
def readText (char : Option Char) : Reads Text := do
  let fault := "expected \\ after \x60a', \x60c' or \x60i'"
  match char with
  | none => fail fault
  | some '\\' => do
    let blanks ← takeWhile isBlank
    match ← take with
    | some '\n' => readTextLines []
    | none => do
      changeDraft fun draft => { draft with pending := some [] }
      return []
    | some char => do
      putBack (some char)
      readTextLines blanks
  | some char => do
    if (← get).dialect.strict then fail fault
    putBack (some char)
    readTextLines []

/-- Reads a label. -/
def readLabel : Reads Text := do
  let _ ← takeWhile isBlank
  takeWhile fun char => !isSpace char && !(";\x7d#".toList.contains char)

/-- Whether a version comes after another one; numbers in them count by their values. -/
def isLaterVersion : Nat → Text → Text → Bool
  | 0, _, _ => false
  | fuel + 1, left, right =>
    let leftDigits := left.takeWhile isDigit
    let rightDigits := right.takeWhile isDigit
    if leftDigits.isEmpty || rightDigits.isEmpty then
      match left, right with
      | [], _ => false
      | _, [] => true
      | first :: left, second :: right =>
        if first = second then isLaterVersion fuel left right else second < first
    else
      let leftValue := digitsValue leftDigits
      let rightValue := digitsValue rightDigits
      if leftValue = rightValue then
        isLaterVersion fuel (left.drop leftDigits.length) (right.drop rightDigits.length)
      else rightValue < leftValue

/-- The version of the language of scripts. -/
def languageVersion : Text := "4.9".toList

/-- Reads a number behind a command, if there is one. -/
def readOptionalNumber : Reads (Option Nat) := do
  let _ ← takeWhile isBlank
  let digits ← if (← get).dialect.strict then pure [] else takeWhile isDigit
  endCommand
  return natural? digits

/-- Gives up at a letter that begins no command. -/
def failUnknown {α : Type} (letter : Char) : Reads α :=
  fail ("unknown command: \x60" ++ String.ofList [letter] ++ "'")

/-- The commands that the standard does not know. -/
def extraCommands : List Char := "eFvzLQTRW".toList

/-- The commands that take one address at most by the standard. -/
def singleCommands : List Char := "ail=r".toList ++ extraCommands

/-- Reads what a letter does. -/
def readAction (command : Command) (letter : Char) : Reads Action := do
  let plain (action : Action) : Reads Action := do
    endCommand
    return action
  let single : Reads Unit := do
    if command.second.isSome then fail "command only uses one address"
  let labelled (action : Text → Action) : Reads Action := do
    let name ← readLabel
    plain (action name)
  if (← get).dialect.strict then
    if extraCommands.contains letter then failUnknown letter
    if singleCommands.contains letter then single
  match letter with
  | '\x7b' => do
    let place := (← get).place.afterwards
    changeDraft fun draft => { draft with blocks := place :: draft.blocks }
    return .openBlock
  | '\x7d' => do
    if (← get).draft.blocks.isEmpty then fail "unexpected \x60\x7d'"
    else if command.first.isSome then fail "\x60\x7d' doesn't want any addresses"
    else
      endCommand
      changeDraft fun draft => { draft with blocks := draft.blocks.tail }
      return .closeBlock
  | '=' => plain .printNumber
  | 'd' => plain .delete
  | 'D' => plain .deleteFirst
  | 'F' => plain .printName
  | 'g' => plain .takeHeld
  | 'G' => plain .takeHeldToo
  | 'h' => plain .hold
  | 'H' => plain .holdToo
  | 'n' => plain .next
  | 'N' => plain .nextToo
  | 'p' => plain .print
  | 'P' => plain .printFirst
  | 'x' => plain .exchange
  | 'z' => plain .clear
  | 'a' => return .append (← readText (← takeVisible))
  | 'i' => return .insert (← readText (← takeVisible))
  | 'c' => return .change (← readText (← takeVisible))
  | ':' => do
    if command.first.isSome then fail ": doesn't want any addresses"
    let name ← readLabel
    if name.isEmpty then fail "\x22:\x22 lacks a label" else return .label name
  | 'b' => labelled .jump
  | 't' => labelled .jumpIfReplaced
  | 'T' => labelled .jumpUnlessReplaced
  | 'q' => do
    single
    return .quit ((← readOptionalNumber).getD 0)
  | 'Q' => do
    single
    return .quitSilently ((← readOptionalNumber).getD 0)
  | 'l' => return .list (← readOptionalNumber)
  | 'L' => do
    let _ ← readOptionalNumber
    return .withdrawn letter
  | 'r' => return .readFile (← readFileName)
  | 'R' => return .readLine (← readFileName)
  | 'e' => do
    refuseReach
    match ← takeVisible with
    | none | some '\n' => return .run []
    | char => return .run (← readText char)
  | 'w' => return .writeFile (← readOutputName)
  | 'W' => return .writeFirst (← readOutputName)
  | 's' => readSubstitution
  | 'y' => readTranslation
  | letter => failUnknown letter

/-- Reads the addresses in front of a command, and its letter. -/
def readAddresses : Reads (Command × Option Char) := do
  let char ← takeVisible
  let strict := (← get).dialect.strict
  if !strict && (char = some '+' || char = some '~') then
    let _ ← takeWhile isBlank
    let _ ← takeNumber
    fail "invalid usage of +N or ~N as first address"
  let first ← readAddress char
  let (second, char) ← match first with
    | none => pure (none, char)
    | some _ => do
      match ← takeVisible with
      | some ',' => do
        let second ← readRangeEnd
        pure (some second, ← takeVisible)
      | char => pure (none, char)
  let isFit :=
    match first, second with
    | some (.line 0), some (.at (.matching _)) => !strict
    | some (.line 0), none => char = some 'r'
    | some (.line 0), _ => false
    | _, _ => true
  if !isFit then fail "invalid usage of line address 0"
  let command : Command := { first, second, action := .delete }
  if char = some '!' then
    let char ← takeVisible
    if char = some '!' then fail "multiple \x60!'s"
    return ({ command with negated := true }, char)
  else return (command, char)

/-- How a script begins if only what is asked for is put out. -/
def quietMark : Text := ['#', 'n']

/-- Reads the commands of a part. -/
def readCommands : Nat → Reads Unit
  | 0 => return ()
  | fuel + 1 => do
    let _ ← takeWhile fun char => isSpace char || char = ';'
    if (← get).rest.isEmpty then return ()
    else
      let (command, letter) ← readAddresses
      match letter with
      | none => fail "missing command"
      | some '#' => do
        if command.first.isSome then fail "comments don't accept any addresses"
        let reader ← get
        if reader.draft.isNew && reader.whole.length = reader.rest.length + 1 &&
            quietMark.isPrefixOf reader.whole then
          changeDraft ({ · with isQuiet := true })
        let _ ← takeWhile (· ≠ '\n')
        readCommands fuel
      | some 'v' => do
        if (← get).dialect.strict then failUnknown 'v'
        let version ← readLabel
        if isLaterVersion (version.length + 1) version languageVersion then fail "expected newer version of sed"
        endCommand
        modify fun reader => { reader with dialect := { reader.dialect with strict := false } }
        readCommands fuel
      | some letter => do
        let action ← readAction command letter
        changeDraft fun draft => { draft with commands := { command with action } :: draft.commands }
        readCommands fuel

/-- Goes on with the text of the last command. -/
def readPending : Reads Unit := do
  match (← get).draft.pending with
  | none => return ()
  | some start => do
    changeDraft ({ · with pending := none })
    let text ← readTextLines start
    changeDraft fun draft =>
      match draft.commands with
      | command :: earlier =>
        { draft with commands := { command with action := command.action.withText text } :: earlier }
      | [] => draft

/-- Reads a part of a script behind those that were read before. Gives what was read of the script, and what is
wrong with the part if something is. -/
def Draft.readPart (draft : Draft) (dialect : Dialect) (origin : Origin) (text : Text) :
    Draft × Option (ScriptPlace × String) :=
  let reads : Reads Unit := do
    readPending
    readCommands (text.length + 1)
  let (result, reader) := (reads.run.run { origin, whole := text, rest := text, dialect, draft } : Except String Unit × Reader)
  let draft := { reader.draft with isNew := false, place := { origin, passed := text } }
  match result with
  | .ok _ => (draft, none)
  | .error message => (draft, some (reader.place, message))

end Pipework.Tool.Edit
