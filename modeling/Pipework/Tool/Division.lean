import Pipework.Tool.Option
import Pipework.Tool.Path
import Pipework.Tool.Quantity
import Pipework.Tool.Running

set_option autoImplicit false

/-!
The division of a file into several files, or among the inputs of several commands. The names of the files have
suffixes that are counted up.
-/

namespace Pipework.Tool

open Kernel

namespace Division

/-- How a text is divided. -/
inductive Rule where
  | lines (count : Nat)
  | bytes (count : Nat)
  /-- As many whole lines as fit. -/
  | lineBytes (count : Nat)
  /-- This number of parts of the same size; the last takes what is left over. -/
  | equalBytes (count : Nat)
  /-- The same, but with whole lines: each belongs to the part in which it begins. -/
  | equalLines (count : Nat)
  /-- The lines in turn. -/
  | turns (count : Nat)
  deriving DecidableEq, Repr

namespace Rule

/-- The number of parts, if the rule tells it. -/
def partCount? : Rule → Option Nat
  | equalBytes count | equalLines count | turns count => some count
  | _ => none

/-- Whether the size of the text has to be known beforehand. -/
def needsSize : Rule → Bool
  | equalBytes _ | equalLines _ => true
  | _ => false

/-- Whether the rule gives no parts at all. -/
def isVoid : Rule → Bool
  | lines count | bytes count | lineBytes count | equalBytes count | equalLines count | turns count => count = 0

end Rule

/-- Pieces of the same length. -/
def chunks {α : Type} (size : Nat) : Nat → List α → List (List α)
  | 0, _ => []
  | _, [] => []
  | fuel + 1, items => items.take (max 1 size) :: chunks size fuel (items.drop (max 1 size))

/-- Puts pieces together as long as they fit. A piece without an end must leave room for one. The pieces at hand are
given in reverse order. -/
def packed (last : Char) (size : Nat) : (held : List Text) → (length : Nat) → List Text → List Text
  | [], _, [] => []
  | held, _, [] => [held.reverse.flatten]
  | held, length, piece :: later =>
    let needed := length + piece.length + (if piece.getLast? = some last then 0 else 1)
    if held.isEmpty || needed ≤ size then
      packed last size (piece :: held) (length + piece.length) later
    else held.reverse.flatten :: packed last size [piece] piece.length later

/-- Parts of the same size; the last takes what is left over. -/
def equalParts (count : Nat) (text : Text) : List Text :=
  let size := max count text.length / max 1 count
  (List.range (min count (text.length + 1))).map fun index =>
    let rest := text.drop (index * size)
    if index + 1 = count then rest else rest.take size

/-- Each line, with the index of the part in which it begins. -/
def placedLines (count size : Nat) : Nat → List Text → List (Nat × Text)
  | _, [] => []
  | place, line :: later =>
    (min (count - 1) (place / size), line) :: placedLines count size (place + line.length) later

/-- Texts under their indexes, one for each index from some number on. -/
def collected : Nat → Nat → Text → List (Nat × Text) → List Text
  | 0, _, _, _ => []
  | _, _, held, [] => [held]
  | fuel + 1, index, held, (place, line) :: later =>
    if place = index then collected fuel index (held ++ line) later
    else held :: collected fuel (index + 1) [] ((place, line) :: later)

/-- The parts of a text, in which lines end with a given character. Empty parts at the end may be missing. -/
def Rule.divide (rule : Rule) (last : Char) (text : Text) : List Text :=
  let pieces := splitAfter last text
  match rule with
  | .lines count => (chunks count (pieces.length + 1) pieces).map List.flatten
  | .bytes count => chunks count (text.length + 1) text
  | .lineBytes count =>
    packed last count [] 0 (pieces.flatMap fun line => chunks count (line.length + 1) line)
  | .equalBytes count => equalParts count text
  | .equalLines count =>
    let size := max count text.length / max 1 count
    collected (2 * text.length + 2) 0 [] (placedLines count (max 1 size) 0 pieces)
  | .turns count =>
    let rounds := chunks count (pieces.length + 1) pieces
    (List.range (min count pieces.length)).map fun index =>
      (rounds.filterMap fun round => round[index]?).flatten

/-- The digits of a number in an alphabet, in a given width. -/
def digitsIn (alphabet : Text) : Nat → Nat → Text
  | 0, _ => []
  | width + 1, value =>
    let size := max 1 alphabet.length
    digitsIn alphabet width (value / size) ++ [alphabet.getD (value % size) 'a']

/-- The suffix of a part; longer ones follow where the first of the last letter would begin. -/
def growingSuffix (alphabet : Text) : (fuel : Nat) → (width : Nat) → Nat → Text
  | 0, width, index => digitsIn alphabet width index
  | fuel + 1, width, index =>
    let size := max 1 alphabet.length
    let room := (size - 1) * Nat.pow size (width - 1)
    if index < room then digitsIn alphabet width index
    else alphabet.getLast?.toList ++ growingSuffix alphabet fuel (width + 1) (index - room)

/-- How the names of parts are made. -/
structure Naming where
  start : Text := ['x']
  alphabet : Text := "abcdefghijklmnopqrstuvwxyz".toList
  width : Nat := 2
  /-- Whether suffixes grow. -/
  grows : Bool := true
  /-- The index of the first part. -/
  first : Nat := 0
  ending : Text := []

/-- The name of a part, unless there are too many. -/
def Naming.nameOf? (naming : Naming) (index : Nat) : Option Text :=
  let wrap (suffix : Text) : Text := naming.start ++ suffix ++ naming.ending
  if naming.grows then some (wrap (growingSuffix naming.alphabet 64 naming.width index))
  else
    let index := index + naming.first
    if index < Nat.pow naming.alphabet.length naming.width then
      some (wrap (digitsIn naming.alphabet naming.width index))
    else none

/-- What the options of a division say. -/
structure Wish where
  rule : Option Rule := none
  /-- The one part that is wanted. -/
  only : Option Nat := none
  /-- The width of suffixes; zero if they suit the parts. -/
  width : Nat := 0
  isHexadecimal : Bool := false
  isDecimal : Bool := false
  first : Option Text := none
  ending : Text := []
  omitsEmpty : Bool := false
  command : Option Text := none
  tells : Bool := false
  separator : Option Char := none
  /-- The place of the argument whose digits give a number of lines. -/
  digitPlace : Option Nat := none

namespace Wish

/-- The digits of suffixes. -/
def alphabet (wish : Wish) : Text :=
  if wish.isDecimal then "0123456789".toList
  else if wish.isHexadecimal then "0123456789abcdef".toList
  else ({} : Naming).alphabet

/-- Reading of options. -/
abbrev Reading := StateT Wish Work

/-- Sets the rule, of which there may be only one. -/
def setRule (make : Work (Rule × Option Nat)) : Reading Unit := do
  if (← get).rule.isSome then (Work.failUsage "cannot split in more than one way".toList : Work Unit)
  let (rule, only) ← (make : Work _)
  modify ({ · with rule := some rule, only })

/-- The rule for a number of parts, with the part that is wanted if there is just one. -/
def readParts (text : Text) : Work (Rule × Option Nat) := do
  let text := text.dropWhile isSpace
  let (make, text) : (Nat → Rule) × Text :=
    match text with
    | 'r' :: '/' :: rest => (.turns, rest)
    | 'l' :: '/' :: rest => (.equalLines, rest)
    | _ => (.equalBytes, text)
  let before := text.takeWhile (· ≠ '/')
  let count := quantityOf "invalid number of chunks".toList {} 1 quantityLimit
  if before.length = text.length then return (make (← count text), none)
  else
    let parts ← count (text.drop (before.length + 1))
    if before.isEmpty then return (make parts, none)
    else return (make parts, some (← quantityOf "invalid chunk number".toList {} 1 parts before))

/-- Takes in a digit of a number of lines. -/
def addDigit (option : Given) : Reading Unit := do
  let wish ← get
  let before ← match wish.rule, wish.digitPlace with
    | none, _ => pure 0
    | some (.lines count), some place => pure (if place = option.place then count else 0)
    | _, _ => (Work.failUsage "cannot split in more than one way".toList : Work Nat)
  let count := before * 10 + digitsValue [option.letter]
  if quantityLimit < count then
    (Work.fail ("line count option -".toList ++ number before ++ option.letter :: "... is too large".toList) :
      Work Unit)
  set { wish with rule := some (.lines count), digitPlace := some option.place }

/-- Takes in the character that ends lines. -/
def setSeparator (text : Text) : Reading Unit := do
  let last ← (match text with
    | [] => Work.fail "empty record separator".toList
    | [char] => return char
    | ['\\', '0'] => return '\x00'
    | _ => Work.fail ("multi-character separator ".toList ++ quoted text) : Work Char)
  if (← get).separator.any (· ≠ last) then
    (Work.fail "multiple separator characters specified".toList : Work Unit)
  modify ({ · with separator := some last })

/-- Takes in where suffixes of digits start. -/
def setFirst (kind : String) (text : Option Text) : Reading Unit := do
  match text with
  | none => return ()
  | some text =>
    if text.all (← get).alphabet.contains then
      let significant := text.dropWhile (· = '0')
      modify ({ · with
        first := some (if significant.isEmpty then text.drop (text.length - 1) else significant) })
    else
      (Work.failUsage (quoted text ++ ": invalid start value for ".toList ++ kind.toList ++ " suffix".toList) :
        Work Unit)

/-- Reads an option. -/
def noteOption (option : Given) : Reading Unit := do
  let text := option.argument.getD []
  let size (what : String) (letters : QuantityLetters) (most : Nat) : Work Nat :=
    quantityOf ("invalid number of ".toList ++ what.toList) letters 1 most text
  match option.letter with
  | 'a' =>
    let width ← quantityOf "invalid suffix length".toList {} 0 2305843009213693951 text
    modify ({ · with width })
  | 'b' => setRule do return (.bytes (← size "bytes" sizeLetters 9223372036854775807), none)
  | 'C' => setRule do return (.lineBytes (← size "bytes" sizeLetters 9223372036854775807), none)
  | 'l' => setRule do return (.lines (← size "lines" {} quantityLimit), none)
  | 'n' => setRule (readParts text)
  | 'd' | '\x05' => do
    modify ({ · with isDecimal := true, isHexadecimal := false })
    setFirst "numerical" option.argument
  | 'x' | '\x06' => do
    modify ({ · with isDecimal := false, isHexadecimal := true })
    setFirst "hexadecimal" option.argument
  | 'e' => modify ({ · with omitsEmpty := true })
  | 't' => setSeparator text
  | 'u' => return ()
  | '\x01' => do
    if text.contains '/' then
      (Work.failUsage ("invalid suffix ".toList ++ quoted text ++ ", contains directory separator".toList) :
        Work Unit)
    modify ({ · with ending := text })
  | '\x02' => modify ({ · with tells := true })
  | '\x03' => modify ({ · with command := some text })
  | '\x04' =>
    let _ ← quantityOf "invalid IO block size".toList sizeLetters 1 2146435072 text
    return ()
  | _ => addDigit option

/-- The value of digits in the alphabet of a wish. -/
def valueOf (wish : Wish) (digits : Text) : Nat :=
  digits.foldl (fun value digit => value * wish.alphabet.length + wish.alphabet.idxOf digit) 0

/-- How wide suffixes have to be for a number of parts. -/
def neededWidth (wish : Wish) (count : Nat) : Nat :=
  let first := ((wish.first.bind natural?).filter (· < count)).getD 0
  let base := max 2 wish.alphabet.length
  let last := count - 1 + first
  ((List.range 64).takeWhile fun width => width = 0 || Nat.pow base width ≤ last).length

/-- How parts are named. -/
def naming (wish : Wish) (rule : Rule) (start : Text) : Work Naming := do
  let needed := (rule.partCount?.map wish.neededWidth).getD 0
  if wish.width ≠ 0 && wish.width < needed then
    Work.fail ("the suffix length needs to be at least ".toList ++ number needed)
  return {
    start
    alphabet := wish.alphabet
    width := if wish.width ≠ 0 then wish.width else max 2 needed
    grows := wish.width = 0 && wish.first.isNone && rule.partCount?.isNone
    first := (wish.first.map wish.valueOf).getD 0
    ending := wish.ending }

end Wish

end Division

open Division

/-- The options of a division. -/
def splitOptions : OptionTable where
  letters := "0123456789C:a:b:del:n:t:ux\x01:\x02\x03:\x04:\x05::\x06::"
  names :=
    [("bytes", 'b'), ("lines", 'l'), ("line-bytes", 'C'), ("number", 'n'), ("elide-empty-files", 'e'),
      ("unbuffered", 'u'), ("suffix-length", 'a'), ("additional-suffix", '\x01'), ("numeric-suffixes", '\x05'),
      ("hex-suffixes", '\x06'), ("filter", '\x03'), ("verbose", '\x02'), ("separator", 't'),
      ("-io-blksize", '\x04')]

/-- Where parts go. -/
structure Outlet where
  naming : Naming
  /-- The command whose input they are, with the variables for it. -/
  command : Option Text
  settings : Variables
  tells : Bool
  /-- The file that is divided. -/
  source : Option FileFacts

namespace Outlet

/-- Writes a part to a file. -/
def writeFile (outlet : Outlet) (path part : Text) : Work Unit := do
  if outlet.tells then Work.putLine ("creating file ".toList ++ inQuotes path)
  match outlet.source, ← Work.facts path true with
  | some source, .ok facts =>
    if source.number = facts.number && facts.kind = .regular then
      Work.fail (inQuotes path ++ " would overwrite input; aborting".toList)
  | _, _ => pure ()
  match ← Work.openAside path .replace with
  | .error errno => Work.fail (because (shownName path) errno)
  | .ok descriptor => do
    match ← Work.writeAll descriptor (part.length + 1) (Bytes.ofChars part) with
    | some errno => Work.fail (because (shownName path) errno)
    | none => Work.tell (.close descriptor)

/-- Complains about how a command has ended. -/
def judge (path command : Text) (how : Option Termination) : Work Unit := do
  let refuse (status : Nat) (what : Text) : Work Unit := do
    Work.complain ("with FILE=".toList ++ shownName path ++ ", ".toList ++ what ++ " from command: ".toList ++ command)
    Work.leaveWith status
  match how with
  | some (.exited status) => if status ≠ 0 then refuse status ("exit ".toList ++ number status)
  | some (.signaled signal) =>
    if signal ≠ Signal.pipe then
      refuse (signal + 128) ("signal ".toList ++
        (match Signal.name? signal with
          | some name => name.toList.drop 3
          | none => number signal))
  | _ => return ()

/-- Writes a part to a command. -/
def writeCommand (outlet : Outlet) (command path part : Text) : Work Unit := do
  if outlet.tells then Work.putLine ("executing with FILE=".toList ++ shownName path)
  let held := ((← get).collected, (← get).collectedSize)
  modify ({ · with collected := [], collectedSize := 0 })
  let shell := (outlet.settings.lookup "SHELL".toList).getD "/bin/sh".toList
  let settings := outlet.settings.filter (·.1 ≠ "FILE".toList) ++ [("FILE".toList, path)]
  match ← Work.ask .pipe with
  | .ends source target => do
    let inChild : Work Unit := do
      Work.tell (.close target)
      Work.tell (.duplicate source 0)
      Work.tell (.close source)
      Work.tell (.configure (.signal Signal.pipe .usual))
      let environment := settings.map fun (name, value) => (Bytes.ofChars name, Bytes.ofChars value)
      Work.tell (.configure (.environment environment))
      let arguments := [baseName shell, "-c".toList, command]
      match ← Work.ask (.load (Bytes.ofChars shell) (arguments.map Bytes.ofChars)) with
      | .failed errno =>
        Work.complain (because ("failed to run command: \x22".toList ++ shell ++ " -c ".toList ++ command ++
          ['\x22']) errno)
        Work.leaveWith 1
      | _ => Work.leaveWith 1
    let child ← runAside inChild
    Work.tell (.close source)
    let failure ← Work.writeAll target (part.length + 1) (Bytes.ofChars part)
    Work.tell (.close target)
    modify ({ · with collected := held.1, collectedSize := held.2 })
    match failure with
    | some .brokenPipe | none => pure ()
    | some errno => Work.fail (because (shownName path) errno)
    match child with
    | some child => judge path command (← endOf child)
    | none => return ()
  | .failed errno => Work.fail (because "failed to create pipe".toList errno)
  | _ => return ()

/-- Writes parts. -/
def writeAll (outlet : Outlet) : Nat → List Text → Work Unit
  | _, [] => return ()
  | index, part :: later => do
    match outlet.naming.nameOf? index with
    | none => Work.fail "output file suffixes exhausted".toList
    | some path => do
      match outlet.command with
      | some command => outlet.writeCommand command path part
      | none => outlet.writeFile path part
      outlet.writeAll (index + 1) later

end Outlet

/-- Opens what is to be divided. -/
def openDivided (operand : Text) : Work Nat := do
  if operand = inputOperand then return 0
  else
    match ← Work.openAside operand .read with
    | .ok descriptor => return descriptor
    | .error errno =>
      Work.fail (because ("cannot open ".toList ++ inQuotes operand ++ " for reading".toList) errno)

/-- Reads what is to be divided. -/
def readDivided (rule : Rule) (operand : Text) (descriptor : Nat) : Work Text := do
  let name := shownName operand
  let unknown := name ++ ": cannot determine file size".toList
  if (← Work.factsOf descriptor).isNone then Work.fail (because name .badDescriptor)
  if rule.needsSize then
    match ← Work.ask (.seek descriptor 0) with
    | .failed errno => Work.fail (if errno = .illegalSeek then unknown else because unknown errno)
    | _ => pure ()
  match ← Work.readToEnd descriptor stepLimit [] with
  | .ok text => return text
  | .error errno => Work.fail (because (if rule.needsSize then unknown else name) errno)

/-- Divides a file into several files. -/
def split (settings : Variables) (arguments : List Text) : Work Unit := do
  let reading : Wish.Reading (List Given × List Text) := readOptionsWith Wish.noteOption splitOptions arguments
  let ((_, operands), wish) ← reading.run {}
  if wish.only.isSome && wish.command.isSome then
    Work.failUsage "--filter does not process a chunk extracted to stdout".toList
  let rule := wish.rule.getD (.lines 1000)
  if rule.isVoid then Work.failUsage "invalid number of lines: '0'".toList
  let naming ← wish.naming rule (operands.getD 1 ['x'])
  match operands.drop 2 with
  | extra :: _ => failExtra extra
  | [] => pure ()
  if wish.first.any (naming.width < ·.length) then
    Work.failUsage "numerical suffix start value is too large for the suffix length".toList
  let operand := operands.headD inputOperand
  let descriptor ← openDivided operand
  let source ← Work.factsOf descriptor
  let text ← readDivided rule operand descriptor
  let parts := rule.divide (wish.separator.getD '\n') text
  match wish.only with
  | some place => Work.put (parts.getD (place - 1) [])
  | none => do
    if wish.command.isSome then Work.tell (.configure (.signal Signal.pipe .ignore))
    let missing := (rule.partCount?.getD 0) - parts.length
    let isLimited := missing ≠ 0 && !wish.omitsEmpty
    let outlet : Outlet := { naming, command := wish.command, settings, tells := wish.tells, source }
    let parts := if wish.omitsEmpty then parts.filter (!·.isEmpty) else parts
    outlet.writeAll 0 parts
    if isLimited then outlet.writeAll parts.length (List.replicate missing [])

end Pipework.Tool
