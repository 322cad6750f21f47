import Pipework.Bytes
import Pipework.Tool.Block.Setting
import Pipework.Tool.Path

set_option autoImplicit false

/-!
Copying in blocks. Blocks are read and written one by one and counted, those that are not full separately.

Amounts in units that suit them: a few digits and a letter for a power of a thousand or of 1024. An amount below ten
units has one place behind the point.
-/

namespace Pipework

/-- Where an amount goes that lies between two numbers. -/
inductive Rounding where
  /-- To the nearer one; from the middle to the even one. -/
  | nearest
  | up
  deriving DecidableEq, Repr

/-- A quotient as a whole number. -/
def Rounding.divide (rounding : Rounding) (numerator denominator : Nat) : Nat :=
  let whole := numerator / denominator
  let rest := numerator % denominator
  match rounding with
  | up => if rest = 0 then whole else whole + 1
  | nearest =>
    if 2 * rest < denominator || (2 * rest = denominator && whole % 2 = 0) then whole else whole + 1

/-- How amounts are written. -/
structure MagnitudeStyle where
  base : Nat := 1024
  rounding : Rounding := .up
  /-- What stands between the digits and the unit. -/
  gap : Text := []
  /-- What stands behind the letter of a unit, and behind digits without one. -/
  behindLetter : Text := []
  alone : Text := []

namespace MagnitudeStyle

/-- The letters of the powers. -/
def letters : Text := "KMGTPEZY".toList

/-- The letter of a power; a thousand has a small one. -/
def letter (style : MagnitudeStyle) (exponent : Nat) : Text :=
  if exponent = 0 then []
  else if exponent = 1 && style.base = 1000 then ['k']
  else (letters[exponent - 1]?).toList

/-- The largest power that an amount reaches. -/
def exponentOf (style : MagnitudeStyle) (amount : Nat) : Nat :=
  ((List.range letters.length).takeWhile fun exponent => Nat.pow style.base (exponent + 1) ≤ amount).length

/-- Digits with the unit of a power. -/
def withUnit (style : MagnitudeStyle) (digits : Text) (exponent : Nat) : Text :=
  let unit := style.letter exponent ++ (if exponent = 0 then style.alone else style.behindLetter)
  if unit.isEmpty then digits else digits ++ style.gap ++ unit

/-- An amount in a unit that suits it. -/
def write (style : MagnitudeStyle) (amount : Nat) : Text :=
  let digits (value : Nat) : Text := (toString value).toList
  let exponent := style.exponentOf amount
  let size := Nat.pow style.base exponent
  let tenths := style.rounding.divide (amount * 10) size
  if 0 < exponent && amount / size < 10 && tenths < 100 then
    style.withUnit (digits (tenths / 10) ++ '.' :: digits (tenths % 10)) exponent
  else
    let whole := style.rounding.divide amount size
    if whole = style.base && exponent < letters.length then style.withUnit "1.0".toList (exponent + 1)
    else style.withUnit (digits whole) exponent

end MagnitudeStyle

end Pipework

namespace Pipework.Tool

open Kernel

namespace Block

/-- How many blocks were full and how many were not. -/
structure Count where
  full : Nat := 0
  short : Nat := 0

def Count.total (count : Count) : Nat := count.full + count.short

def Count.add (count : Count) (size length : Nat) : Count :=
  if length = size then { count with full := count.full + 1 } else { count with short := count.short + 1 }

def Count.show (count : Count) (direction : String) : Text :=
  number count.full ++ '+' :: number count.short ++ " records ".toList ++ direction.toList

/-- How far copying has come. -/
structure Flow where
  source : Nat := 0
  target : Nat := 1
  taken : Count := {}
  put : Count := {}
  /-- How many bytes were written. -/
  total : Nat := 0
  /-- How many lines were longer than a record. -/
  cut : Nat := 0
  /-- Data that is not written yet, the latest part first, and how much it is. -/
  held : List Text := []
  heldSize : Nat := 0
  /-- A byte that waits for another one to change places with. -/
  single : Option Char := none
  /-- The column in a line or a record. -/
  column : Nat := 0
  /-- Blanks of a record that are written only if something follows them. -/
  blanks : Nat := 0
  /-- How much the last read gave. -/
  lastRead : Nat := 0
  /-- Whether a short read is still worth a warning. -/
  minds : Bool := false

/-- Copying; it may break off. -/
abbrev Copying := ExceptT Unit (StateT Flow Work)

namespace Copying

/-- Does some work of a tool. -/
def lift {α : Type} (work : Work α) : Copying α := ExceptT.lift (StateT.lift work)

/-- Complains, and breaks off. -/
def stop {α : Type} (message : Text) : Copying α := do
  lift (Work.report message)
  throw ()

end Copying

/-- The name of a file in quotes; a standard stream if there is none. -/
def nameOf (stream : String) (path : Option Text) : Text := path.getD stream.toList

def sourceName (setting : Setting) : Text := nameOf "standard input" setting.source

def targetName (setting : Setting) : Text := nameOf "standard output" setting.target

/-- Writes data. Gives the reason if that fails. -/
def writeOut (text : Text) : Copying (Option Errno) := do
  let result ← Copying.lift (Work.writeAll (← get).target (text.length + 1) (Bytes.ofChars text))
  if result.isNone then modify fun flow => { flow with total := flow.total + text.length }
  return result

/-- Writes the last block. -/
def writeLast (setting : Setting) (text : Text) : Copying Unit := do
  match ← writeOut text with
  | some errno => Copying.stop (because ("error writing ".toList ++ inQuotes (targetName setting)) errno)
  | none => return ()

/-- Writes full blocks of what is held. -/
def writeFull (setting : Setting) : Nat → Text → Copying Unit
  | 0, _ => return ()
  | fuel + 1, text => do
    let size := setting.writeBlock
    if text.length < size then
      modify ({ · with held := if text.isEmpty then [] else [text], heldSize := text.length })
    else
      match ← writeOut (text.take size) with
      | some errno => Copying.stop (because ("writing to ".toList ++ inQuotes (targetName setting)) errno)
      | none => do
        modify fun flow => { flow with put := flow.put.add size size }
        writeFull setting fuel (text.drop size)

/-- Holds data until there is a full block of it. -/
def hold (setting : Setting) (text : Text) : Copying Unit := do
  modify fun flow => { flow with held := text :: flow.held, heldSize := flow.heldSize + text.length }
  let flow ← get
  if setting.writeBlock ≤ flow.heldSize then writeFull setting (flow.heldSize + 1) flow.held.reverse.flatten

/-- Exchanges characters in pairs. What is left over waits. -/
def swapPairs : Text → Text × Option Char
  | first :: second :: rest =>
    let (swapped, single) := swapPairs rest
    (second :: first :: swapped, single)
  | [single] => ([], some single)
  | [] => ([], none)

/-- The part of a text in pairs that have changed places, where a byte may have waited before it. -/
def exchange (text : Text) : Copying Text := do
  let (swapped, single) := swapPairs ((← get).single.toList ++ text)
  modify ({ · with single })
  return swapped

/-- The line feed and the blank of records: those of the other set if characters are brought to it. -/
structure Marks where
  feed : Char
  blank : Char

def Setting.marks (setting : Setting) : Marks :=
  match setting.charset with
  | none | some .ascii => ⟨'\n', ' '⟩
  | some charset => ⟨Char.ofNat (charset.table.getD 10 10), Char.ofNat (charset.table.getD 32 32)⟩

/-- Turns lines into records: each is filled up with blanks or cut. -/
def toRecords (marks : Marks) (size : Nat) (flow : Flow) (text : Text) : Flow × Text :=
  let step (passed : Flow × List Text) (char : Char) : Flow × List Text :=
    let (flow, parts) := passed
    if char = marks.feed then
      ({ flow with column := 0 }, List.replicate (size - flow.column) marks.blank :: parts)
    else
      let flow := { flow with column := flow.column + 1 }
      if flow.column ≤ size then (flow, [char] :: parts)
      else (if flow.column = size + 1 then { flow with cut := flow.cut + 1 } else flow, parts)
  let (flow, parts) := text.foldl step (flow, [])
  (flow, parts.reverse.flatten)

/-- Turns records into lines: blanks at their ends are dropped. -/
def toLines (marks : Marks) (size : Nat) (flow : Flow) (text : Text) : Flow × Text :=
  let step (passed : Flow × List Text) (char : Char) : Flow × List Text :=
    let (flow, parts) := passed
    let (flow, parts) : Flow × List Text :=
      if size ≤ flow.column then ({ flow with column := 0, blanks := 0 }, [marks.feed] :: parts) else (flow, parts)
    let flow := { flow with column := flow.column + 1 }
    if char = marks.blank then ({ flow with blanks := flow.blanks + 1 }, parts)
    else ({ flow with blanks := 0 }, [char] :: List.replicate flow.blanks marks.blank :: parts)
  let (flow, parts) := text.foldl step (flow, [])
  (flow, parts.reverse.flatten)

/-- Holds data, as records or lines if that is wanted. -/
def arrange (setting : Setting) (text : Text) : Copying Unit := do
  let size := setting.recordSize.getD 1
  let flow ← get
  let (flow, text) :=
    if setting.makesRecords then toRecords setting.marks size flow text
    else if setting.makesLines then toLines setting.marks size flow text
    else (flow, text)
  set flow
  hold setting text

/-- How each byte is written. -/
def Setting.characters? (setting : Setting) : Option (Array Char) :=
  let change : Option (Char → Char) :=
    if setting.converts .upper then some Char.toUpper
    else if setting.converts .lower then some Char.toLower
    else none
  if setting.charset.isNone && change.isNone then none
  else
    match setting.charset with
    | none | some .ascii => some (translation setting.charset (change.getD id))
    | some charset =>
      let codes := charset.table.toArray
      some ((List.range 256).map fun code =>
        Char.ofNat (codes.getD ((change.getD id) (Char.ofNat code)).toNat 0)).toArray

/-- Takes in a block. -/
def takeBlock (setting : Setting) (characters : Option (Array Char)) (block : Text) : Copying Unit := do
  let size := setting.readBlock
  modify fun flow => { flow with taken := flow.taken.add size block.length }
  let filler := if setting.makesRecords || setting.makesLines then ' ' else '\x00'
  let block :=
    if setting.converts .fill then block ++ List.replicate (size - block.length) filler else block
  if setting.isDirect then
    writeLast setting block
    modify fun flow => { flow with put := flow.put.add size block.length }
  else
    let block := match characters with
      | none => block
      | some characters => block.map fun char => characters.getD char.toNat char
    arrange setting (← if setting.converts .swap then exchange block else pure block)

/-- Reads once. -/
def readOnce (setting : Setting) (size : Nat) : Nat → Copying (Except Errno Text)
  | 0 => return .ok []
  | fuel + 1 => do
    match ← Copying.lift (Work.ask (.read (← get).source size)) with
    | .failed .interrupted => readOnce setting size fuel
    | .failed errno => return .error errno
    | .data bytes => do
      let flow ← get
      if !bytes.isEmpty && flow.minds && 0 < flow.lastRead && flow.lastRead < setting.readBlock then
        if setting.report ≠ .nothing then
          Copying.lift (Work.complain ("warning: partial read (".toList ++ number flow.lastRead ++
            (if flow.lastRead = 1 then " byte".toList else " bytes".toList) ++
              "); suggest iflag=fullblock".toList))
        modify ({ · with minds := false })
      modify ({ · with lastRead := bytes.length })
      return .ok (Bytes.toChars bytes)
    | _ => return .ok []

/-- Reads until there is as much as is wanted, or nothing more. -/
def readFull (setting : Setting) : Nat → Nat → List Text → Copying (Except Errno Text)
  | 0, _, parts => return .ok parts.reverse.flatten
  | fuel + 1, size, parts => do
    if size = 0 then return .ok parts.reverse.flatten
    else
      match ← readOnce setting size stepLimit with
      | .ok [] => return .ok parts.reverse.flatten
      | .ok text => readFull setting fuel (size - text.length) (text :: parts)
      | .error errno => return .error errno

/-- Reads a block. -/
def readBlock (setting : Setting) (size : Nat) : Copying (Except Errno Text) :=
  if setting.sourceFlags.contains .fullBlock then readFull setting (size + 1) size []
  else readOnce setting size stepLimit

/-- Reads and writes blocks to the end, or until there are enough. -/
def copyBlocks (setting : Setting) (characters : Option (Array Char)) : Nat → Copying Unit
  | 0 => return ()
  | fuel + 1 => do
    let taken := (← get).taken.total
    let size := match setting.countParts with
      | none => setting.readBlock
      | some (blocks, bytes) =>
        if taken < blocks then setting.readBlock else if taken = blocks then bytes else 0
    if size = 0 then return ()
    else
      match ← readBlock setting size with
      | .ok [] => return ()
      | .ok block => do
        takeBlock setting characters block
        copyBlocks setting characters fuel
      | .error errno =>
        Copying.lift (Work.report (because ("error reading ".toList ++ inQuotes (sourceName setting)) errno))

/-- Writes what is still held. -/
def finish (setting : Setting) : Copying Unit := do
  match (← get).single with
  | some char => arrange setting [char]
  | none => pure ()
  let flow ← get
  if setting.makesRecords && 0 < flow.column then
    hold setting (List.replicate (setting.recordSize.getD 1 - flow.column) setting.marks.blank)
  if setting.makesLines && 0 < flow.column then hold setting [setting.marks.feed]
  let flow ← get
  if flow.heldSize ≠ 0 then
    modify fun flow => { flow with put := { flow.put with short := flow.put.short + 1 } }
    writeLast setting flow.held.reverse.flatten

/-- Reads blocks and the bytes behind them without using them. Gives how many bytes there were, and whether there
were enough blocks. -/
def readAway (setting : Setting) : Nat → Nat → Nat → Nat → Copying (Nat × Bool)
  | 0, _, _, passed => return (passed, true)
  | fuel + 1, blocks, bytes, passed => do
    if blocks = 0 && bytes = 0 then return (passed, true)
    else
      match ← readBlock setting (if blocks = 0 then bytes else setting.readBlock) with
      | .error errno =>
        Copying.stop (because ("error reading ".toList ++ inQuotes (sourceName setting)) errno)
      | .ok [] => return (passed, blocks = 0)
      | .ok text =>
        readAway setting fuel (blocks - 1) (if blocks = 0 then 0 else bytes) (passed + text.length)

/-- Passes over the beginning of the source. -/
def passSource (setting : Setting) : Copying Unit := do
  let (blocks, bytes) := setting.skippedParts
  let wanted := blocks * setting.readBlock + bytes
  let source := (← get).source
  if wanted ≠ 0 then
    let isEnough ← match ← Copying.lift (Work.ask (.seek source 0)) with
      | .number place => do
        let facts ← Copying.lift (Work.factsOf source)
        Copying.lift (Work.tell (.seek source (wanted : Nat)))
        pure (facts.all fun facts =>
          facts.kind ≠ .regular || wanted ≤ facts.size - place)
      | _ => do
        let (passed, isEnough) ← readAway setting stepLimit blocks bytes 0
        pure (isEnough && passed = wanted)
    if !isEnough && setting.report ≠ .nothing then
      Copying.lift (Work.complain (shownName (sourceName setting) ++
        ": cannot skip to specified offset".toList))

/-- Leaves the beginning of the target as it is. -/
def passTarget (setting : Setting) : Copying Unit := do
  let (blocks, bytes) := setting.leftParts
  let wanted := blocks * setting.writeBlock + bytes
  if wanted ≠ 0 then
    match ← Copying.lift (Work.ask (.seek (← get).target (wanted : Nat))) with
    | .failed errno => Copying.stop (because (shownName (targetName setting) ++ ": cannot seek".toList) errno)
    | _ => return ()

/-- Copies everything. -/
def copy (setting : Setting) : Copying Unit := do
  passSource setting
  passTarget setting
  if setting.countParts ≠ some (0, 0) then
    copyBlocks setting setting.characters? stepLimit
    finish setting

/-- How amounts are written in both kinds of units. -/
def decimalStyle : MagnitudeStyle where
  base := 1000
  rounding := .nearest
  gap := [' ']
  behindLetter := ['B']
  alone := ['B']

def binaryStyle : MagnitudeStyle := { decimalStyle with base := 1024, behindLetter := ['i', 'B'] }

/-- How much was copied. -/
def amount (total : Nat) : Text :=
  let units :=
    (if total < 1000 then [] else [decimalStyle.write total]) ++
      (if total < 1024 then [] else [binaryStyle.write total])
  number total ++ (if total = 1 then " byte".toList else " bytes".toList) ++
    (if units.isEmpty then [] else " (".toList ++ List.intercalate ", ".toList units ++ [')'])

/-- Tells how many blocks there were. -/
def tellCounts (setting : Setting) (flow : Flow) : Work Unit := do
  let cut :=
    if flow.cut = 0 then []
    else if flow.cut = 1 then ["1 truncated record".toList]
    else [number flow.cut ++ " truncated records".toList]
  let lines := match setting.report with
    | .nothing => []
    | .blocks => [flow.taken.show "in", flow.put.show "out"] ++ cut
    | .everything =>
      [flow.taken.show "in", flow.put.show "out"] ++ cut ++
        [amount flow.total ++ " copied, 0 s, Infinity B/s".toList]
  lines.forM fun line => Work.tell (.write 2 (Bytes.ofChars (line ++ ['\n'])))

/-- Gives up at a file that cannot be opened. -/
def failOpening {α : Type} (path : Text) (errno : Errno) : Work α :=
  Work.fail (because ("failed to open ".toList ++ inQuotes path) errno)

/-- Makes sure that a file has the properties that flags ask for. -/
def checkFlags (flags : List Flag) (path : Text) : Work Unit := do
  if flags.contains .noLinks then
    match ← Work.facts path false with
    | .ok facts => if facts.kind = .link then failOpening path .tooManyLinks
    | .error _ => pure ()
  if flags.contains .directory then
    match ← Work.facts path true with
    | .ok facts => if facts.kind ≠ .directory then failOpening path .notDirectory
    | .error errno => failOpening path errno

/-- Opens the source. -/
def openSource (setting : Setting) : Work Nat := do
  match setting.source with
  | none => return 0
  | some path => do
    checkFlags setting.sourceFlags path
    match ← Work.openAside path .read with
    | .ok descriptor => return descriptor
    | .error errno => failOpening path errno

/-- Opens the target, and cuts it off where data is to begin. -/
def openTarget (setting : Setting) : Work Nat := do
  match setting.target with
  | none => return 1
  | some path => do
    checkFlags (setting.targetFlags.filter (· ≠ .directory)) path
    if setting.converts .onlyNew then
      match ← Work.facts path false with
      | .ok _ => failOpening path .alreadyExists
      | .error _ => pure ()
    if setting.converts .onlyOld then
      match ← Work.facts path true with
      | .ok _ => pure ()
      | .error errno => failOpening path errno
    let (blocks, bytes) := setting.leftParts
    let keeps : Bool := blocks ≠ 0 || setting.converts .keep
    let access : Access :=
      if setting.targetFlags.contains .append then .append else if keeps then .update else .replace
    match ← Work.openAside path access with
    | .error errno => failOpening path errno
    | .ok descriptor => do
      let size := if blocks ≠ 0 then blocks * setting.writeBlock + bytes else 0
      if !setting.converts .keep && (blocks ≠ 0 || access = .append) then
        match ← Work.facts path true with
        | .ok facts =>
          if facts.kind = .regular then Work.tell (.edit (.resize (Bytes.ofChars path) size))
        | .error _ => pure ()
      return descriptor

end Block

/-- Copies a file in blocks. -/
def dd (arguments : List Text) : Work Unit := do
  let (_, operands) ← readOptions { letters := "" } arguments
  let setting ← operands.foldlM Block.Setting.add {}
  setting.check
  let source ← Block.openSource setting
  let target ← Block.openTarget setting
  let (_, flow) ← (Block.copy setting).run.run { source, target, minds := setting.minds }
  let close (descriptor : Nat) (standard : Nat) (what : String) (name : Text) : Work Unit := do
    if descriptor = standard then
      match ← Work.ask (.close standard) with
      | .failed errno =>
        Work.fail (because ("closing ".toList ++ what.toList ++ " file ".toList ++ inQuotes name) errno)
      | _ => return ()
  close source 0 "input" (Block.sourceName setting)
  close target 1 "output" (Block.targetName setting)
  Block.tellCounts setting flow

end Pipework.Tool
