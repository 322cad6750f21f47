import Pipework.Calendar.Display
import Pipework.Tool.Date
import Pipework.Tool.Page.Sheet
import Pipework.Tool.Quantity

set_option autoImplicit false

/-!
The tool that divides files into pages for a printer.
-/

namespace Pipework.Tool

open Kernel

namespace Page

/-- Reads the first page and perhaps the last one. Gives none if they are out of order. -/
def readPages? (option text : Text) : Work (Option (Nat × Nat)) := do
  match readQuantity? {} text with
  | none => failQuantity option none text
  | some first => do
    if first.overflows then failQuantity option (some { first with rest := [] }) text
    if first.value = 0 then return none
    match first.rest with
    | [] => return some (first.value, quantityLimit)
    | ':' :: later =>
      match readQuantity? {} later with
      | none => failQuantity option none text
      | some last => do
        if last.overflows || !last.rest.isEmpty then failQuantity option (some last) text
        if last.value < first.value then return none
        return some (first.value, last.value)
    | _ => return none

/-- Reads a character and a width, of which each may be missing. -/
def readTab (letter : Char) (char : Char) (width : Nat) (text : Text) : Work (Char × Nat) := do
  let (char, digits) : Char × Text :=
    match text with
    | [] => (char, [])
    | first :: rest => if isDigit first then (char, text) else (first, rest)
  if text.isEmpty then
    Work.failUsage ("'-".toList ++ letter :: "': Invalid argument: ".toList ++ quoted text)
  if digits.isEmpty then return (char, width)
  else
    let fault := "'-".toList ++ letter :: "' extra characters or invalid number in the argument: ".toList ++ quoted digits
    match readSigned? digits with
    | some (value, []) =>
      if value ≤ 0 then Work.failUsage fault
      else if 2147483647 < value then Work.failUsage (because fault .valueTooLarge)
      else return (char, value.toNat)
    | _ => Work.failUsage fault

/-- What is known while options are read: the digits of a number of columns at last. -/
structure OptionReading where
  wish : Wish := {}
  digits : Text := []
  goesOn : Bool := false

/-- Takes on an option. -/
def addOption (reading : OptionReading) (option : Given) : Work OptionReading := do
  let wish := reading.wish
  let text := option.argument.getD []
  let count (complaint : String) (least : Int) : Work Int := integerOf complaint.toList least 2147483647 text
  if isDigit option.letter then
    let digits := if reading.goesOn then reading.digits ++ [option.letter] else [option.letter]
    return { reading with digits, goesOn := true }
  else
    let reading := { reading with goesOn := false }
    let keep (wish : Wish) : Work OptionReading := return { reading with wish }
    match option.letter with
    | '\x01' => do
      match ← readPages? "--pages".toList text with
      | some (first, last) => keep { wish with firstPage := some first, lastPage := last }
      | none => Work.fail ("invalid page range ".toList ++ quoted text)
    | '\x02' => do
      let columns ← count "invalid number of columns" 1
      return { wish := { wish with columns := some columns.toNat } }
    | 'a' => keep { wish with across := true }
    | 'c' => keep { wish with usesCarets := true }
    | 'd' => keep { wish with doubleSpaced := true }
    | 'D' => keep { wish with dateFormat := some text }
    | 'e' =>
      match option.argument with
      | none => keep { wish with expandsTabs := true }
      | some text => do
        let (inputTab, inputTabWidth) ← readTab 'e' wish.inputTab wish.inputTabWidth text
        keep { wish with expandsTabs := true, inputTab, inputTabWidth }
    | 'f' | 'F' => keep { wish with usesFormFeed := true }
    | 'h' => keep { wish with header := some text }
    | 'i' =>
      match option.argument with
      | none => keep { wish with makesTabs := true }
      | some text => do
        let (outputTab, outputTabWidth) ← readTab 'i' wish.outputTab wish.outputTabWidth text
        keep { wish with makesTabs := true, outputTab, outputTabWidth }
    | 'J' => keep { wish with joins := true }
    | 'l' => do keep { wish with length := (← count "'-l PAGE_LENGTH' invalid number of lines" 1).toNat }
    | 'm' => keep { wish with parallel := true }
    | 'n' =>
      match option.argument with
      | none => keep { wish with isNumbered := true }
      | some text => do
        let (numberSeparator, numberLength) ← readTab 'n' wish.numberSeparator wish.numberLength text
        keep { wish with isNumbered := true, numberSeparator, numberLength }
    | 'N' => do
      let startNumber ← count "'-N NUMBER' invalid starting line number" (-2147483648)
      keep { wish with startNumber, countsSkipped := false }
    | 'o' => do keep { wish with margin := (← count "'-o MARGIN' invalid line offset" 0).toNat }
    | 'r' => keep { wish with ignoresMissing := true }
    | 's' =>
      keep { wish with
        hasLooseSeparator := true
        separator := if wish.usesSeparator then wish.separator else option.argument.getD wish.separator }
    | 'S' => keep { wish with hasLooseSeparator := false, usesSeparator := true, separator := text }
    | 't' => keep { wish with hasEnds := false, keepsFormFeeds := true }
    | 'T' => keep { wish with hasEnds := false, keepsFormFeeds := false }
    | 'v' => keep { wish with usesOctal := true }
    | 'w' => do
      let width ← count "'-w PAGE_WIDTH' invalid number of characters" 1
      keep { wish with hasLooseWidth := true, width := if wish.truncates then wish.width else width.toNat }
    | 'W' => do
      let width ← count "'-W PAGE_WIDTH' invalid number of characters" 1
      keep { wish with hasLooseWidth := false, truncates := true, width := width.toNat }
    | _ => keep wish

/-- Takes out an operand that tells pages, unless an option did. -/
def takePages (wish : Wish) : List Text → Work (Wish × List Text)
  | [] => return (wish, [])
  | ('+' :: text) :: later => do
    let keep : Work (Wish × List Text) := do
      let (wish, later) ← takePages wish later
      return (wish, ('+' :: text) :: later)
    if wish.firstPage.isSome then keep
    else
      match ← readPages? ['+'] text with
      | some (first, last) => takePages { wish with firstPage := some first, lastPage := last } later
      | none => keep
  | operand :: later => do
    let (wish, later) ← takePages wish later
    return (wish, operand :: later)

/-- The usual format of the date in the head of a page. -/
def usualDate : String := "%Y-%m-%d %H:%M"

/-- Opens an input. Gives what is in it and when it was changed, unless it comes from the standard input. -/
def openSource (ignoresMissing : Bool) (operand : Text) : Work (Option (Source × Option Moment)) := do
  if operand = inputOperand then
    return some (← readSource "standard input".toList 0, none)
  else
    match ← Work.openAside operand .read with
    | .ok descriptor => do
      let facts ← Work.factsOf descriptor
      let source ← readSource operand descriptor
      Work.tell (.close descriptor)
      return some (source, facts.map FileFacts.modified)
    | .error errno => do
      if ignoresMissing then Work.noteFailure else Work.report (because (shownName operand) errno)
      return none
where
  readSource (name : Text) (descriptor : Nat) : Work Source := do
    match ← Work.readToEnd descriptor stepLimit [] with
    | .ok rest => return { name, rest }
    | .error errno => return { name, rest := [], failure := some errno }

/-- Writes the pages of one file, or of files side by side. Gives whether a form feed is owed. -/
def writePages (zone : Zone) (wish : Wish) (hasFiles owes : Bool) (operands : List Text) : Work Bool := do
  match Layout.of? wish operands.length hasFiles with
  | none => Work.fail "page width too narrow".toList
  | some layout => do
    let opened ← operands.filterMapM fun operand => do
      return (← openSource wish.ignoresMissing operand).map fun (source, moment) => (operand, source, moment)
    let moment ← match opened, layout.isParallel with
      | [(_, _, some moment)], false => pure moment
      | _, _ => currentMoment
    let isNamed : Bool := !layout.isParallel && hasFiles
    let named := if isNamed then operands.headD [] else []
    let named := if named = inputOperand then [] else named
    let count := if layout.isParallel then opened.length else if opened.isEmpty then 0 else layout.columns
    if count = 0 then return owes
    else
      let format := wish.dateFormat.getD usualDate.toList
      let inputs := (opened.map fun (_, source, _) => source).toArray
      let firstInput := (operands.filter fun operand => opened.any (·.1 = operand)).findIdx (· = inputOperand)
      let columns : List Column := (List.range count).map fun index =>
        let isShared : Bool := (opened[index]?).any (·.1 = inputOperand)
        { source := if !layout.isParallel then 0 else if isShared then firstInput else index }
      let sheet : Sheet :=
        { layout, sources := inputs, columns := columns.toArray, date := (zone.localTime moment).write format
          title := wish.header.getD named, owesFormFeed := owes, ready := opened.length }
      let (result, sheet) := (showAll.run).run sheet
      Work.put sheet.written.reverse
      match result with
      | .ok none => pure ()
      | .ok (some count) =>
        Work.complain ("starting page number ".toList ++ number (wish.firstPage.getD 1) ++
          " exceeds page count ".toList ++ number count)
      | .error (name, errno) => Work.fail (because (shownName name) errno)
      return sheet.owesFormFeed

end Page

open Page

/-- The options of pages. -/
def prOptions : OptionTable where
  letters := "0123456789D:FJN:S::TW:abcde::fh:i::l:mn::o:rs::tvw:\x01:\x02:"
  names :=
    [("pages", '\x01'), ("columns", '\x02'), ("across", 'a'), ("show-control-chars", 'c'), ("double-space", 'd'),
      ("date-format", 'D'), ("expand-tabs", 'e'), ("form-feed", 'f'), ("header", 'h'), ("output-tabs", 'i'),
      ("join-lines", 'J'), ("length", 'l'), ("merge", 'm'), ("number-lines", 'n'), ("first-line-number", 'N'),
      ("indent", 'o'), ("no-file-warnings", 'r'), ("separator", 's'), ("sep-string", 'S'), ("omit-header", 't'),
      ("omit-pagination", 'T'), ("show-nonprinting", 'v'), ("width", 'w'), ("page-width", 'W')]

/-- Divides files into pages. -/
def pr (settings : Variables) (arguments : List Text) : Work Unit := do
  let (given, operands) ← readOptions prOptions arguments
  let reading ← given.foldlM addOption {}
  let (wish, operands) ← takePages reading.wish operands
  let columns ← if reading.digits.isEmpty then pure wish.columns else do
    pure (some (← integerOf "invalid number of columns".toList 1 2147483647 reading.digits).toNat)
  let wish := { wish with columns }
  if wish.parallel && columns.isSome then
    Work.fail "cannot specify number of columns when printing in parallel".toList
  if wish.parallel && wish.across then
    Work.fail "cannot specify both printing across and printing in parallel".toList
  let wish := wish.settled
  let write := writePages settings.zone wish
  if operands.isEmpty then
    let _ ← write false false [inputOperand]
  else if wish.parallel then
    let _ ← write true false operands
  else
    let _ ← operands.foldlM (fun owes operand => write true owes [operand]) false

end Pipework.Tool
