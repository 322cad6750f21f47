import Pipework.Tool.Input

set_option autoImplicit false

/-!
How pages are laid out: how long and how wide they are, in how many columns, and what stands between columns.
-/

namespace Pipework.Tool

namespace Page

/-- What the options say. -/
structure Wish where
  firstPage : Option Nat := none
  lastPage : Nat := 18446744073709551615
  columns : Option Nat := none
  /-- Whether columns are filled in turn, row by row. -/
  across : Bool := false
  /-- Whether files stand side by side. -/
  parallel : Bool := false
  doubleSpaced : Bool := false
  dateFormat : Option Text := none
  header : Option Text := none
  inputTab : Char := '\t'
  inputTabWidth : Nat := 8
  expandsTabs : Bool := false
  outputTab : Char := '\t'
  outputTabWidth : Nat := 8
  makesTabs : Bool := false
  usesFormFeed : Bool := false
  joins : Bool := false
  length : Nat := 66
  width : Nat := 72
  truncates : Bool := false
  isNumbered : Bool := false
  numberSeparator : Char := '\t'
  numberLength : Nat := 5
  startNumber : Int := 1
  /-- Whether lines of pages that are left out are counted. -/
  countsSkipped : Bool := true
  margin : Nat := 0
  ignoresMissing : Bool := false
  separator : Text := []
  usesSeparator : Bool := false
  /-- Whether a separator, or a width, was given in the way that depends on the columns. -/
  hasLooseSeparator : Bool := false
  hasLooseWidth : Bool := false
  /-- Whether pages have heads and feet. -/
  hasEnds : Bool := true
  /-- Whether form feeds of the input are kept. -/
  keepsFormFeeds : Bool := false
  /-- Whether control characters are shown with a caret. -/
  usesCarets : Bool := false
  /-- Whether characters that cannot be seen are shown as octal numbers. -/
  usesOctal : Bool := false

namespace Wish

/-- Makes what depends on the columns definite. -/
def settled (wish : Wish) : Wish :=
  let hasColumns : Bool := wish.parallel || wish.columns.isSome
  if wish.hasLooseWidth then
    if hasColumns then
      { wish with truncates := true, usesSeparator := wish.usesSeparator || wish.hasLooseSeparator }
    else { wish with joins := true }
  else if wish.usesSeparator || !wish.hasLooseSeparator || !hasColumns then wish
  else if wish.truncates then { wish with usesSeparator := true }
  else { wish with joins := true, usesSeparator := !wish.separator.isEmpty }

end Wish

/-- The layout of pages. -/
structure Layout where
  wish : Wish
  /-- How many lines of text a page has. -/
  body : Nat
  columns : Nat
  hasEnds : Bool
  keepsFormFeeds : Bool
  isParallel : Bool
  /-- Whether a page is read before it is written, so that its columns become equally long. -/
  stores : Bool
  separator : Text
  usesSeparator : Bool
  truncates : Bool
  expandsTabs : Bool
  makesTabs : Bool
  /-- How wide line numbers are with what stands behind them. -/
  numberWidth : Nat
  columnWidth : Nat

/-- How many lines the head of a page has, and its foot. -/
def endLength : Nat := 5

/-- How far it is to the next tab stop. -/
def tabDistance (width position : Nat) : Nat := width - position % max 1 width

/-- The layout for some number of files side by side; none if the page is too narrow. -/
def Layout.of? (wish : Wish) (fileCount : Nat) (hasFiles : Bool) : Option Layout :=
  let isParallel : Bool := wish.parallel && hasFiles
  let isShort : Bool := wish.length ≤ 2 * endLength
  let hasEnds : Bool := wish.hasEnds && !isShort
  let body := if hasEnds then wish.length - 2 * endLength else wish.length
  let columns := if isParallel then fileCount else wish.columns.getD 1
  let isMultiple : Bool := 1 < columns
  let (separator, usesSeparator) : Text × Bool :=
    if !isMultiple then (wish.separator, wish.usesSeparator)
    else if !wish.usesSeparator then (if wish.joins then ['\t'] else [' '], true)
    else if !wish.joins && wish.separator = ['\t'] then ([' '], true)
    else (wish.separator, true)
  let numberWidth :=
    if !wish.isNumbered then 0
    else wish.numberLength + (if wish.numberSeparator = '\t' then tabDistance 8 wish.numberLength else 1)
  let room : Int :=
    (wish.width : Int) - (if isParallel then numberWidth else 0) - ((columns : Int) - 1) * separator.length
  let columnWidth := room.tdiv columns
  if columnWidth < 1 then none
  else
    some
      { wish, columns, isParallel, separator, usesSeparator, hasEnds, numberWidth
        body := if wish.doubleSpaced then body / 2 else body
        keepsFormFeeds := wish.keepsFormFeeds || isShort
        stores := isMultiple && !wish.across && !wish.parallel
        truncates := (wish.truncates || isMultiple) && !wish.joins
        expandsTabs := wish.expandsTabs || (isMultiple && separator ≠ ['\t'])
        makesTabs := wish.makesTabs || isMultiple
        columnWidth := columnWidth.toNat }

end Page

end Pipework.Tool
