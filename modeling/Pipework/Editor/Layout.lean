import Pipework.Text.Grapheme
import Pipework.Text.Width

set_option autoImplicit false

/-!
Layouts: where a prompt and a draft stand on a screen.
-/

namespace Pipework.Editor

/-- A place on a screen. -/
structure Position where
  column : Nat := 0
  row : Nat := 0
  deriving DecidableEq, Repr

/-- How many columns a screen has. -/
def screenWidth : Nat := 80

/-- How far the stops of the tab key are apart. -/
def tabStop : Nat := 8

namespace Position

/-- How far an escape sequence has been read. -/
inductive Escape where
  | outside
  | begun
  | inside
  deriving DecidableEq, Repr

/-- Begins an escape sequence. -/
def escapeSign : Char := '\x1b'

/-- How many columns a grapheme takes, and how far an escape sequence has been read behind it. Of such a
sequence the sign, the character behind it and its numbers and their end take no columns. -/
def Escape.read (rule : Text.WidthRule) (grapheme : List Char) : Escape → Nat × Escape
  | .begun => (0, if grapheme = ['['] then .inside else .outside)
  | .inside =>
    (0, if grapheme = [';'] || grapheme.head?.any Char.isDigit then .inside else .outside)
  | .outside => if grapheme = [escapeSign] then (0, .begun) else (rule.width grapheme, .outside)

/-- The place behind so many more columns. -/
def move (position : Position) (width : Nat) : Position :=
  if position.column + width > screenWidth then ⟨width, position.row + 1⟩
  else { position with column := position.column + width }

/-- The place behind a grapheme that starts at a place. -/
def after (rule : Text.WidthRule) (state : Position × Escape) (grapheme : List Char) : Position × Escape :=
  let (position, escape) := state
  if grapheme = ['\n'] then (⟨0, position.row + 1⟩, escape)
  else if grapheme = ['\t'] then (position.move (tabStop - position.column % tabStop), escape)
  else
    let (width, escape) := escape.read rule grapheme
    (position.move width, escape)

/-- The place behind a text that starts at a place. -/
def afterText (rule : Text.WidthRule) (position : Position) (text : List Char) : Position :=
  let last := ((Text.Grapheme.split text).foldl (after rule) (position, .outside)).1
  if last.column = screenWidth then ⟨0, last.row + 1⟩ else last

def display (position : Position) : String :=
  "Position \x7b col: " ++ toString position.column ++ ", row: " ++ toString position.row ++ " \x7d"

end Position

/-- Where a prompt, a cursor and the end of a draft stand. -/
structure Layout where
  prompt : Position := {}
  /-- Whether the prompt is the usual one. -/
  isUsual : Bool := false
  cursor : Position := {}
  last : Position := {}
  deriving DecidableEq, Repr

namespace Layout

/-- The layout of a prompt and of what stands before and behind the cursor. -/
def make (rule : Text.WidthRule) (prompt : List Char) (isUsual : Bool) (before after : List Char) : Layout :=
  let promptEnd := Position.afterText rule {} prompt
  let cursor := promptEnd.afterText rule before
  { prompt := promptEnd
    isUsual
    cursor
    last := if after.isEmpty then cursor else cursor.afterText rule after }

/-- The layout with the cursor at the end, in another column of the same row. -/
def endAt (layout : Layout) (column : Nat) : Layout :=
  { layout with
    cursor := { layout.cursor with column }
    last := { layout.last with column } }

/-- The layout on a screen that was cleared. -/
def cleared (layout : Layout) : Layout := { layout with cursor := {}, last := {} }

/-- A layout in diagnostics, with the rule for its columns. -/
def display (layout : Layout) (rule : Text.WidthRule) : String :=
  "Layout \x7b grapheme_cluster_mode: " ++ rule.display ++ ", prompt_size: " ++ layout.prompt.display ++
    ", default_prompt: " ++ (if layout.isUsual then "true" else "false") ++ ", cursor: " ++
    layout.cursor.display ++ ", end: " ++ layout.last.display ++ ", has_info: false \x7d"

end Layout

end Pipework.Editor
