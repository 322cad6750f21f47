import Pipework.Editor.Changes
import Pipework.Editor.Keyboard
import Pipework.Editor.Layout

set_option autoImplicit false

/-!
Editing: what commands do to a draft, to its changes, to the killed texts and to the place in the history.
-/

namespace Pipework.Editor

/-- A search through the history. -/
structure Search where
  wanted : List Char := []
  index : Nat
  backward : Bool := true
  found : Bool := true
  /-- The draft before the search. -/
  saved : Draft
  /-- How many changes there were before the search. -/
  mark : Nat

/-- The state of a line that is being edited. -/
structure Editing where
  prompt : List Char
  /-- How the terminal counts columns. -/
  rule : Text.WidthRule
  /-- Oldest first. -/
  history : List (List Char)
  ring : KillRing
  draft : Draft := {}
  changes : Changes := {}
  /-- The place in the history; its length stands for the new line. -/
  place : Nat
  /-- The new line, while a line of the history is shown. -/
  saved : Draft := {}
  search : Option Search := none
  layout : Layout := {}
  /-- Diagnostics, the latest first. -/
  notes : List String := []

/-- How a command ends. -/
inductive Outcome where
  | unfinished
  | line (text : List Char)
  | interrupted
  | ended
  deriving DecidableEq, Repr

namespace Editing

def note (editing : Editing) (text : String) : Editing := { editing with notes := text :: editing.notes }

/-- Shows the draft behind a prompt. -/
def showBehind (editing : Editing) (prompt : List Char) (isUsual : Bool) : Editing :=
  let layout := Layout.make editing.rule prompt isUsual editing.draft.before editing.draft.after
  let editing := editing.note ("old layout: " ++ editing.layout.display editing.rule)
  { editing.note ("new layout: " ++ layout.display editing.rule) with layout }

/-- Shows the draft behind the usual prompt. -/
def refresh (editing : Editing) : Editing := editing.showBehind editing.prompt true

/-- Shows the draft after a text was taken out. Where it was the end of the draft and of a row, the rest of
the row is cleared and nothing else is shown again. -/
def showWithout (editing : Editing) (text : List Char) : Editing :=
  let layout := editing.layout
  let width := editing.rule.width text
  if editing.draft.after.isEmpty && layout.cursor.row = layout.last.row && width ≤ layout.last.column then
    let column := layout.last.column - width
    let editing :=
      if column = layout.cursor.column then editing
      else
        (editing.note ("old cursor: " ++ toString layout.cursor.column)).note
          ("new cursor: " ++ toString column)
    { editing with layout := layout.endAt column }
  else editing.refresh

/-- Shows the draft on a screen that was cleared. -/
def clearScreen (editing : Editing) : Editing :=
  { editing with layout := editing.layout.cleared }.refresh

/-- Shows the draft again if something has come of a command. -/
def refreshIf (editing : Editing) (changed : Bool) : Editing := if changed then editing.refresh else editing

/-- Follows what was seen while keys were read. -/
def follow (editing : Editing) : Sign → Editing
  | .diagnostic text => editing.note text
  | .prompt text => editing.showBehind text.toList false
  | .usualPrompt => editing.refresh

/-- Moves the cursor to a place. -/
def moveTo (editing : Editing) (place : Nat) : Editing :=
  let draft := editing.draft.moveTo place
  { editing with
    draft
    layout := { editing.layout with cursor := editing.layout.prompt.afterText editing.rule draft.before } }

/-- Begins a group of changes. -/
def startGroup (editing : Editing) : Editing :=
  { editing.note "Changeset::begin" with changes := editing.changes.startGroup }

/-- Ends the groups of changes. -/
def endGroups (editing : Editing) : Editing :=
  { editing.note "Changeset::end" with changes := editing.changes.endGroups }

/-- A text between quotes in a diagnostic. -/
def quoted (text : List Char) : String := Text.Quoted.quote (String.ofList text)

/-- How many bytes the text before a place takes, for diagnostics. -/
def offset (editing : Editing) (place : Nat) : String :=
  toString (Text.Grapheme.size (editing.draft.text.take place))

/-- Takes the text between two places out and leaves the cursor there. -/
def delete (editing : Editing) (first last : Nat) : Editing :=
  let text := editing.draft.slice first last
  { editing.note ("Changeset::delete(" ++ editing.offset first ++ ", " ++ quoted text ++ ")") with
    draft := editing.draft.remove first last
    changes := editing.changes.delete first text }

/-- Takes out the text between two places, which lies behind or before the cursor, and keeps it. -/
def kill (editing : Editing) (first last : Nat) (forward : Bool) : Editing :=
  { editing.delete first last with
    ring := editing.ring.kill (editing.draft.slice first last) forward }

/-- Puts a text in at a place, and the cursor behind it. -/
def insertAt (editing : Editing) (place : Nat) (text : List Char) : Editing :=
  { editing.note ("Changeset::insert_str(" ++ editing.offset place ++ ", " ++ quoted text ++ ")") with
    draft := editing.draft.insertAt place text
    changes := editing.changes.insertText place text }

/-- Replaces the draft. -/
def update (editing : Editing) (draft : Draft) : Editing :=
  let editing := (editing.delete 0 editing.draft.text.length).insertAt 0 draft.text
  { editing with draft }

/-- Puts a character in at the cursor. -/
def insertChar (editing : Editing) (char : Char) : Editing :=
  let place := editing.draft.cursor
  let atEnd := editing.draft.after.isEmpty
  let width := Text.charWidth char
  let column := editing.layout.cursor.column + width
  let offset := editing.offset place
  let editing :=
    { editing.note ("Changeset::insert(" ++ offset ++ ", " ++ Key.quoteChar char ++ ")") with
      draft := editing.draft.insertAt place [char]
      changes := editing.changes.insertChar place char }
  if atEnd && width ≠ 0 && column < screenWidth then
    let layout := editing.layout
    { editing with
      layout :=
        { layout with
          cursor := { layout.cursor with column }
          last := { layout.last with column := layout.last.column + width } } }
  else editing.refresh

/-- Puts a character in so many times. -/
def insertSelf (editing : Editing) (count : Nat) (char : Char) : Editing :=
  if count = 1 then editing.insertChar char
  else (editing.insertAt editing.draft.cursor (List.replicate count char)).refresh

/-- Puts a text in at the cursor. -/
def yank (editing : Editing) (text : List Char) : Editing :=
  if text.isEmpty then editing else (editing.insertAt editing.draft.cursor text).refresh

/-- The place that a movement leads to. -/
def destination (draft : Draft) : Movement → Nat
  | .lineStart => draft.lineStart
  | .lineEnd => draft.lineEnd
  | .charBackward count => draft.backward count
  | .charForward count => draft.forward count
  | .wordBackward count kind => draft.wordBackward kind count
  | .wordForward count kind => draft.wordForward kind count
  | .charSearch count (.backward char) => (draft.searchBackward? char count).getD draft.cursor
  | .charSearch count (.forwardBefore char) => (draft.searchForward? char count).getD draft.cursor

/-- Takes out what a movement passes. Single characters are not kept. At an end of a line the line feed
there is taken out. -/
def killAlong (editing : Editing) (movement : Movement) : Editing :=
  let draft := editing.draft
  let keeps :=
    match movement with
    | .charBackward _ | .charForward _ => false
    | _ => true
  let place := destination draft movement
  let place :=
    if place = draft.cursor then
      match movement with
      | .lineEnd => draft.forward 1
      | .lineStart => draft.backward 1
      | _ => place
    else place
  if place = draft.cursor then editing
  else
    let forward : Bool := draft.cursor < place
    let first := min place draft.cursor
    let last := max place draft.cursor
    let text := draft.slice first last
    (if keeps then editing.kill first last forward else editing.delete first last).showWithout text

/-- Swaps the characters before and at the cursor, or the last two. -/
def transposeChars (editing : Editing) : Editing :=
  let draft := editing.draft
  let editing := editing.startGroup
  if draft.cursor = 0 || (Text.Grapheme.split draft.text).length < 2 then editing.endGroups
  else
    let place := if draft.after.isEmpty then draft.backward 1 else draft.cursor
    let moved := draft.moveTo place
    let taken := moved.slice place (moved.forward 1)
    let editing := editing.delete place (moved.forward 1)
    let before := editing.draft.backward 1
    let editing := editing.insertAt before taken
    let editing := { editing with draft := editing.draft.moveTo (editing.draft.forward 1) }
    editing.endGroups.refresh

/-- What becomes of a word. -/
def WordAction.apply (word : List Char) : WordAction → List Char
  | .capitalize =>
    match Text.Grapheme.split word with
    | [] => []
    | first :: rest => Text.toCapitals first ++ Text.toSmall rest.flatten
  | .lowercase => Text.toSmall word
  | .uppercase => Text.toCapitals word

/-- Changes the letters of the next word. -/
def changeWord (editing : Editing) (action : WordAction) : Editing :=
  let editing := editing.startGroup
  match editing.draft.nextWordStart? with
  | none => editing.endGroups
  | some start =>
    let stop := editing.draft.wordForwardFrom start .plain 1
    if start = stop then editing.endGroups
    else
      let word := editing.draft.slice start stop
      ((editing.delete start stop).insertAt start (WordAction.apply word action)).endGroups.refresh

/-- Swaps the word before or at the cursor with one that stands so many words behind. -/
def transposeWords (editing : Editing) (count : Nat) : Editing :=
  let editing := editing.startGroup
  let go (draft : Draft) (place : Nat) : Draft := draft.moveTo place
  let draft := go editing.draft (editing.draft.wordForward .plain count)
  let laterEnd := draft.cursor
  let draft := go draft (draft.wordBackward .plain 1)
  let laterStart := draft.cursor
  let draft := go draft (draft.wordBackward .plain count)
  let earlierStart := draft.cursor
  let draft := go draft (draft.wordForward .plain 1)
  let earlierEnd := draft.cursor
  let editing := { editing with draft }
  if earlierStart = laterStart || laterStart < earlierEnd then editing.endGroups
  else
    let earlier := draft.slice earlierStart earlierEnd
    let later := draft.slice laterStart laterEnd
    let editing := (editing.delete laterStart laterEnd).insertAt laterStart earlier
    let editing := (editing.delete earlierStart earlierEnd).insertAt earlierStart later
    let editing := { editing with draft := editing.draft.moveTo laterEnd }
    editing.endGroups.refresh

/-- Puts the text before the one that was just put back in its place. -/
def yankEarlier (editing : Editing) : Editing :=
  match editing.ring.yankEarlier? with
  | none => editing
  | some (size, text, ring) =>
    let editing := { editing.startGroup with ring }
    let cursor := editing.draft.cursor
    let editing := editing.delete (cursor - size) cursor
    if text.isEmpty then editing.endGroups
    else (editing.insertAt editing.draft.cursor text).refresh.endGroups

/-- Shows a line of the history. -/
def showHistory (editing : Editing) (place : Nat) : Editing :=
  match editing.history[place]? with
  | none => editing
  | some text =>
    let editing := { editing with place }
    ((editing.startGroup.update (Draft.make text text.length)).endGroups).refresh

/-- Shows the new line again. -/
def showNew (editing : Editing) : Editing :=
  ({ editing with place := editing.history.length }.update editing.saved).refresh

/-- Keeps the new line before a line of the history is shown. -/
def saveNew (editing : Editing) : Editing :=
  if editing.place = editing.history.length then { editing with saved := editing.draft } else editing

/-- Goes to the line before the one that is shown. -/
def previous (editing : Editing) : Editing :=
  if editing.place = 0 then editing else editing.saveNew.showHistory (editing.place - 1)

/-- Goes to the line behind the one that is shown. -/
def next (editing : Editing) : Editing :=
  if editing.place ≥ editing.history.length then editing
  else if editing.place + 1 = editing.history.length then editing.showNew
  else editing.showHistory (editing.place + 1)

/-- Goes to the first line of the history. -/
def first (editing : Editing) : Editing :=
  if editing.place = 0 then editing else editing.saveNew.showHistory 0

/-- Goes to the new line. -/
def newest (editing : Editing) : Editing :=
  if editing.place ≥ editing.history.length then editing else editing.showNew

/-- Undoes so many changes. -/
def undo (editing : Editing) (count : Nat) : Editing :=
  let editing := editing.note "Changeset::undo"
  let (draft, changes) := editing.changes.undo editing.draft count
  let changed := editing.changes.past.take (editing.changes.past.length - changes.past.length)
    |>.any fun change => change ≠ .groupStart && change ≠ .groupEnd
  { editing with draft, changes }.refreshIf changed

/-- Shows the usual prompt again, if it is not the one that is shown. -/
def restorePrompt (editing : Editing) : Editing :=
  if editing.layout.isUsual then editing else editing.refresh

/-- Carries a command out. -/
def execute (editing : Editing) : Command → Outcome × Editing
  | .accept => (.line editing.draft.text, editing.restorePrompt)
  | .ended =>
    let editing := editing.restorePrompt
    (if editing.draft.isEmpty then .ended else .unfinished, editing)
  | .interrupt => (.interrupted, editing)
  | .firstOfHistory => (.unfinished, editing.first)
  | .lastOfHistory => (.unfinished, editing.newest)
  | .nextOfHistory => (.unfinished, editing.next)
  | .previousOfHistory => (.unfinished, editing.previous)
  | .word action => (.unfinished, editing.changeWord action)
  | .clearScreen => (.unfinished, editing.clearScreen)
  | .suspend => (.unfinished, editing.refresh)
  | .insert text => (.unfinished, editing.yank text)
  | .kill movement => (.unfinished, editing.killAlong movement)
  | .move movement => (.unfinished, editing.moveTo (destination editing.draft movement))
  | .lineDown count =>
    (.unfinished,
      match editing.draft.lineDown? editing.rule editing.layout.prompt.column count with
      | some draft => editing.moveTo draft.cursor
      | none => editing.next)
  | .lineUp count =>
    (.unfinished,
      match editing.draft.lineUp? editing.rule editing.layout.prompt.column count with
      | some draft => editing.moveTo draft.cursor
      | none => editing.previous)
  | .quoted char => (.unfinished, editing.insertChar char)
  | .self count char => (.unfinished, editing.insertSelf count char)
  | .transposeChars => (.unfinished, editing.transposeChars)
  | .transposeWords count => (.unfinished, editing.transposeWords count)
  | .undo count => (.unfinished, editing.undo count)
  | .yank count =>
    (.unfinished,
      match editing.ring.yank? with
      | some (text, ring) => { editing with ring }.yank (List.replicate count text).flatten
      | none => editing)
  | .yankEarlier => (.unfinished, editing.yankEarlier)
  | .abort | .complete | .completeBackward | .forwardSearch | .reverseSearch | .nothing | .unknown =>
    (.unfinished, editing)

end Editing

end Pipework.Editor
