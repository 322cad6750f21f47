import Pipework.Editor.Draft

set_option autoImplicit false

/-!
Changes of a draft, so that they can be undone. Letters and numbers typed one after the other, or erased
one after the other, count as one change; what one command does is held together by marks.
-/

namespace Pipework.Editor

/-- A change of a draft. -/
inductive Change where
  | groupStart
  | groupEnd
  | inserted (place : Nat) (text : List Char)
  | deleted (place : Nat) (text : List Char)
  deriving DecidableEq, Repr

/-- The changes of a draft, the latest first. -/
structure Changes where
  level : Nat := 0
  past : List Change := []
  deriving DecidableEq, Repr

namespace Changes

/-- Begins a group. -/
def startGroup (changes : Changes) : Changes :=
  { level := changes.level + 1, past := .groupStart :: changes.past }

/-- Ends one group. -/
def endOne (past : List Change) : List Change :=
  match past with
  | .groupStart :: before => before
  | _ => .groupEnd :: past

/-- Ends all groups that have begun. -/
def endGroups (changes : Changes) : Changes :=
  { level := 0, past := changes.level.repeat endOne changes.past }

/-- Records that a character was typed. -/
def insertChar (changes : Changes) (place : Nat) (char : Char) : Changes :=
  match changes.past with
  | .inserted first text :: before =>
    if Text.inRanges Text.alphanumeric char && first + text.length = place then
      { changes with past := .inserted first (text ++ [char]) :: before }
    else { changes with past := .inserted place [char] :: changes.past }
  | past => { changes with past := .inserted place [char] :: past }

/-- Records that a text was put in. -/
def insertText (changes : Changes) (place : Nat) (text : List Char) : Changes :=
  if text.isEmpty then changes else { changes with past := .inserted place text :: changes.past }

/-- Whether a text is one grapheme of letters and numbers. -/
def isSingle (text : List Char) : Bool :=
  match Text.Grapheme.split text with
  | [grapheme] => WordKind.plain.has grapheme
  | _ => false

/-- Records that a text was taken out. -/
def delete (changes : Changes) (place : Nat) (text : List Char) : Changes :=
  if text.isEmpty then changes
  else
    match changes.past with
    | .deleted first taken :: before =>
      if isSingle text && first = place then
        { changes with past := .deleted first (taken ++ text) :: before }
      else if isSingle text && place + text.length = first then
        { changes with past := .deleted place (text ++ taken) :: before }
      else { changes with past := .deleted place text :: changes.past }
    | past => { changes with past := .deleted place text :: past }

/-- Forgets all but the first changes. -/
def truncate (changes : Changes) (count : Nat) : Changes :=
  { changes with past := changes.past.drop (changes.past.length - count) }

/-- Undoes changes, until so many have been undone that stand by themselves or in groups. -/
def undoFrom (draft : Draft) (count : Nat) : List Change → Int → Draft × List Change
  | [], _ => (draft, [])
  | change :: before, open_ =>
    let (draft, open_) : Draft × Int :=
      match change with
      | .groupStart => (draft, open_ - 1)
      | .groupEnd => (draft, open_ + 1)
      | .inserted place text => (draft.remove place (place + text.length), open_)
      | .deleted place text => (draft.insertAt place text, open_)
    if open_ ≤ 0 then
      if count ≤ 1 then (draft, before) else undoFrom draft (count - 1) before open_
    else undoFrom draft count before open_

/-- Undoes so many changes. -/
def undo (changes : Changes) (draft : Draft) (count : Nat) : Draft × Changes :=
  let (draft, past) := undoFrom draft count changes.past 0
  (draft, { changes with past })

end Changes

/-!
Kill rings: texts that were taken out of drafts and can be put back. Commands that follow one another
without another one between them add to the same text.
-/

/-- What the last command did with the ring. -/
inductive RingUse where
  | killed
  /-- A text of this length was put back. -/
  | yanked (size : Nat)
  | none
  deriving DecidableEq, Repr

/-- Texts that were taken out. -/
structure KillRing where
  slots : List (List Char) := []
  /-- The place of the present text. -/
  index : Nat := 0
  lastUse : RingUse := .none
  deriving DecidableEq, Repr

namespace KillRing

/-- How many texts a ring holds. -/
def size : Nat := 60

/-- Another command has come between. -/
def reset (ring : KillRing) : KillRing := { ring with lastUse := .none }

/-- The present text. -/
def present (ring : KillRing) : List Char := ring.slots.getD ring.index []

/-- Takes in a text that stood behind or before the cursor. -/
def kill (ring : KillRing) (text : List Char) (forward : Bool) : KillRing :=
  if ring.lastUse = .killed then
    let joined := if forward then ring.present ++ text else text ++ ring.present
    { ring with slots := ring.slots.set ring.index joined }
  else
    let index :=
      if ring.index = size - 1 then 0 else if ring.slots.isEmpty then ring.index else ring.index + 1
    { slots := if index = ring.slots.length then ring.slots ++ [text] else ring.slots.set index text
      index
      lastUse := .killed }

/-- The present text, to be put back. -/
def yank? (ring : KillRing) : Option (List Char × KillRing) :=
  if ring.slots.isEmpty then none
  else some (ring.present, { ring with lastUse := .yanked ring.present.length })

/-- The text before the one that was just put back, and how long that one was. -/
def yankEarlier? (ring : KillRing) : Option (Nat × List Char × KillRing) :=
  match ring.lastUse with
  | .yanked size =>
    if ring.slots.isEmpty then none
    else
      let ring := { ring with index := if ring.index = 0 then ring.slots.length - 1 else ring.index - 1 }
      some (size, ring.present, { ring with lastUse := .yanked ring.present.length })
  | _ => none

end KillRing

end Pipework.Editor
