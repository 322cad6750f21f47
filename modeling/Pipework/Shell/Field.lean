import Pipework.Shell.Pattern

set_option autoImplicit false

/-!
Fields. An expanded word is made of pieces, and pieces become fields: where a piece is the value of an
expansion that is not quoted, its separators divide fields. A blank separator counts only once together with
the other blanks around it, and with one that is not blank.
-/

namespace Pipework.Shell

/-- A part of a word once it is expanded. -/
inductive Piece where
  /-- Stays together; even if it is empty there is a field, if it was quoted. -/
  | text (chars : Text) (quoted : Bool)
  /-- Is split at separators. -/
  | loose (chars : Text)
  /-- Ends a field. -/
  | divide
  deriving DecidableEq, Repr

namespace Piece

/-- The text of pieces that are not split, with the information what was quoted. -/
def join (pieces : List Piece) : MarkedText :=
  pieces.flatMap fun
    | .text chars quoted => chars.map (·, quoted)
    | .loose chars => chars.map (·, false)
    | .divide => [(' ', true)]

/-- The text of pieces that are not split. -/
def plain (pieces : List Piece) : Text := (join pieces).map Prod.fst

end Piece

/-- Separators and the fields that have been found. -/
structure Splitting where
  separators : Text
  /-- What has been found of the present field, in reverse order. -/
  field : Option MarkedText := none
  /-- The fields before, in reverse order. -/
  fields : List MarkedText := []
  /-- Whether the last character was a blank separator. -/
  spaced : Bool := false
  /-- How many fields are still to be told apart, if that is limited. -/
  left : Option Nat := none
  /-- How much of the last field is kept. -/
  kept : Option Nat := none

namespace Splitting

/-- Adds a character to the present field. -/
def add (splitting : Splitting) (char : Char) (quoted : Bool) : Splitting :=
  { splitting with field := some ((char, quoted) :: splitting.field.getD []) }

/-- Blanks among separators; a NUL stands between parameters. -/
def isBlankSeparator (char : Char) : Bool := [' ', '\t', '\n', '\x00'].contains char

/-- Takes on a character of the last field, which is not split but loses separators at its end. -/
def addToLast (splitting : Splitting) (isSeparator : Bool) (char : Char) : Splitting :=
  let size := (splitting.field.getD []).length
  if isSeparator && isBlankSeparator char then
    { splitting.add char false with kept := splitting.kept <|> some size }
  else
    { splitting.add char false with
      kept := if isSeparator && splitting.spaced then splitting.kept else none
      spaced := false }

/-- Takes on a character that may divide fields. -/
def step (splitting : Splitting) (char : Char) : Splitting :=
  let isSeparator := char = '\x00' || splitting.separators.contains char
  let isBlank := isSeparator && isBlankSeparator char
  if splitting.left = some 0 then splitting.addToLast isSeparator char
  else if !isSeparator then { splitting.add char false with spaced := false }
  else if splitting.spaced then { splitting with spaced := isBlank }
  else
    match splitting.field with
    | none =>
      if isBlank then splitting
      else if splitting.left = some 1 then
        { splitting.add char false with left := some 0, kept := some 0 }
      else
        { splitting with fields := [] :: splitting.fields, left := splitting.left.map (· - 1) }
    | some field =>
      if splitting.left = some 1 then
        { splitting.add char false with left := some 0, kept := some field.length, spaced := isBlank }
      else
        { splitting with
          field := none
          fields := field :: splitting.fields
          spaced := isBlank
          left := splitting.left.map (· - 1) }

/-- Takes on a piece. -/
def addPiece (splitting : Splitting) (piece : Piece) : Splitting :=
  match piece with
  | .text [] false => splitting
  | .text chars quoted =>
    { splitting with
      field := some ((chars.map (·, quoted)).reverse ++ splitting.field.getD []) }
  | .loose chars => chars.foldl step { splitting with spaced := false }
  | .divide =>
    { splitting with
      field := none
      fields := splitting.field.toList ++ splitting.fields }

/-- The fields that were found. -/
def finish (splitting : Splitting) : List MarkedText :=
  let last := splitting.field.map fun field =>
    let field := field.reverse
    match splitting.kept with
    | some size => field.take size
    | none => field
  let last := if splitting.kept = some 0 then none else last
  (last.toList ++ splitting.fields.map List.reverse).reverse

end Splitting

/-- The fields that pieces make; if their number is limited, the last takes all that is left. -/
def Piece.fields (separators : Text) (limit : Option Nat) (pieces : List Piece) : List MarkedText :=
  (pieces.foldl Splitting.addPiece { separators, left := limit }).finish

end Pipework.Shell
