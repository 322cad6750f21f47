import Pipework.Regex.Syntax
import Pipework.Tool.Input
import Pipework.Tool.Option

set_option autoImplicit false

/-!
Tools that turn around the order of lines, or of the characters in each line.
-/

namespace Pipework.Tool

/-- The pieces of a text between occurrences of a separator, which stands behind a piece or, if `before` holds,
in front of it. The piece at hand is given in reverse order. -/
def cutAt (separator : Text) (before : Bool) : Nat → Text → Text → List Text
  | 0, _, _ => []
  | _ + 1, piece, [] => if piece.isEmpty then [] else [piece.reverse]
  | fuel + 1, piece, char :: rest =>
    if separator.isPrefixOf (char :: rest) then
      let after := (char :: rest).drop separator.length
      if before then
        (if piece.isEmpty then [] else [piece.reverse]) ++ cutAt separator before fuel separator.reverse after
      else (piece.reverse ++ separator) :: cutAt separator before fuel [] after
    else cutAt separator before fuel (char :: piece) rest

/-- The last match that begins at a place or in front of it and lies in a text. -/
def lastMatch? (regex : Regex) (text : Text) : Nat → Option (Nat × Nat)
  | 0 => none
  | place + 1 =>
    match regex.matchAt {} [] ((text.take place).getLast?) (text.drop place) with
    | some found => some (place, place + found.matched.length)
    | none => lastMatch? regex text place

/-- The places of separators, the last one first. -/
def matchesBackward (regex : Regex) : Nat → Text → List (Nat × Nat)
  | 0, _ => []
  | fuel + 1, text =>
    match lastMatch? regex text text.length with
    | none => []
    | some (start, behind) => (start, behind) :: matchesBackward regex fuel (text.take start)

/-- Pieces of a text between places, the last one first. -/
def piecesBackward (text : Text) : List Nat → List Text
  | [] => if text.isEmpty then [] else [text]
  | place :: later =>
    let piece := text.drop place
    (if piece.isEmpty then [] else [piece]) ++ piecesBackward (text.take place) later

/-- What is said of an operand that cannot be turned around. -/
def tacComplaint : InputComplaint := fun operand fault =>
  match fault with
  | .unopened errno => because ("failed to open ".toList ++ inQuotes operand ++ " for reading".toList) errno
  | .unread errno =>
    let name := if operand = inputOperand then "'standard input'".toList else shownName operand
    because (name ++ ": read error".toList) (if errno = .isDirectory then .invalidArgument else errno)

/-- Prints lines in reverse order, each with the line feed that it had. -/
def tac (arguments : List Text) : Work Unit := do
  let table : OptionTable :=
    { letters := "bs:r", names := [("before", 'b'), ("separator", 's'), ("regex", 'r')] }
  let (given, operands) ← readOptions table arguments
  let separator := (argumentOf? given 's').getD ['\n']
  let separator := if separator.isEmpty then ['\x00'] else separator
  let regex : Option Regex ← if !hasLetter given 'r' then pure none
    else
      match Regex.read false separator with
      | .ok (regex, _) => pure (some regex)
      | .error fault => Work.fail fault.message.toList
  forEachInput tacComplaint operands fun _ text => do
    let before := hasLetter given 'b'
    match regex with
    | some regex =>
      let places := matchesBackward regex (text.length + 1) text
      Work.put (piecesBackward text (places.map fun place => if before then place.1 else place.2)).flatten
    | none =>
      let pieces :=
        if separator = ['\n'] && !before then lines text
        else cutAt separator before (text.length + 1) [] text
      Work.put pieces.reverse.flatten
  Work.closeInput "-"

/-- The last component of a path. -/
def lastComponent (path : Text) : Text := (path.reverse.takeWhile (· ≠ '/')).reverse

/-- Prints the lines of a text with their characters in reverse order, up to the first that holds a character
which means nothing. Gives the number of lines that were printed if there is such a line. -/
def putTurned : List Text → Nat → Work (Option Nat)
  | [], _ => return none
  | line :: later, count => do
    if line.all fun char => char.toNat < 128 then
      let ending : Text := if line.getLast? = some '\n' then ['\n'] else []
      Work.put ((chomp line).reverse ++ ending)
      putTurned later (count + 1)
    else return some count

/-- Prints lines with their characters in reverse order. -/
def rev (arguments : List Text) : Work Unit := do
  let (_, operands) ← readOptions { letters := "0" } arguments
  (if operands.isEmpty then [inputOperand] else operands).forM fun operand => do
    let name := if operands.isEmpty then "stdin".toList else operand
    match ← if operands.isEmpty then Work.readInput else Work.readFile operand with
    | .error (.unopened errno) => Work.report (because ("cannot open ".toList ++ name) errno)
    | .error (.unread errno) => Work.report (because (name ++ ": 0".toList) errno)
    | .ok text => do
      match ← putTurned (lines text) 0 with
      | some count =>
        Work.report (name ++ ": ".toList ++ number count ++
          ": Invalid or incomplete multibyte or wide character".toList)
      | none => pure ()

/-- Puts lines into some order, of which none is preferred. -/
def shuf (arguments : List Text) : Work Unit := do
  let table : OptionTable :=
    { letters := "ei:n:o:rz"
      names :=
        [("echo", 'e'), ("input-range", 'i'), ("head-count", 'n'), ("output", 'o'), ("repeat", 'r'),
          ("zero-terminated", 'z')] }
  let (given, operands) ← readOptions table arguments
  let last := if hasLetter given 'z' then '\x00' else '\n'
  let count ← (argumentOf? given 'n').mapM fun text =>
    match natural? text with
    | some count => return count
    | none => Work.fail ("invalid line count: ".toList ++ quoted text)
  let pieces ←
    if hasLetter given 'e' then pure operands
    else
      match argumentOf? given 'i' with
      | some range =>
        let first := range.takeWhile isDigit
        match natural? first, natural? (range.drop (first.length + 1)) with
        | some least, some most => do
          if most + 1 < least then Work.fail ("invalid input range: ".toList ++ quoted range)
          pure ((List.range (most + 1 - least)).map fun index => number (least + index))
        | _, _ => Work.fail ("invalid input range: ".toList ++ quoted range)
      | none =>
        match operands.drop 1 with
        | extra :: _ => failExtra extra
        | [] =>
          let operand := operands.headD inputOperand
          match ← Work.readOperand operand with
          | .ok text => pure ((splitAfter last text).map (chompOf last))
          | .error (.unopened errno) => Work.fail (because (shownName operand) errno)
          | .error (.unread errno) => Work.fail (because "read error".toList errno)
  let text := (pieces.take (count.getD pieces.length)).flatMap (· ++ [last])
  match argumentOf? given 'o' with
  | none => Work.put text
  | some path =>
    match ← Work.openAside path .replace with
    | .error errno => Work.fail (because (shownName path) errno)
    | .ok descriptor => do
      let _ ← Work.writeAll descriptor (text.length + 1) (Bytes.ofChars text)
      Work.tell (.close descriptor)

/-- What is said of output that cannot be turned around: nothing, if nobody reads a little of it. -/
def revComplaint : OutputComplaint := fun overflow errno =>
  if overflow then ["write error".toList]
  else if errno = .noSpace then [because "write error".toList errno]
  else []

end Pipework.Tool
