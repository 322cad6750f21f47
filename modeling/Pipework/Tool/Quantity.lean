import Pipework.Shell.Printing
import Pipework.Tool.Input
import Pipework.Tool.Option

set_option autoImplicit false

/-!
Quantities in arguments: whole numbers of 64 bits with a letter behind them that stands for a factor. Two letters may
say whether the factor is a power of a thousand or of 1024.
-/

namespace Pipework.Tool

/-- The largest quantity. -/
def quantityLimit : Nat := 18446744073709551615

/-- A quantity at the start of a text, within its limit, and what follows it. -/
structure QuantityReading where
  value : Nat
  overflows : Bool := false
  rest : Text := []
  deriving DecidableEq, Repr

/-- Which letters may stand behind a quantity. -/
structure QuantityLetters where
  letters : String := ""
  /-- Whether a second part of the letters tells the base. -/
  hasBases : Bool := false
  /-- Whether numbers may be octal or hexadecimal, as their first characters tell. -/
  readsPrefixes : Bool := false

namespace QuantityReading

/-- The power of a thousand that a letter stands for. -/
def powers : List (Char × Nat) :=
  [('k', 1), ('K', 1), ('M', 2), ('m', 2), ('G', 3), ('g', 3), ('T', 4), ('t', 4), ('P', 5), ('E', 6), ('Z', 7),
    ('Y', 8)]

/-- Factors that letters stand for by themselves. -/
def factors : List (Char × Nat) := [('b', 512), ('B', 1024), ('c', 1), ('w', 2)]

/-- The quantity times a factor. -/
def scaled (reading : QuantityReading) (factor used : Nat) : QuantityReading :=
  let value := reading.value * factor
  { value := min value quantityLimit
    overflows := reading.overflows || quantityLimit < value
    rest := reading.rest.drop used }

/-- Takes the letters behind a quantity into account. -/
def withLetters (reading : QuantityReading) (known : QuantityLetters) : QuantityReading :=
  match reading.rest with
  | [] => reading
  | letter :: later =>
    if !known.letters.toList.contains letter then reading
    else
      match powers.lookup letter with
      | some power =>
        match if known.hasBases then later else [] with
        | 'i' :: 'B' :: _ => reading.scaled (Nat.pow 1024 power) 3
        | 'B' :: _ | 'D' :: _ => reading.scaled (Nat.pow 1000 power) 2
        | _ => reading.scaled (Nat.pow 1024 power) 1
      | none =>
        match factors.lookup letter with
        | some factor => reading.scaled factor 1
        | none => reading

end QuantityReading

/-- The quantity that a text begins with; none if there is no number. A letter alone stands for its factor. -/
def readQuantity? (known : QuantityLetters) (text : Text) : Option QuantityReading :=
  let unsigned := text.dropWhile isSpace
  let digits := if unsigned.head? = some '+' then unsigned.tail else unsigned
  let (value, rest) : Nat × Text :=
    if known.readsPrefixes then
      let (value, rest) := Shell.Printing.readInteger digits
      (value.toNat, rest)
    else
      let given := digits.takeWhile isDigit
      (digitsValue given, digits.drop given.length)
  if digits.head?.any isDigit then
    some (QuantityReading.withLetters
      { value := min value quantityLimit, overflows := quantityLimit < value, rest } known)
  else if unsigned.head? ≠ some '-' && text.head?.any known.letters.toList.contains then
    some (QuantityReading.withLetters { value := 1, rest := text } known)
  else none

/-- The letters that sizes may have. -/
def sizeLetters : QuantityLetters where
  letters := "bkKmMGTPEZY"
  hasBases := true

/-- The largest number for which being out of bounds counts as a fault of the range. -/
def rangeLimit : Nat := 1073741823

/-- The quantity that an argument holds, within bounds. If it holds none, the tool gives up. -/
def quantityOf (complaint : Text) (known : QuantityLetters) (least most : Nat) (text : Text) : Work Nat := do
  let shown := complaint ++ ": ".toList ++ quoted text
  match readQuantity? known text with
  | none => Work.fail shown
  | some reading =>
    if !reading.rest.isEmpty then Work.fail shown
    else if reading.overflows then Work.fail (because shown .valueTooLarge)
    else if reading.value < least || most < reading.value then
      Work.fail (because shown (if rangeLimit < reading.value then .valueTooLarge else .outOfRange))
    else return reading.value

/-- The whole number that a text begins with, behind blanks and perhaps a sign, and what follows it. -/
def readSigned? (text : Text) : Option (Int × Text) :=
  let unsigned := text.dropWhile isSpace
  let isNegative : Bool := unsigned.head? = some '-'
  let digits := if isNegative || unsigned.head? = some '+' then unsigned.tail else unsigned
  let given := digits.takeWhile isDigit
  let value : Int := digitsValue given
  if given.isEmpty then none else some (if isNegative then -value else value, digits.drop given.length)

/-- The whole number of 64 bits that a text stands for. -/
def signed? (text : Text) : Option Int :=
  match readSigned? text with
  | some (value, []) => if -9223372036854775808 ≤ value && value ≤ 9223372036854775807 then some value else none
  | _ => none

/-- The whole number that an argument holds, within bounds. If it holds none, the tool gives up. -/
def integerOf (complaint : Text) (least most : Int) (text : Text) : Work Int := do
  let shown := complaint ++ ": ".toList ++ quoted text
  match readSigned? text with
  | some (value, []) =>
    if least ≤ value && value ≤ most then return value
    else Work.fail (because shown (if rangeLimit < value.natAbs then .valueTooLarge else .outOfRange))
  | _ => Work.fail shown

/-- The option that an argument belongs to, as it is shown. -/
def shownOption (letter : Char) (name : Option String) : Text :=
  match name with
  | some name => "--".toList ++ name.toList
  | none => ['-', letter]

/-- Gives up at an argument of an option that is no quantity. -/
def failQuantity {α : Type} (option : Text) (reading : Option QuantityReading) (text : Text) : Work α := do
  let argument := option ++ " argument ".toList ++ quoted text
  match reading with
  | none => Work.fail ("invalid ".toList ++ argument)
  | some reading =>
    if !reading.rest.isEmpty then Work.fail ("invalid suffix in ".toList ++ argument)
    else Work.fail (argument ++ " too large".toList)

end Pipework.Tool
