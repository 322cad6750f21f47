import Pipework.Shell.Printing
import Pipework.Tool.Input
import Pipework.Tool.Option
import Pipework.Tool.Path

set_option autoImplicit false

/-!
Tools about what their arguments say: words and parts of paths are printed, and names are tested for whether they can
be those of files, here or on any system.
-/

namespace Pipework.Tool

open Kernel

/-- Splits the options of `echo` from the words: whether a line feed follows and whether escapes count. -/
def echoOptions : Bool → Bool → List Text → Bool × Bool × List Text
  | ends, escapes, ('-' :: letter :: letters) :: later =>
    if (letter :: letters).all ("neE".toList.contains ·) then
      let (ends, escapes) := (letter :: letters).foldl (fun (ends, escapes) letter =>
        match letter with
        | 'n' => (false, escapes)
        | 'e' => (ends, true)
        | _ => (ends, false)) (ends, escapes)
      echoOptions ends escapes later
    else (ends, escapes, ('-' :: letter :: letters) :: later)
  | ends, escapes, words => (ends, escapes, words)

/-- How these tools print. -/
def toolRules : Shell.PrintRules := { numbers := .extended, hexEscapes := true }

/-- Prints words. -/
def echo (arguments : List Text) : Work Unit := do
  let (ends, escapes, words) := echoOptions true false arguments
  if escapes then
    let (text, more) := Shell.echoArguments toolRules words
    Work.put (if ends && more then text ++ ['\n'] else text)
  else Work.put (List.intercalate [' '] words ++ (if ends then ['\n'] else []))

/-- Prints last components of paths. -/
def basename (arguments : List Text) : Work Unit := do
  let table : OptionTable :=
    { letters := "as:z", names := [("multiple", 'a'), ("suffix", 's'), ("zero", 'z')], inOrder := true }
  let (given, operands) ← readOptions table arguments
  needOperand operands
  let ending := if hasLetter given 'z' then '\x00' else '\n'
  let several := hasLetter given 'a' || hasLetter given 's'
  let print (suffix path : Text) : Work Unit := Work.put (dropSuffix suffix (baseName path) ++ [ending])
  if several then operands.forM (print ((argumentOf? given 's').getD []))
  else
    match operands.drop 2 with
    | extra :: _ => failExtra extra
    | [] => print (operands.getD 1 []) (operands.headD [])

/-- Prints the directories of paths. -/
def dirname (arguments : List Text) : Work Unit := do
  let (given, operands) ← readOptions { letters := "z", names := [("zero", 'z')] } arguments
  needOperand operands
  let ending := if hasLetter given 'z' then '\x00' else '\n'
  operands.forM fun path => Work.put (directoryName path ++ [ending])

/-- Milliseconds in a text such as `0.25` or `2m`. -/
def duration? (text : Text) : Option Nat :=
  let (digits, factor) : Text × Nat :=
    match text.getLast? with
    | some 's' => (text.dropLast, 1)
    | some 'm' => (text.dropLast, 60)
    | some 'h' => (text.dropLast, 3600)
    | some 'd' => (text.dropLast, 86400)
    | _ => (text, 1)
  match Fraction.read? (digits.dropWhile isSpace) with
  | some (value, []) =>
    if value.negative && value.numerator ≠ 0 then none
    else some (Fraction.roundQuotient (value.numerator * factor * 1000) value.denominator)
  | _ => none

/-- Rests for a while. -/
def sleep (arguments : List Text) : Work Unit := do
  let (_, operands) ← readOptions { letters := "" } arguments
  needOperand operands
  let durations ← operands.mapM fun operand => do
    match duration? operand with
    | some duration => return duration
    | none => do
      Work.report ("invalid time interval ".toList ++ quoted operand)
      return 0
  if (← get).status ≠ 0 then
    Work.leaveMisused
  Work.tell (.sleep (durations.foldl (· + ·) 0))

/-- Succeeds. -/
def succeed (_ : List Text) : Work Unit := return ()

/-- Fails. -/
def failSilently (_ : List Text) : Work Unit := Work.leaveWith 1

/-- What is asked of names. -/
structure PathDemands where
  /-- Whether they have to be short, and of letters and digits and a few other characters. -/
  portable : Bool := false
  /-- Whether they must not be empty or begin with a hyphen. -/
  cautious : Bool := false

/-- The longest path and the longest name that all systems allow, and the longest name here. -/
def portablePathLimit : Nat := 255
def portableNameLimit : Nat := 14

namespace PathDemands

/-- Whether a character can be in names everywhere. -/
def isPortable (char : Char) : Bool := char.isAlphanum || "/._-".toList.contains char

/-- The components of a path. -/
def components (path : Text) : List Text := (path.splitOn '/').filter (!·.isEmpty)

/-- What is wrong with a path by itself. -/
def fault? (demands : PathDemands) (path : Text) : Option Text :=
  if demands.cautious && (path.splitOn '/').any (·.head? = some '-') then
    some ("leading '-' in a component of file name ".toList ++ inQuotes path)
  else if (demands.portable || demands.cautious) && path.isEmpty then some "empty file name".toList
  else if !demands.portable then none
  else
    match path.find? (!isPortable ·) with
    | some char =>
      some ("nonportable character ".toList ++ quoted [char] ++ " in file name ".toList ++ inQuotes path)
    | none =>
      if portablePathLimit < path.length then
        some ("limit ".toList ++ number portablePathLimit ++ " exceeded by length ".toList ++
          number path.length ++ " of file name ".toList ++ inQuotes path)
      else none

/-- What is wrong with a component that is too long. -/
def longComponent? (path : Text) (limit : Nat) : Option Text :=
  ((components path).find? (limit < ·.length)).map fun component =>
    "limit ".toList ++ number limit ++ " exceeded by length ".toList ++ number component.length ++
      " of file name component ".toList ++ quoted component

/-- Checks a path. -/
def check (demands : PathDemands) (path : Text) : Work Unit := do
  match demands.fault? path with
  | some fault => Work.report fault
  | none =>
    if demands.portable then (longComponent? path portableNameLimit).forM Work.report
    else
      match ← Work.facts path false with
      | .ok _ => return ()
      | .error errno =>
        if errno ≠ .noEntry || path.isEmpty then Work.report (because (shownName path) errno)
        else (longComponent? path Files.nameLimit).forM Work.report

end PathDemands

/-- Checks whether names can be those of files. -/
def pathchk (arguments : List Text) : Work Unit := do
  let (given, operands) ← readOptions
    { letters := "pP", names := [("portability", '\x01')], inOrder := true } arguments
  needOperand operands
  let has (letter : Char) : Bool := hasLetter given letter || hasLetter given '\x01'
  operands.forM { portable := has 'p', cautious := has 'P' : PathDemands }.check

end Pipework.Tool
