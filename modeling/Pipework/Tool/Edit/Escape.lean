import Pipework.Regex.Syntax
import Pipework.Tool.Input

set_option autoImplicit false

/-!
Escapes in editing scripts: a backslash with a letter, or with a letter and digits, stands for a character. They
are replaced before regular expressions and replacements are read.
-/

namespace Pipework.Tool.Edit

/-- What a text with escapes is for. -/
inductive EscapeUse where
  | regex
  | replacement
  /-- Characters that are put in place of others. -/
  | characters
  | text
  deriving DecidableEq, Repr

/-- The value of digits to some base. -/
def valueIn (base : Nat) (digits : Text) : Nat :=
  digits.foldl (fun value digit =>
    value * base +
      (if isDigit digit then digit.toNat - '0'.toNat else (digit.toLower.toNat - 'a'.toNat) + 10)) 0

def isHexadecimal (char : Char) : Bool :=
  isDigit char || ('a' ≤ char.toLower && char.toLower ≤ 'f')

/-- The letters that stand for control characters by themselves. -/
def controlEscapes : List (Char × Char) :=
  [('a', '\x07'), ('f', '\x0c'), ('\n', '\n'), ('n', '\n'), ('r', '\r'), ('t', '\t'), ('v', '\x0b')]

/-- The base, the number of digits and the kind of digits behind a letter. -/
def numberedEscapes : List (Char × Nat × Nat × (Char → Bool)) :=
  [('x', 16, 2, isHexadecimal), ('d', 10, 3, isDigit), ('o', 8, 3, fun char => '0' ≤ char && char ≤ '7')]

/-- How far apart a letter and its control character are. -/
def controlOffset : Nat := 64

/-- Whether a character needs a backslash where it takes the place of an escape. -/
def EscapeUse.needsBackslash (use : EscapeUse) (char : Char) : Bool :=
  match use with
  | .regex => false
  | .replacement => char = '\\' || char = '&'
  | .characters | .text => char = '\\'

/-- Replaces escapes by the characters that they stand for. Gives nothing if a control character is made of an
escape. -/
def replaceEscapes? (use : EscapeUse) : Nat → Text → Option Text
  | 0, text => some text
  | _, [] => some []
  | fuel + 1, '\\' :: letter :: rest =>
    let shown (char : Char) (rest : Text) : Option Text :=
      (replaceEscapes? use fuel rest).map ((if use.needsBackslash char then ['\\', char] else [char]) ++ ·)
    match numberedEscapes.lookup letter with
    | some (base, count, isWanted) =>
      let digits := (rest.take count).takeWhile isWanted
      if digits.isEmpty then (replaceEscapes? use fuel rest).map (letter :: ·)
      else shown (Char.ofNat (valueIn base digits % 256)) (rest.drop digits.length)
    | none =>
      match letter, rest with
      | 'c', [] => some ['\\']
      | 'c', '\\' :: '\\' :: rest => shown (Char.ofNat ('\\'.toNat ^^^ controlOffset)) rest
      | 'c', '\\' :: _ => none
      | 'c', char :: rest => shown (Char.ofNat (char.toUpper.toNat ^^^ controlOffset)) rest
      | letter, rest =>
        if use = .regex && letter = '\n' then (replaceEscapes? use fuel rest).map ('\n' :: ·)
        else
          match (if letter = '\n' then none else controlEscapes.lookup letter) with
          | some char => (replaceEscapes? use fuel rest).map (char :: ·)
          | none => (replaceEscapes? use fuel rest).map fun text => '\\' :: letter :: text
  | fuel + 1, char :: rest => (replaceEscapes? use fuel rest).map (char :: ·)

/-- What follows the bracket that closes a set. A bracket that comes first, or between marks, closes nothing. -/
def behindSet : Nat → Bool → Text → Text
  | 0, _, text => text
  | _, _, [] => []
  | fuel + 1, isFirst, text =>
    match text with
    | ']' :: rest => if isFirst then behindSet fuel false rest else rest
    | '[' :: mark :: rest =>
      if mark = ':' || mark = '.' || mark = '=' then
        match Regex.untilMark mark rest with
        | some (_, after) => behindSet fuel false after
        | none => []
      else behindSet fuel false (mark :: rest)
    | _ :: rest => behindSet fuel false rest
    | [] => []

/-- What follows a set in brackets, given what follows its opening bracket. -/
def behindBrackets : Text → Text
  | '^' :: rest => behindSet (rest.length + 1) true rest
  | text => behindSet (text.length + 1) true text

/-- Replaces line feeds that are written as escapes in a set. -/
def withLineFeeds : Text → Text
  | '\\' :: 'n' :: rest => '\n' :: withLineFeeds rest
  | '\\' :: char :: rest => '\\' :: char :: withLineFeeds rest
  | char :: rest => char :: withLineFeeds rest
  | [] => []

/-- Letters and signs with a meaning behind a backslash that the standard does not give them. -/
def extraSigns (extended : Bool) : List Char :=
  "wWsSbB<>\x60\x27".toList ++ (if extended then [] else "+?|".toList)

/-- Takes the backslash from what has no meaning in the standard, except in sets. -/
def withoutExtras (extended : Bool) : Nat → Text → Text
  | 0, text => text
  | _, [] => []
  | fuel + 1, '\\' :: char :: rest =>
    if (extraSigns extended).contains char then char :: withoutExtras extended fuel rest
    else '\\' :: char :: withoutExtras extended fuel rest
  | fuel + 1, '[' :: rest =>
    let after := behindBrackets rest
    '[' :: rest.take (rest.length - after.length) ++ withoutExtras extended fuel after
  | fuel + 1, char :: rest => char :: withoutExtras extended fuel rest

/-- Replaces escapes in a regular expression where sets keep theirs. -/
def replaceOutsideSets? : Nat → Text → Option Text
  | 0, text => some text
  | _, [] => some []
  | fuel + 1, text => do
    let outside := takeOutside text
    let shown ← replaceEscapes? .regex (outside.length + 1) outside
    match text.drop outside.length with
    | bracket :: rest => do
      let after := behindBrackets rest
      let later ← replaceOutsideSets? fuel after
      return shown ++ bracket :: rest.take (rest.length - after.length) ++ later
    | [] => return shown
where
  /-- The part of a regular expression before its first set. -/
  takeOutside : Text → Text
    | '\\' :: char :: rest => '\\' :: char :: takeOutside rest
    | '[' :: _ => []
    | char :: rest => char :: takeOutside rest
    | [] => []

end Pipework.Tool.Edit
