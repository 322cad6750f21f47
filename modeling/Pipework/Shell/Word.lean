import Pipework.Shell.Source

set_option autoImplicit false

/-!
Words of scripts. Quotes and expansions are taken apart as a word is read; scripts within words are read by
the reader that is passed along.
-/

namespace Pipework.Shell

/-- Where the characters of a word stand. -/
inductive Place where
  | bare
  /-- Between double quotes. -/
  | quoted
  /-- In braces behind a parameter. -/
  | brace
  /-- In braces behind a parameter that stands between double quotes. -/
  | quotedBrace
  | arithmetic
  /-- In a document that is part of the script. -/
  | document
  deriving DecidableEq, Repr

/-- Whether text stands for itself there. -/
def Place.isQuoted (place : Place) : Bool := place ≠ .bare && place ≠ .brace

/-- Characters that end a word unless they are quoted. -/
def endsWord (char : Char) : Bool := " \t\n;&|()<>".toList.contains char

/-- How scripts within words are read. -/
structure ScriptReader where
  /-- Reads a list up to a parenthesis that closes it. -/
  upToParenthesis : Parse Command
  /-- Reads a list up to the end of the text. -/
  whole : Parse Command

/-- Reads a text up to the next back quote. -/
def takeBackQuoted (inQuotes : Bool) : Nat → Text → Parse Text
  | 0, taken => pure taken.reverse
  | fuel + 1, taken => do
    match ← Parse.peek with
    | none => Parse.fail "EOF in backquote substitution"
    | some '\x60' => do
      Parse.skip
      return taken.reverse
    | some '\\' => do
      Parse.skip
      match ← Parse.peek with
      | none => Parse.fail "EOF in backquote substitution"
      | some '\n' => do
        Parse.skip
        takeBackQuoted inQuotes fuel taken
      | some char => do
        Parse.skip
        if "\\\x60$".toList.contains char || (inQuotes && char = '\x22') then
          takeBackQuoted inQuotes fuel (char :: taken)
        else takeBackQuoted inQuotes fuel (char :: '\\' :: taken)
    | some char => do
      Parse.skip
      takeBackQuoted inQuotes fuel (char :: taken)

/-- What follows the name of a parameter in braces. -/
inductive BraceOperator where
  | none
  | word (make : Word → ParameterUse)
  | pattern (atEnd longest : Bool)
  | bad

/-- Reads the operator behind the name of a parameter. What stands there instead is lost, unless a length is
asked for. -/
def braceOperator (isLength : Bool) : Parse BraceOperator := do
  match ← Parse.peekJoined with
  | some '\x7d' => do
    Parse.skip
    return .none
  | some '#' => do
    Parse.skip
    return .pattern false (← Parse.accept '#')
  | some '%' => do
    Parse.skip
    return .pattern true (← Parse.accept '%')
  | _ => do
    let colon ← Parse.accept ':'
    match ← Parse.peekJoined with
    | some '-' => do
      Parse.skip
      return .word (.orElse colon)
    | some '+' => do
      Parse.skip
      return .word (.whenSet colon)
    | some '=' => do
      Parse.skip
      return .word (.assign colon)
    | some '?' => do
      Parse.skip
      return .word (.orFail colon)
    | _ => do
      if !isLength then Parse.skipMisplaced
      return .bad

/-- Reads the name of a parameter in braces, and whether its length is asked for. A name of no known form is
empty. -/
def braceName : Parse (Text × Bool) := do
  let named : Parse Text := do
    match ← Parse.peekJoined with
    | some char =>
      if isNameStart char then Parse.takeWhile isNameChar stepLimit []
      else if char.isDigit then Parse.takeWhile Char.isDigit stepLimit []
      else if isSpecialParameter char then
        Parse.skip
        return [char]
      else do
        if char ≠ '\x7d' then Parse.skipMisplaced
        return []
    | none => return []
  match ← Parse.peekJoined with
  | some '#' => do
    Parse.skip
    let source ← get
    match ← Parse.peekJoined with
    | some char =>
      if isNameChar char then
        let name ← named
        return (name, true)
      else if char = '\x7d' then return (['#'], false)
      else
        Parse.skip
        if (← Parse.peekJoined) = some '\x7d' then
          if isSpecialParameter char then return ([char], true) else return ([], false)
        else
          set source
          return (['#'], false)
    | none => return (['#'], false)
  | _ => return (← named, false)

/-- A word between double quotes. The quotes count even if nothing stands between them, unless it is the list of
all parameters, which may have none. -/
def quotedWord (inside : Word) : Word :=
  match inside with
  | [.parameter ['@'] .value true] => inside
  | _ => .text [] true :: inside

mutual

/-- Reads the parts of a word up to its end. The parts before are given in reverse order. In braces between
double quotes, `inner` tells whether quotes were opened once more; in arithmetic, `depth` counts the open
parentheses. -/
def lexParts (reader : ScriptReader) (place : Place) (inner : Bool) (depth : Nat) :
    Nat → Word → Parse Word
  | 0, parts => pure parts.reverse
  | fuel + 1, parts => do
    let goOn (parts : Word) : Parse Word := lexParts reader place inner depth fuel parts
    let literal (char : Char) : Parse Word := do
      Parse.skip
      goOn (addChar char place.isQuoted parts)
    match ← Parse.peekJoined with
    | none =>
      match place with
      | .bare | .document => return parts.reverse
      | .quoted | .quotedBrace => Parse.fail "Unterminated quoted string"
      | .brace => Parse.fail "Missing '\x7d'"
      | .arithmetic => Parse.fail "Missing '))'"
    | some '\\' => do
      Parse.skip
      match ← Parse.peek with
      | none => goOn (addChar '\\' true parts)
      | some char => do
        Parse.skip
        let stays :=
          place.isQuoted && !"\\\x60$".toList.contains char && (char ≠ '\x22' || place = .document) &&
            (char ≠ '\x7d' || place ≠ .quotedBrace)
        if stays then goOn (addChar char true (addChar '\\' true parts))
        else goOn (addChar char true parts)
    | some '\x27' =>
      if place.isQuoted then literal '\x27'
      else do
        Parse.skip
        match ← Parse.takeUntil '\x27' stepLimit [] with
        | none => Parse.fail "Unterminated quoted string"
        | some inside => goOn (.text inside true :: parts)
    | some '\x22' =>
      match place with
      | .bare | .brace => do
        Parse.skip
        let inside ← lexParts reader .quoted false 0 fuel []
        goOn ((quotedWord inside).reverse ++ parts)
      | .quoted => do
        Parse.skip
        return parts.reverse
      | .quotedBrace => do
        Parse.skip
        lexParts reader place (!inner) depth fuel parts
      | .arithmetic | .document => literal '\x22'
    | some '$' => do
      Parse.skip
      match ← lexExpansion reader place fuel with
      | some part => goOn (part :: parts)
      | none => goOn (addChar '$' place.isQuoted parts)
    | some '\x60' => do
      Parse.skip
      let line := (← get).line
      let text ← takeBackQuoted place.isQuoted stepLimit []
      let script ← Parse.within text line reader.whole
      goOn (.output script place.isQuoted :: parts)
    | some '\x7d' =>
      if place = .brace || (place = .quotedBrace && !inner) then do
        Parse.skip
        return parts.reverse
      else literal '\x7d'
    | some '(' =>
      match place with
      | .bare => return parts.reverse
      | .arithmetic => do
        Parse.skip
        lexParts reader place inner (depth + 1) fuel (addChar '(' true parts)
      | _ => literal '('
    | some ')' =>
      match place, depth with
      | .bare, _ => return parts.reverse
      | .arithmetic, 0 => do
        Parse.skip
        if ← Parse.accept ')' then return parts.reverse else goOn (addChar ')' true parts)
      | .arithmetic, depth + 1 => do
        Parse.skip
        lexParts reader place inner depth fuel (addChar ')' true parts)
      | _, _ => literal ')'
    | some char => if place = .bare && endsWord char then return parts.reverse else literal char

/-- Reads the expansion behind a dollar sign, if there is one. -/
def lexExpansion (reader : ScriptReader) (place : Place) : Nat → Parse (Option WordPart)
  | 0 => pure none
  | fuel + 1 => do
    let quoted := place.isQuoted
    match ← Parse.peekJoined with
    | some '(' => do
      Parse.skip
      if ← Parse.accept '(' then
        return some (.arithmetic (← lexParts reader .arithmetic false 0 fuel []) quoted)
      else return some (.output (← reader.upToParenthesis) quoted)
    | some '\x7b' => do
      Parse.skip
      let (name, isLength) ← braceName
      let inside (place : Place) : Parse Word := lexParts reader place false 0 fuel []
      let wordPlace : Place := if quoted then .quotedBrace else .brace
      if name.isEmpty then
        let _ ← inside wordPlace
        return some (.parameter name .bad quoted)
      else
        match ← braceOperator isLength with
        | .none => return some (.parameter name (if isLength then .length else .value) quoted)
        | .bad => do
          let _ ← inside wordPlace
          return some (.parameter name .bad quoted)
        | .word make => do
          let word ← inside wordPlace
          return some (.parameter name (if isLength then .bad else make word) quoted)
        | .pattern atEnd longest => do
          let pattern ← inside .brace
          return some (.parameter name (if isLength then .bad else .trim atEnd longest pattern) quoted)
    | some char =>
      if isNameStart char then
        return some (.parameter (← Parse.takeWhile isNameChar stepLimit []) .value quoted)
      else if isSpecialParameter char then
        Parse.skip
        return some (.parameter [char] .value quoted)
      else return none
    | none => return none

end

end Pipework.Shell
