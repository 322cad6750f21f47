import Pipework.Bytes

set_option autoImplicit false

/-!
Names in diagnostics. A name that a reader could mistake for something else stands in quotes, in a form that a
shell would read back as the name.
-/

namespace Pipework.Tool

/-- Characters that a name shows without quotes. -/
def isPlain (char : Char) : Bool :=
  char.isAlphanum || "%+,-./@_]\x7b\x7d".toList.contains char

/-- What is special only at the start of a name. -/
def isPlainInside (char : Char) : Bool := isPlain char || char = '#' || char = '~'

/-- Whether a name shows as it is, where some characters more are taken to be plain. -/
def isUnquoted (isAlsoPlain : Char → Bool) : Text → Bool
  | [] => false
  | first :: rest =>
    (isPlain first || isAlsoPlain first) && (rest.all fun char => isPlainInside char || isAlsoPlain char) &&
      !(first :: rest = ['\x7b'] || first :: rest = ['\x7d'])

/-- Whether a name shows as it is in front of a colon. -/
def showsAsIs (name : Text) : Bool := isUnquoted (fun _ => false) name

/-- The letters that stand for control characters behind a backslash. -/
def controlLetters : List (Char × Char) :=
  [('\x07', 'a'), ('\x08', 'b'), ('\x0c', 'f'), ('\n', 'n'), ('\r', 'r'), ('\t', 't'), ('\x0b', 'v')]

/-- Whether a character can be shown. -/
def isShowable (char : Char) : Bool := ' ' ≤ char && char ≤ '~'

/-- A character that cannot be shown, as a backslash and a letter or octal digits. -/
def escapeOf? (char : Char) : Option Text :=
  match controlLetters.lookup char with
  | some letter => some ['\\', letter]
  | none =>
    if isShowable char then none
    else
      let digits := Nat.toDigits 8 char.toNat
      some ('\\' :: (List.replicate (3 - digits.length) '0' ++ digits))

/-- The inner part of a name in single quotes. Characters that cannot be shown stand in quotes of another kind,
in which the part begins if `escaping` holds. -/
def insideQuotes : (escaping : Bool) → Text → Text
  | _, [] => []
  | escaping, char :: rest =>
    match escapeOf? char with
    | some shown => (if escaping then [] else "'$'".toList) ++ shown ++ insideQuotes true rest
    | none =>
      if char = '\x27' then "'\\''".toList ++ insideQuotes false rest
      else (if escaping then ['\x27', '\x27'] else []) ++ char :: insideQuotes false rest

/-- Whether a name with single quotes can stand in double quotes. -/
def fitsDoubleQuotes (name : Text) : Bool :=
  let fits (char : Char) : Bool := char.isAlphanum || "%+,-./@_]: '".toList.contains char
  match name with
  | [] => true
  | first :: rest => (fits first || first = '#' || first = '~') && rest.all fits

/-- A name in single quotes. Where it holds such quotes itself, double quotes are used, or each is quoted for
itself. -/
def inQuotes (name : Text) : Text :=
  if name.contains '\x27' && fitsDoubleQuotes name then '\x22' :: name ++ ['\x22']
  else '\x27' :: insideQuotes false name ++ ['\x27']

/-- A name as diagnostics show it in front of a colon. -/
def shownName (name : Text) : Text := if showsAsIs name then name else inQuotes name

/-- A word as a shell would read it back, in quotes only if it needs them. -/
def shellWord (word : Text) : Text := if isUnquoted (· = ':') word then word else inQuotes word

/-- An argument in single quotes, with a backslash before each such quote in it. -/
def quoted (argument : Text) : Text :=
  let shown := argument.flatMap fun char =>
    if char = '\x27' || char = '\\' then ['\\', char] else (escapeOf? char).getD [char]
  '\x27' :: shown ++ ['\x27']

end Pipework.Tool
