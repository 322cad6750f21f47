set_option autoImplicit false

/-!
Patterns for the values of fields, as directives give them: which texts are regular expressions. Tables of
character properties are not at hand, so classes such as `\d`, word boundaries and letters in either case are
refused, except where characters are bytes.
-/

namespace Pipework.Log

/-- What is switched on at a place of a pattern. -/
structure PatternFlags where
  /-- Whether letters stand for both cases. -/
  ignoresCase : Bool := false
  /-- Whether characters are code points and not bytes. -/
  unicode : Bool := true
  /-- Whether blanks and comments are passed over. -/
  spaced : Bool := false
  deriving DecidableEq, Repr

namespace PatternFlags

/-- Switches a flag. -/
def set (flags : PatternFlags) (flag : Char) (value : Bool) : PatternFlags :=
  match flag with
  | 'i' => { flags with ignoresCase := value }
  | 'u' => { flags with unicode := value }
  | 'x' => { flags with spaced := value }
  | _ => flags

/-- Passes over blanks and comments, where they do not count. -/
def skip (flags : PatternFlags) : Bool → List Char → List Char
  | _, [] => []
  | inComment, char :: rest =>
    if !flags.spaced then char :: rest
    else if inComment then flags.skip (char != '\n') rest
    else if char.isWhitespace then flags.skip false rest
    else if char = '#' then flags.skip true rest
    else char :: rest

/-- Whether a character can stand for itself. -/
def admits (flags : PatternFlags) (char : Char) : Bool :=
  if flags.unicode then !flags.ignoresCase else char.toNat < 0x80

/-- Whether classes can be given; one that leaves characters out needs code points. -/
def admitsClass (flags : PatternFlags) (negated : Bool) : Bool :=
  if flags.unicode then !flags.ignoresCase else !negated

end PatternFlags

/-- A part of a pattern that stands for one place. -/
inductive PatternPart where
  | literal (char : Char)
  | charClass
  | place
  deriving DecidableEq, Repr

namespace Pattern

/-- The value of so many hexadecimal digits at the start of a text, and the rest. -/
def hexDigits? : Nat → Nat → List Char → Option (Nat × List Char)
  | 0, value, text => some (value, text)
  | _ + 1, _, [] => none
  | count + 1, value, char :: rest =>
    let digit? : Option Nat :=
      if char.isDigit then some (char.toNat - '0'.toNat)
      else if 'a' ≤ char && char ≤ 'f' then some (char.toNat - 'a'.toNat + 10)
      else if 'A' ≤ char && char ≤ 'F' then some (char.toNat - 'A'.toNat + 10)
      else none
    digit?.bind fun digit => hexDigits? count (value * 16 + digit) rest

/-- Letters that stand for controls behind a backslash. -/
def controlLetters : List (Char × Char) :=
  [('a', '\x07'), ('f', '\x0c'), ('t', '\t'), ('n', '\n'), ('r', '\r'), ('v', '\x0b')]

/-- What stands behind a backslash, and the rest. -/
def escaped? (flags : PatternFlags) : List Char → Option (PatternPart × List Char)
  | [] => none
  | char :: rest =>
    let literal (char : Char) (rest : List Char) : Option (PatternPart × List Char) :=
      if flags.admits char then some (.literal char, rest) else none
    let coded (count : Nat) : Option (PatternPart × List Char) :=
      (hexDigits? count 0 rest).bind fun (code, rest) =>
        if code.isValidChar then literal (Char.ofNat code) rest else none
    match controlLetters.lookup char with
    | some control => literal control rest
    | none =>
      match char with
      | 'x' => coded 2
      | 'u' => coded 4
      | 'U' => coded 8
      | 'd' | 's' | 'w' => if flags.unicode then none else some (.charClass, rest)
      | 'A' | 'z' => some (.place, rest)
      | 'b' | 'B' => if flags.unicode then none else some (.place, rest)
      | _ => if char.toNat < 0x80 && !char.isAlphanum && char ≠ '<' && char ≠ '>' then literal char rest else none

/-- The names of classes between `[:` and `:]`. -/
def classNames : List String :=
  ["alnum", "alpha", "ascii", "blank", "cntrl", "digit", "graph", "lower", "print", "punct", "space",
    "upper", "word", "xdigit"]

/-- What follows a named class, if one stands here behind its first bracket. -/
def namedClass? (flags : PatternFlags) : List Char → Option (List Char)
  | ':' :: rest =>
    let (negated, rest) : Bool × List Char :=
      match rest with
      | '^' :: rest => (true, rest)
      | _ => (false, rest)
    let name := rest.takeWhile (· != ':')
    match rest.drop name.length with
    | ':' :: ']' :: rest =>
      if classNames.contains (String.ofList name) && flags.admitsClass negated then some rest else none
    | _ => none
  | _ => none

/-- What follows the start of a class: a caret, hyphens, and a bracket that stands for itself. -/
def afterOpening? (flags : PatternFlags) (text : List Char) : Option (List Char) :=
  let text := flags.skip false text
  let (negated, text) : Bool × List Char :=
    match text with
    | '^' :: rest => (true, flags.skip false rest)
    | _ => (false, text)
  if !flags.admitsClass negated then none
  else
    match text with
    | ']' :: rest => some rest
    | _ => some (text.dropWhile (· = '-'))

/-- A member of a class, and the rest. -/
def member? (flags : PatternFlags) : List Char → Option (PatternPart × List Char)
  | [] => none
  | '\\' :: rest =>
    match escaped? flags rest with
    | some (.place, _) => none
    | other => other
  | char :: rest => if flags.admits char then some (.literal char, rest) else none

/-- A member of a class or a range from one to another, and the rest. -/
def range? (flags : PatternFlags) (text : List Char) : Option (List Char) :=
  (member? flags text).bind fun (first, rest) =>
    match flags.skip false rest with
    | '-' :: rest =>
      let rest := flags.skip false rest
      match rest.head? with
      | none => none
      | some ']' | some '-' => some ('-' :: rest)
      | some _ =>
        (member? flags rest).bind fun (last, rest) =>
          match first, last with
          | .literal first, .literal last => if first ≤ last then some rest else none
          | _, _ => none
    | rest => some rest

/-- What follows a class of which so many brackets are open. -/
def afterClass? (flags : PatternFlags) : Nat → Nat → List Char → Option (List Char)
  | 0, _, _ => none
  | fuel + 1, depth, text =>
    match flags.skip false text with
    | [] => none
    | '[' :: rest =>
      match namedClass? flags rest with
      | some rest => afterClass? flags fuel depth rest
      | none => (afterOpening? flags rest).bind (afterClass? flags fuel (depth + 1))
    | ']' :: rest => if depth = 1 then some rest else afterClass? flags fuel (depth - 1) rest
    | '&' :: '&' :: rest | '-' :: '-' :: rest | '~' :: '~' :: rest => afterClass? flags fuel depth rest
    | text => (range? flags text).bind (afterClass? flags fuel depth)

/-- The letters of flags. -/
def flagLetters : List Char := ['i', 'm', 's', 'U', 'u', 'R', 'x']

/-- The flags that letters switch on, and off behind a hyphen, up to the end of the letters. -/
def switched? : List Char → List Char → PatternFlags → Option PatternFlags
  | seen, [], flags => if seen.head? = some '-' then none else some flags
  | seen, char :: rest, flags =>
    if seen.contains char then none
    else if char = '-' then switched? (char :: seen) rest flags
    else if flagLetters.contains char then
      switched? (char :: seen) rest (flags.set char (!seen.contains '-'))
    else none

/-- Whether a text can be the name of a group. -/
def isGroupName : List Char → Bool
  | [] => false
  | first :: rest =>
    (first = '_' || first.isAlpha) &&
      rest.all fun char => char.isAlphanum || ['_', '.', '[', ']'].contains char

/-- What is known at a place of a pattern. -/
structure Place where
  flags : PatternFlags := {}
  /-- The flags around each open group, the innermost first. -/
  outer : List PatternFlags := []
  names : List (List Char) := []
  /-- Whether something that can be repeated stands before the place. -/
  repeatable : Bool := false

/-- Opens a group; the text stands behind its bracket. -/
def openGroup? (place : Place) (text : List Char) : Option (Place × List Char) :=
  let inner : Place := { place with outer := place.flags :: place.outer, repeatable := false }
  let named (rest : List Char) : Option (Place × List Char) :=
    let name := rest.takeWhile (· != '>')
    match rest.drop name.length with
    | _ :: rest =>
      if isGroupName name && !place.names.contains name then
        some ({ inner with names := name :: place.names }, rest)
      else none
    | [] => none
  match text with
  | '?' :: 'P' :: '<' :: rest | '?' :: '<' :: rest => named rest
  | '?' :: rest =>
    let letters := rest.takeWhile fun char => char != ':' && char != ')'
    (switched? [] letters place.flags).bind fun flags =>
      match rest.drop letters.length with
      | ':' :: rest => some ({ inner with flags }, rest)
      | ')' :: rest =>
        if letters.isEmpty then none else some ({ place with flags, repeatable := false }, rest)
      | _ => none
  | _ => some (inner, text)

/-- Whether a text goes on as a pattern from a place on. -/
def goesOn : Nat → Place → List Char → Bool
  | 0, _, _ => false
  | fuel + 1, place, text =>
    let one (rest : List Char) : Bool := goesOn fuel { place with repeatable := true } rest
    match place.flags.skip false text with
    | [] => place.outer.isEmpty
    | '(' :: rest =>
      match openGroup? place rest with
      | some (place, rest) => goesOn fuel place rest
      | none => false
    | ')' :: rest =>
      match place.outer with
      | [] => false
      | flags :: outer => goesOn fuel { place with flags, outer, repeatable := true } rest
    | '|' :: rest => goesOn fuel { place with repeatable := false } rest
    | '[' :: rest =>
      match (afterOpening? place.flags rest).bind (afterClass? place.flags (rest.length + 1) 1) with
      | some rest => one rest
      | none => false
    | '*' :: rest | '+' :: rest | '?' :: rest =>
      let rest :=
        match place.flags.skip false rest with
        | '?' :: rest => rest
        | rest => rest
      place.repeatable && one rest
    | '\x7b' :: _ => false
    | '.' :: rest => place.flags.unicode && one rest
    | '^' :: rest | '$' :: rest => one rest
    | '\\' :: rest =>
      match escaped? place.flags rest with
      | some (_, rest) => one rest
      | none => false
    | char :: rest => place.flags.admits char && one rest

/-- Whether a text is a pattern. -/
def isPattern (text : List Char) : Bool := goesOn (text.length + 1) {} text

/-- Whether a text is a number with digits, perhaps with a point and an exponent. -/
def isNumber (text : List Char) : Bool :=
  let unsigned (text : List Char) : List Char :=
    match text with
    | '+' :: rest | '-' :: rest => rest
    | _ => text
  let text := unsigned text
  let whole := text.takeWhile Char.isDigit
  let rest := text.drop whole.length
  let (fraction, rest) : List Char × List Char :=
    match rest with
    | '.' :: rest => (rest.takeWhile Char.isDigit, rest.dropWhile Char.isDigit)
    | _ => ([], rest)
  let isName := ["inf", "infinity", "nan"].contains (String.ofList (text.map Char.toLower))
  isName ||
    (!(whole.isEmpty && fraction.isEmpty) &&
      match rest with
      | [] => true
      | sign :: exponent =>
        let digits := unsigned exponent
        (sign = 'e' || sign = 'E') && !digits.isEmpty && digits.all Char.isDigit)

end Pattern

/-- Whether a text can be given as the value of a field: a truth value, a number or a pattern. -/
def isFieldValue (text : List Char) : Bool :=
  ["true", "false"].contains (String.ofList text) || Pattern.isNumber text || Pattern.isPattern text

end Pipework.Log
