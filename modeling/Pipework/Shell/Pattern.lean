import Pipework.Shell.Syntax

set_option autoImplicit false

/-!
Patterns of scripts. A pattern is a text in which some characters are quoted; those that are not may stand for
any characters, for one character, or for one of a set.
-/

namespace Pipework.Shell

/-- Text with the information which characters are quoted. -/
abbrev MarkedText := List (Char × Bool)

namespace Pattern

/-- Kinds of characters that have a name. -/
def classes : List (String × (Char → Bool)) :=
  let isPunctuation (char : Char) : Bool := '!' ≤ char && char ≤ '~' && !char.isAlphanum
  [("alnum", Char.isAlphanum), ("alpha", Char.isAlpha), ("blank", isBlank),
    ("cntrl", fun char => char.toNat < 32 || char.toNat = 127), ("digit", Char.isDigit),
    ("graph", fun char => '!' ≤ char && char ≤ '~'), ("lower", Char.isLower),
    ("print", fun char => ' ' ≤ char && char ≤ '~'), ("punct", isPunctuation), ("space", isSpace),
    ("upper", Char.isUpper),
    ("xdigit", fun char => char.isDigit || ('a' ≤ char.toLower && char.toLower ≤ 'f'))]

/-- Something that a set of characters is made of. -/
inductive SetItem where
  | range (first last : Char)
  | named (name : String)

def SetItem.has (char : Char) : SetItem → Bool
  | range first last => first ≤ char && char ≤ last
  | named name => ((classes.lookup name).map (· char)).getD false

/-- An element of a pattern. -/
inductive Element where
  | literal (char : Char)
  | one
  | many
  | set (negated : Bool) (items : List SetItem)

/-- Reads the items of a set up to the bracket that closes it. Gives them and the text behind it. -/
def setItems : Nat → Bool → MarkedText → Option (List SetItem × MarkedText)
  | 0, _, _ => none
  | _, _, [] => none
  | fuel + 1, isFirst, (']', false) :: rest =>
    if isFirst then afterChar fuel ']' rest else some ([], rest)
  | fuel + 1, _, ('[', false) :: (':', false) :: rest =>
    let name := (rest.takeWhile fun entry => entry.1 ≠ ':').map Prod.fst
    match rest.drop name.length with
    | (':', _) :: (']', _) :: after =>
      (setItems fuel false after).map fun (items, behind) =>
        (.named (String.ofList name) :: items, behind)
    | _ => afterChar fuel '[' ((':', false) :: rest)
  | fuel + 1, _, ('\\', false) :: (char, _) :: rest => afterChar fuel char rest
  | fuel + 1, _, (char, _) :: rest => afterChar fuel char rest
where
  /-- Reads the items of a set from a character on that may begin a range. -/
  afterChar (fuel : Nat) (char : Char) (rest : MarkedText) : Option (List SetItem × MarkedText) :=
    match rest with
    | ('-', false) :: (last, quoted) :: later =>
      if last = ']' && !quoted then
        some ([.range char char, .range '-' '-'], later)
      else
        let (last, later) :=
          match last, quoted, later with
          | '\\', false, (escaped, _) :: behind => (escaped, behind)
          | last, _, later => (last, later)
        (setItems fuel false later).map fun (items, behind) => (.range char last :: items, behind)
    | _ => (setItems fuel false rest).map fun (items, behind) => (.range char char :: items, behind)

/-- The elements of a pattern. -/
def elements : Nat → MarkedText → List Element
  | 0, _ => []
  | _, [] => []
  | fuel + 1, (char, true) :: rest => .literal char :: elements fuel rest
  | fuel + 1, ('*', false) :: rest => .many :: elements fuel rest
  | fuel + 1, ('?', false) :: rest => .one :: elements fuel rest
  | fuel + 1, ('\\', false) :: (char, _) :: rest => .literal char :: elements fuel rest
  | fuel + 1, ('[', false) :: rest =>
    let (negated, inside) :=
      match rest with
      | ('!', false) :: inside => (true, inside)
      | _ => (false, rest)
    match setItems (inside.length + 1) true inside with
    | some (items, after) => .set negated items :: elements fuel after
    | none => .literal '[' :: elements fuel rest
  | fuel + 1, (char, false) :: rest => .literal char :: elements fuel rest

/-- The elements of a pattern. -/
def ofText (text : MarkedText) : List Element := elements (text.length + 1) text

/-- Whether an element stands for a character. -/
def Element.has (char : Char) : Element → Bool
  | literal other => char = other
  | one => true
  | many => false
  | set negated items => items.any (SetItem.has char) != negated

/-- Whether a pattern matches the whole of a text. -/
def matchesAll : List Element → Text → Bool
  | [], text => text.isEmpty
  | .many :: [], _ => true
  | .many :: pattern, [] => matchesAll pattern []
  | .many :: pattern, char :: rest =>
    matchesAll pattern (char :: rest) || matchesAll (.many :: pattern) rest
  | element :: pattern, char :: rest => element.has char && matchesAll pattern rest
  | _ :: _, [] => false
termination_by pattern text => pattern.length + text.length

/-- Whether a text has characters that make it more than a literal pattern. -/
def isActive (text : MarkedText) : Bool :=
  text.any fun (char, quoted) => !quoted && "*?[".toList.contains char

/-- What is left of a text once the shortest or longest match of a pattern is taken away at one end. -/
def trim (atEnd longest : Bool) (pattern : List Element) (text : Text) : Text :=
  let sizes := List.range (text.length + 1)
  let sizes := if longest then sizes.reverse else sizes
  let fits (size : Nat) : Bool :=
    if atEnd then matchesAll pattern (text.drop (text.length - size))
    else matchesAll pattern (text.take size)
  match sizes.find? fits with
  | none => text
  | some size => if atEnd then text.take (text.length - size) else text.drop size

end Pattern

end Pipework.Shell
