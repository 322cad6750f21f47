import Pipework.Regex.Syntax

set_option autoImplicit false

/-!
Editing scripts: commands for lines, with addresses that say for which. A script is kept as a row of commands in
which blocks and jumps lead from one place to another.
-/

namespace Pipework.Tool.Edit

/-- A regular expression of a script; none stands for the one that was used last. -/
structure EditPattern where
  regex : Option Regex
  matching : Regex.Matching := {}
  /-- How many groups the regular expression has. -/
  groups : Nat := 0
  deriving DecidableEq, Repr

/-- A line that a command is for. -/
inductive Address where
  | line (number : Nat)
  /-- Every so many lines from a first one on. -/
  | every (first step : Nat)
  | last
  | matching (pattern : EditPattern)
  deriving DecidableEq, Repr

/-- Where a range of lines ends. -/
inductive RangeEnd where
  | at (address : Address)
  /-- So many lines further. -/
  | after (count : Nat)
  /-- At the next multiple of a number. -/
  | multiple (count : Nat)
  deriving DecidableEq, Repr

/-- Which case letters are given. -/
inductive CaseChange where
  | upper
  | lower
  | upperFirst
  | lowerFirst
  | keep
  deriving DecidableEq, Repr

/-- A piece of what is put in place of a match. -/
inductive ReplacementPiece where
  | text (text : Text)
  /-- What a group matched; the group 0 is the whole match. -/
  | group (index : Nat)
  | case (change : CaseChange)
  deriving DecidableEq, Repr

/-- A replacement of matches. -/
structure Substitution where
  pattern : EditPattern
  replacement : List ReplacementPiece
  /-- The first match that is replaced, counted from one. -/
  place : Nat := 1
  /-- Whether later matches are replaced, too. -/
  all : Bool := false
  /-- Whether the line is put out, and whether this is done before what comes of it is run. -/
  prints : Bool := false
  printsFirst : Bool := false
  /-- Whether what comes of it is run by the shell. -/
  runs : Bool := false
  /-- The file to which lines with a replacement are written. -/
  file : Option Text := none
  deriving DecidableEq, Repr

/-- What a command does. -/
inductive Action where
  | openBlock
  | closeBlock
  | label (name : Text)
  | append (text : Text)
  | insert (text : Text)
  | change (text : Text)
  | delete
  | deleteFirst
  | printName
  | takeHeld
  | takeHeldToo
  | hold
  | holdToo
  | list (width : Option Nat)
  | next
  | nextToo
  | print
  | printFirst
  | quit (status : Nat)
  | quitSilently (status : Nat)
  | readFile (path : Text)
  /-- Puts out one more line of a file each time. -/
  | readLine (path : Text)
  /-- Runs a command of the shell, or the line itself if the command is empty. -/
  | run (command : Text)
  | writeFile (path : Text)
  | writeFirst (path : Text)
  | substitute (substitution : Substitution)
  | translate (sources targets : Text)
  | exchange
  | clear
  | printNumber
  /-- A command that can be written and not be carried out. -/
  | withdrawn (letter : Char)
  | jump (label : Text)
  | jumpIfReplaced (label : Text)
  | jumpUnlessReplaced (label : Text)
  deriving DecidableEq, Repr

/-- A command with the lines that it is for. -/
structure Command where
  first : Option Address := none
  second : Option RangeEnd := none
  negated : Bool := false
  action : Action
  deriving DecidableEq, Repr

/-!
What editing commands make of the text of a line: replacements of matches, and a form in which all characters show.
-/

/-- Changes the case of a text. -/
def changeCase (change once : CaseChange) (text : Text) : Text :=
  let text :=
    match change with
    | .upper => text.map Char.toUpper
    | .lower => text.map Char.toLower
    | _ => text
  match once, text with
  | .upperFirst, first :: rest => first.toUpper :: rest
  | .lowerFirst, first :: rest => first.toLower :: rest
  | _, _ => text

/-- What is put in place of a match. -/
def replacementText (found : Regex.Found) : List ReplacementPiece → CaseChange → CaseChange → Text
  | [], _, _ => []
  | piece :: later, change, once =>
    let shown (text : Text) : Text :=
      changeCase change once text ++
        replacementText found later change (if text.isEmpty then once else .keep)
    match piece with
    | .text text => shown text
    | .group 0 => shown found.matched
    | .group index => shown ((found.groups.lookup index).getD [])
    | .case .upperFirst => replacementText found later change .upperFirst
    | .case .lowerFirst => replacementText found later change .lowerFirst
    | .case change => replacementText found later change .keep

/-- Replaces matches in what is left of a line. An empty match right behind another match does not count. Gives
the new text, and whether something was replaced. -/
def replaceIn (substitution : Substitution) (regex : Regex) (matching : Regex.Matching) :
    Nat → (count : Nat) → (before : Option Char) → (afterMatch : Bool) → Text → Text × Bool
  | 0, _, _, _, text => (text, false)
  | fuel + 1, count, before, afterMatch, text =>
    match regex.find? matching before text with
    | none => (text, false)
    | some found =>
      let skipOne (kept : Text) (count : Nat) (afterMatch : Bool) : Text × Bool :=
        match found.after with
        | [] => (kept, false)
        | char :: rest =>
          let (text, replaced) := replaceIn substitution regex matching fuel count (some char) afterMatch rest
          (kept ++ char :: text, replaced)
      let lastBefore : Option Char :=
        (found.matched.getLast? <|> found.before.getLast?) <|> before
      if found.matched.isEmpty && found.before.isEmpty && afterMatch then skipOne [] count false
      else if count + 1 < substitution.place then
        let kept := found.before ++ found.matched
        if found.matched.isEmpty then skipOne kept (count + 1) false
        else
          let (text, replaced) := replaceIn substitution regex matching fuel (count + 1) lastBefore true found.after
          (kept ++ text, replaced)
      else
        let shown := found.before ++ replacementText found substitution.replacement .keep .keep
        if !substitution.all then (shown ++ found.after, true)
        else if found.matched.isEmpty then (((skipOne shown (count + 1) false)).1, true)
        else
          let (text, _) := replaceIn substitution regex matching fuel (count + 1) lastBefore true found.after
          (shown ++ text, true)

/-- A text with all characters shown, in lines of some width. -/
def listed (width : Nat) (last : Char) (text : Text) : Text :=
  let shown (char : Char) : Text :=
    match char with
    | '\\' => ['\\', '\\']
    | '\x07' => ['\\', 'a']
    | '\x08' => ['\\', 'b']
    | '\x0c' => ['\\', 'f']
    | '\n' => ['\\', 'n']
    | '\r' => ['\\', 'r']
    | '\t' => ['\\', 't']
    | '\x0b' => ['\\', 'v']
    | char =>
      if ' ' ≤ char && char ≤ '~' then [char]
      else
        let digits := Nat.toDigits 8 char.toNat
        '\\' :: List.replicate (3 - digits.length) '0' ++ digits
  let (parts, _) := text.foldl (fun (parts, column) char =>
    let part := shown char
    if width ≠ 0 && width ≤ column + part.length then (part :: ['\\', last] :: parts, part.length)
    else (part :: parts, column + part.length)) (([], 0) : List Text × Nat)
  parts.reverse.flatten ++ ['$', last]

end Pipework.Tool.Edit
