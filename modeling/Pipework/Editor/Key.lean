import Pipework.Text.Unprintable

set_option autoImplicit false

/-!
Keys. A terminal sends one character for most keys and a sequence that begins with an escape for others;
`Key.decode` finds the first key in what was typed. An escape by itself cannot be told from the start of a
sequence, so it counts as a key only if nothing follows it and the reader does not want to wait.
-/

namespace Pipework.Editor

/-- A key without its modifiers. -/
inductive KeyCode where
  | char (char : Char)
  | enter
  | tab
  | backTab
  | backspace
  | delete
  | insert
  | escape
  | home
  | last
  | left
  | right
  | up
  | down
  | pageUp
  | pageDown
  | function (number : Nat)
  | pasteStart
  | pasteEnd
  /-- A sequence of no known meaning. -/
  | unknownSequence
  /-- A control character of no known meaning. -/
  | null
  deriving DecidableEq, Repr

/-- A key with the modifiers held down with it. -/
structure Key where
  code : KeyCode
  control : Bool := false
  alt : Bool := false
  shift : Bool := false
  deriving DecidableEq, Repr

/-- Characters without a glyph of their own. -/
def isControl (char : Char) : Bool :=
  char.toNat < 32 || (127 ≤ char.toNat && char.toNat < 160)

namespace Key

/-- The key of a character, with or without the alternate modifier. -/
def ofChar (char : Char) (alt : Bool := false) : Key :=
  if !isControl char then { code := .char char, alt }
  else
    match char with
    | '\x00' => { code := .char '@', control := true, alt }
    | '\x08' | '\x7f' => { code := .backspace, alt }
    | '\t' => { code := .tab, alt }
    | '\r' => { code := .enter, alt }
    | '\x1b' => { code := .escape, alt }
    | '\u009b' => { code := .escape, alt, shift := true }
    | _ =>
      if char.toNat < 32 then { code := .char (Char.ofNat (char.toNat + 64)), control := true, alt }
      else { code := .null, alt }

/-- An escape by itself. -/
def escape : Key := { code := .escape }

/-- A sequence of no known meaning. -/
def unknown : Key := { code := .unknownSequence }

/-- The modifiers that a digit in a sequence stands for. -/
def modify? (digit : Char) (code : KeyCode) : Option Key :=
  match digit with
  | '2' => some { code, shift := true }
  | '3' => some { code, alt := true }
  | '4' => some { code, alt := true, shift := true }
  | '5' => some { code, control := true }
  | '6' => some { code, control := true, shift := true }
  | '7' => some { code, control := true, alt := true }
  | '8' => some { code, control := true, alt := true, shift := true }
  | _ => none

/-- The keys that a letter stands for at the end of a sequence. -/
def ofLetter? (char : Char) : Option KeyCode :=
  match char with
  | 'A' => some .up
  | 'B' => some .down
  | 'C' => some .right
  | 'D' => some .left
  | 'F' => some .last
  | 'H' => some .home
  | _ => none

/-- The keys that one digit before a tilde stands for. -/
def ofDigit? (digit : Char) : Option KeyCode :=
  match digit with
  | '1' | '7' => some .home
  | '2' => some .insert
  | '3' => some .delete
  | '4' | '8' => some .last
  | '5' => some .pageUp
  | '6' => some .pageDown
  | _ => none

/-- The function keys that two digits before a tilde stand for. -/
def ofDigits? (tens units : Char) : Option KeyCode :=
  match tens, units with
  | '1', '1' => some (.function 1)
  | '1', '2' => some (.function 2)
  | '1', '3' => some (.function 3)
  | '1', '4' => some (.function 4)
  | '1', '5' => some (.function 5)
  | '1', '7' => some (.function 6)
  | '1', '8' => some (.function 7)
  | '1', '9' => some (.function 8)
  | '2', '0' => some (.function 9)
  | '2', '1' => some (.function 10)
  | '2', '3' => some (.function 11)
  | '2', '4' => some (.function 12)
  | _, _ => none

/-- What is found at the start of what was typed. -/
inductive Found where
  /-- A key, and a diagnostic if nothing is known of its sequence. -/
  | key (key : Key) (rest : List Char) (diagnostic : Option String)
  /-- More has to be typed to tell. -/
  | incomplete

/-- A sequence of no known meaning. -/
def Found.unsupported (sequence : String) (rest : List Char) : Found :=
  .key unknown rest (some ("unsupported esc sequence: " ++ sequence))

/-- The key, if there is one, else a diagnostic. -/
def Found.ofOption (key : Option Key) (sequence : String) (rest : List Char) : Found :=
  match key with
  | some key => .key key rest none
  | none => .unsupported sequence rest

/-- A character between quotes in a diagnostic. -/
def quoteChar (char : Char) : String :=
  "'" ++ (if char = '\'' then "\\'" else if char = '\x22' then "\x22" else Text.Quoted.escape char) ++ "'"

/-- Decodes what follows an escape, an opening bracket, two digits and a semicolon. -/
def decodeLongModifier (tens units : Char) : List Char → Found
  | [] => .incomplete
  | modifier :: rest =>
    let start := String.ofList ['\\', 'E', '[', tens, units, ';']
    if !modifier.isDigit then .unsupported (start ++ quoteChar modifier) rest
    else
      match rest with
      | [] => .incomplete
      | 'R' :: rest => .key unknown rest none
      | '~' :: rest =>
        .ofOption (if modifier = '5' then (ofDigits? tens units).bind (modify? modifier) else none)
          (start ++ modifier.toString ++ "~") rest
      | char :: rest =>
        if char.isDigit then
          match rest with
          | [] => .incomplete
          | _ :: rest => .key unknown rest none
        else .unsupported (start ++ String.ofList [modifier, char]) rest

/-- Decodes what follows an escape, an opening bracket, a digit and a semicolon. -/
def decodeModifier (digit : Char) : List Char → Found
  | [] => .incomplete
  | modifier :: rest =>
    let start := String.ofList ['\\', 'E', '[', digit, ';']
    if !modifier.isDigit then .unsupported (start ++ quoteChar modifier) rest
    else
      match rest with
      | [] => .incomplete
      | final :: rest =>
        if final.isDigit then
          match rest with
          | [] => .incomplete
          | _ :: rest => .key unknown rest none
        else if digit = '1' then
          .ofOption
            (if modifier = '9' then (ofLetter? final).map fun code => { code, alt := true }
            else (ofLetter? final).bind (modify? modifier))
            (start ++ modifier.toString ++ quoteChar final) rest
        else if final = '~' then
          .ofOption (((ofDigit? digit).filter fun _ => "2356".toList.contains digit).bind (modify? modifier))
            (start ++ quoteChar modifier ++ "~") rest
        else .unsupported (start ++ modifier.toString ++ quoteChar final) rest

/-- Decodes what follows an escape, an opening bracket and a digit. -/
def decodeDigit (digit : Char) : List Char → Found
  | [] => .incomplete
  | '~' :: rest => .ofOption ((ofDigit? digit).map ({ code := · })) ("\\E[" ++ digit.toString ++ "~") rest
  | ';' :: rest => decodeModifier digit rest
  | second :: rest =>
    if second.isDigit then
      let start := String.ofList ['\\', 'E', '[', digit, second]
      match rest with
      | [] => .incomplete
      | '~' :: rest => .ofOption ((ofDigits? digit second).map ({ code := · })) (start ++ "~") rest
      | ';' :: rest => decodeLongModifier digit second rest
      | third :: rest =>
        if third.isDigit then
          match rest with
          | [] => .incomplete
          | '~' :: rest =>
            .ofOption
              (match digit, second, third with
              | '2', '0', '0' => some { code := .pasteStart }
              | '2', '0', '1' => some { code := .pasteEnd }
              | _, _, _ => none) (start ++ third.toString ++ "~") rest
          | char :: rest => .unsupported (start ++ String.ofList [third, char]) rest
        else .unsupported (start ++ quoteChar third) rest
    else
      .ofOption
        (match digit, second with
        | '5', 'A' | '5', 'B' | '5', 'C' | '5', 'D' => (ofLetter? second).bind (modify? '5')
        | _, '$' => if "5678".toList.contains digit then (ofDigit? digit).bind (modify? '2') else none
        | _, '\x1e' => if "235678".toList.contains digit then (ofDigit? digit).bind (modify? '5') else none
        | _, '@' => if "235678".toList.contains digit then (ofDigit? digit).bind (modify? '6') else none
        | _, _ => none)
        ("\\E[" ++ digit.toString ++ quoteChar second) rest

/-- Decodes what follows an escape and an opening bracket. -/
def decodeBracket : List Char → Found
  | [] => .incomplete
  | '[' :: rest =>
    match rest with
    | [] => .incomplete
    | letter :: rest =>
      if 'A' ≤ letter && letter ≤ 'E' then
        .key { code := .function (letter.toNat - 'A'.toNat + 1) } rest none
      else .unsupported ("\\E[[" ++ quoteChar letter) rest
  | char :: rest =>
    if char = '0' || char = '9' then .unsupported ("\\E[" ++ quoteChar char) rest
    else if char.isDigit then decodeDigit char rest
    else
      .ofOption
        (match char with
        | 'Z' => some { code := .backTab }
        | 'a' => some { code := .up, shift := true }
        | 'b' => some { code := .down, shift := true }
        | 'c' => some { code := .right, shift := true }
        | 'd' => some { code := .left, shift := true }
        | _ => (ofLetter? char).map ({ code := · })) ("\\E[" ++ quoteChar char) rest

/-- Decodes what follows an escape and the letter O. -/
def decodeLetter : List Char → Found
  | [] => .incomplete
  | char :: rest =>
    .ofOption
      (match char with
      | 'M' => some { code := .enter }
      | 'P' => some { code := .function 1 }
      | 'Q' => some { code := .function 2 }
      | 'R' => some { code := .function 3 }
      | 'S' => some { code := .function 4 }
      | 'a' => some { code := .up, control := true }
      | 'b' => some { code := .down, control := true }
      | 'c' => some { code := .right, control := true }
      | 'd' => some { code := .left, control := true }
      | 'l' => some { code := .function 8 }
      | 't' => some { code := .function 5 }
      | 'u' => some { code := .function 6 }
      | 'v' => some { code := .function 7 }
      | 'w' => some { code := .function 9 }
      | 'x' => some { code := .function 10 }
      | _ => (ofLetter? char).map ({ code := · })) ("\\EO" ++ quoteChar char) rest

/-- Decodes what follows an escape; a second escape adds the alternate modifier to the key that it
begins. -/
def decodeSequence : List Char → Found
  | [] => .incomplete
  | '[' :: rest => decodeBracket rest
  | 'O' :: rest => decodeLetter rest
  | '\x1b' :: rest =>
    let second : Found :=
      match rest with
      | '[' :: rest => decodeBracket rest
      | 'O' :: rest => decodeLetter rest
      | '\x1b' :: rest => .key escape rest none
      | char :: rest => .key (ofChar char true) rest none
      | [] => .incomplete
    if rest.isEmpty then .key escape [] none
    else
      match second with
      | .key key rest diagnostic => .key { key with alt := true } rest diagnostic
      | .incomplete => .incomplete
  | char :: rest => .key (ofChar char true) rest none

/-- The name of a key in diagnostics. -/
def codeDisplay : KeyCode → String
  | .char char => "Char(" ++ quoteChar char ++ ")"
  | .enter => "Enter"
  | .tab => "Tab"
  | .backTab => "BackTab"
  | .backspace => "Backspace"
  | .delete => "Delete"
  | .insert => "Insert"
  | .escape => "Esc"
  | .home => "Home"
  | .last => "End"
  | .left => "Left"
  | .right => "Right"
  | .up => "Up"
  | .down => "Down"
  | .pageUp => "PageUp"
  | .pageDown => "PageDown"
  | .function number => "F(" ++ toString number ++ ")"
  | .pasteStart => "BracketedPasteStart"
  | .pasteEnd => "BracketedPasteEnd"
  | .unknownSequence => "UnknownEscSeq"
  | .null => "Null"

/-- A key with its modifiers in diagnostics. -/
def display (key : Key) : String :=
  let modifiers :=
    (if key.control then ["CTRL"] else []) ++ (if key.alt then ["ALT"] else []) ++
      (if key.shift then ["SHIFT"] else [])
  "KeyEvent(" ++ codeDisplay key.code ++ ", Modifiers(" ++
    (if modifiers.isEmpty then "0x0" else " | ".intercalate modifiers) ++ "))"

/-- The first key in what was typed; an escape at the end is a key if `hurried`. -/
def decode (hurried : Bool) : List Char → Found
  | [] => .incomplete
  | ['\x1b'] => if hurried then .key escape [] none else .incomplete
  | '\x1b' :: rest => decodeSequence rest
  | char :: rest => .key (ofChar char) rest none

end Key

end Pipework.Editor
