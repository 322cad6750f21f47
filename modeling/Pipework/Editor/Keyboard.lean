import Pipework.Editor.Command

set_option autoImplicit false

/-!
The keyboard: which command the next keys give. Some commands take more keys than one; a number that is
typed with the alternate key held down says how often a command is carried out, and a negative one turns it
round.
-/

namespace Pipework.Editor

/-- What is seen while keys are read. -/
inductive Sign where
  | diagnostic (text : String)
  /-- Another prompt is shown. -/
  | prompt (text : String)
  /-- The usual prompt is shown again. -/
  | usualPrompt
  deriving DecidableEq, Repr

/-- What keys have given, and the signs that were seen. -/
structure Reading (α : Type) where
  result : α
  rest : List Char
  signs : List Sign

/-- How often a command is carried out, and whether it is turned round. -/
structure Repetition where
  count : Nat := 1
  forward : Bool := true
  deriving DecidableEq, Repr

/-- The bytes of a text in a diagnostic. -/
def showBytes (chars : List Char) : String :=
  "[" ++ ", ".intercalate ((String.ofList chars).toUTF8.toList.map fun byte => toString byte.toNat) ++ "]"

/-- The next key. -/
def readKey? (hurried : Bool) (typed : List Char) : Option (Reading Key) :=
  match Key.decode hurried typed with
  | .incomplete => none
  | .key key rest diagnostic =>
    let first := typed.headD '\x00'
    let buffered :=
      if first = '\x1b' && typed.length > 1 then
        [.diagnostic ("read buffer " ++ showBytes (typed.drop 1))]
      else []
    some
      { result := key
        rest
        signs := buffered ++ (diagnostic.map Sign.diagnostic).toList ++
          [.diagnostic ("c: " ++ Key.quoteChar first ++ " => key: " ++ key.display)] }

/-- The digit of a key that has no modifiers but perhaps the alternate one. -/
def Key.digit? (key : Key) : Option Nat :=
  match key.code with
  | .char char =>
    if char.isDigit && !key.control && !key.shift then some (char.toNat - '0'.toNat) else none
  | _ => none

/-- Whether a key is the minus sign, perhaps with the alternate modifier. -/
def Key.isMinus (key : Key) : Bool := key.code = .char '-' && !key.control && !key.shift

/-- A number with one more digit, unless it is long. -/
def addDigit (number : Int) (digit : Nat) : Int :=
  if number = -1 then -digit
  else if number.natAbs < 1000 then number * 10 + digit
  else number

/-- How often a number says that a command is carried out. -/
def Repetition.ofNumber (number : Int) : Repetition :=
  if number = 0 then {} else { count := number.natAbs, forward := 0 ≤ number }

/-- The prompt that shows a number. -/
def numberPrompt (number : Int) : Sign := .prompt ("(arg: " ++ toString number ++ ") ")

/-- Reads the rest of a number, and the key behind it. -/
def readNumber? : Nat → Int → List Char → List Sign → Option (Reading (Key × Repetition))
  | 0, _, _, _ => none
  | limit + 1, number, typed, signs =>
    match readKey? true typed with
    | none => none
    | some reading =>
      let signs := signs ++ numberPrompt number :: reading.signs
      match reading.result.digit? with
      | some digit => readNumber? limit (addDigit number digit) reading.rest signs
      | none =>
        if reading.result.isMinus then readNumber? limit number reading.rest signs
        else
          some ⟨(reading.result, Repetition.ofNumber number), reading.rest, signs ++ [.usualPrompt]⟩

/-- The next key, with the number before it. -/
def readRepeatedKey? (hurried : Bool) (typed : List Char) : Option (Reading (Key × Repetition)) :=
  (readKey? hurried typed).bind fun reading =>
    if reading.result.alt then
      match reading.result.digit? with
      | some digit => readNumber? (typed.length + 1) digit reading.rest reading.signs
      | none =>
        if reading.result.isMinus then readNumber? (typed.length + 1) (-1) reading.rest reading.signs
        else some ⟨(reading.result, {}), reading.rest, reading.signs⟩
    else some ⟨(reading.result, {}), reading.rest, reading.signs⟩

/-- The commands that a terminal gives to keys of its own. The end of the input counts only on an empty
line. -/
def terminalCommand? (key : Key) : Option Command :=
  if key.control && !key.alt && !key.shift then
    match key.code with
    | .char 'C' | .char '\\' => some .interrupt
    | .char 'D' => some .ended
    | .char 'Z' => some .suspend
    | _ => none
  else none

/-- Reads a pasted text up to the sequence that ends it. -/
def readPasted? : Nat → List Char → List Char → List Sign → Option (Reading (List Char))
  | 0, _, _, _ => none
  | _, [], _, _ => none
  | limit + 1, '\x1b' :: rest, pasted, signs =>
    match Key.decodeSequence rest with
    | .incomplete => none
    | .key key rest diagnostic =>
      let signs := signs ++ (diagnostic.map Sign.diagnostic).toList
      if key = { code := .pasteEnd } then some ⟨pasted.reverse, rest, signs⟩
      else readPasted? limit rest pasted signs
  | limit + 1, char :: rest, pasted, signs => readPasted? limit rest (char :: pasted) signs

/-- A text with line feeds for all its line ends. -/
def unifyLineEnds : List Char → List Char
  | '\r' :: '\n' :: rest => '\n' :: unifyLineEnds rest
  | '\r' :: rest => '\n' :: unifyLineEnds rest
  | char :: rest => char :: unifyLineEnds rest
  | [] => []

/-- What a key means. -/
inductive Meaning where
  | command (command : Command)
  /-- Another key decides. -/
  | extended
  /-- The next key is a character to search for. -/
  | charSearch (backward : Bool)
  | quoted
  | paste

/-- One of two, by the direction of a command. -/
def Repetition.choose {α : Type} (repetition : Repetition) (forward turned : α) : α :=
  if repetition.forward then forward else turned

/-- What a key with the control modifier alone means. -/
def controlMeaning (repetition : Repetition) (isEmpty : Bool) (char : Char) : Meaning :=
  let count := repetition.count
  match char with
  | 'A' => .command (.move .lineStart)
  | 'B' => .command (.move (repetition.choose (.charBackward count) (.charForward count)))
  | 'D' =>
    .command (if isEmpty then .unknown
      else .kill (repetition.choose (.charForward count) (.charBackward count)))
  | 'E' => .command (.move .lineEnd)
  | 'F' => .command (.move (repetition.choose (.charForward count) (.charBackward count)))
  | 'G' => .command .abort
  | 'H' => .command (.kill (repetition.choose (.charBackward count) (.charForward count)))
  | 'I' => .command (repetition.choose .complete .completeBackward)
  | 'J' | 'M' => .command .accept
  | 'K' => .command (.kill (repetition.choose .lineEnd .lineStart))
  | 'L' => .command .clearScreen
  | 'N' => .command .nextOfHistory
  | 'P' => .command .previousOfHistory
  | 'Q' | 'V' => .quoted
  | 'R' => .command .reverseSearch
  | 'S' => .command .forwardSearch
  | 'T' => .command .transposeChars
  | 'U' => .command (.kill (repetition.choose .lineStart .lineEnd))
  | 'W' =>
    .command (.kill (repetition.choose (.wordBackward count .big) (.wordForward count .big)))
  | 'X' => .extended
  | 'Y' => .command (repetition.choose (.yank count) .unknown)
  | '_' => .command (.undo count)
  | ']' => .charSearch false
  | _ => .command .unknown

/-- What a key with the alternate modifier alone means. -/
def altMeaning (repetition : Repetition) (code : KeyCode) : Meaning :=
  let count := repetition.count
  let backward : Movement :=
    repetition.choose (.wordBackward count .plain) (.wordForward count .plain)
  let forward : Movement :=
    repetition.choose (.wordForward count .plain) (.wordBackward count .plain)
  .command (match code with
    | .backspace => .kill backward
    | .left | .char 'B' | .char 'b' => .move backward
    | .right | .char 'F' | .char 'f' => .move forward
    | .char 'D' | .char 'd' => .kill forward
    | .char '<' => .firstOfHistory
    | .char '>' => .lastOfHistory
    | .char 'C' | .char 'c' => .word .capitalize
    | .char 'L' | .char 'l' => .word .lowercase
    | .char 'U' | .char 'u' => .word .uppercase
    | .char 'T' | .char 't' => .transposeWords count
    | .char 'Y' | .char 'y' => .yankEarlier
    | _ => .unknown)

/-- What a key without modifiers means. -/
def plainMeaning (repetition : Repetition) (code : KeyCode) : Meaning :=
  let count := repetition.count
  match code with
  | .char char => .command (repetition.choose (.self count char) .unknown)
  | .escape => .command .abort
  | .backspace => .command (.kill (repetition.choose (.charBackward count) (.charForward count)))
  | .delete => .command (.kill (repetition.choose (.charForward count) (.charBackward count)))
  | .backTab => .command .completeBackward
  | .tab => .command (repetition.choose .complete .completeBackward)
  | .home => .command (.move .lineStart)
  | .last => .command (.move .lineEnd)
  | .left => .command (.move (repetition.choose (.charBackward count) (.charForward count)))
  | .right => .command (.move (repetition.choose (.charForward count) (.charBackward count)))
  | .up => .command (.lineUp count)
  | .down => .command (.lineDown count)
  | .enter => .command .accept
  | .pasteStart => .paste
  | .unknownSequence => .command .nothing
  | _ => .command .unknown

/-- What a key means; the end of the input is not asked for on a line that is not empty. -/
def meaning (repetition : Repetition) (isEmpty : Bool) (key : Key) : Meaning :=
  match key.control, key.alt, key.shift with
  | false, false, false => plainMeaning repetition key.code
  | true, false, false =>
    match key.code with
    | .char char => controlMeaning repetition isEmpty char
    | .left | .right => altMeaning repetition key.code
    | _ => .command .unknown
  | false, true, false => altMeaning repetition key.code
  | true, true, false =>
    match key.code with
    | .char 'G' => .command .abort
    | .char ']' => .charSearch true
    | _ => .command .unknown
  | _, _, _ => .command .unknown

/-- What the second key of an extended command means. -/
def extendedCommand (repetition : Repetition) (key : Key) : Command :=
  if key = { code := .char 'G', control := true } || key = .escape then .abort
  else if key = { code := .char 'U', control := true } then .undo repetition.count
  else if key = { code := .backspace } then .kill (repetition.choose .lineStart .lineEnd)
  else .unknown

/-- The search that a direction and a character give. -/
def searchCommand (repetition : Repetition) (backward : Bool) (key : Key) : Command :=
  match key with
  | { code := .char char, control := false, alt := false, shift := false } =>
    .move (.charSearch repetition.count
      (if backward = repetition.forward then .backward char else .forwardBefore char))
  | _ => .unknown

/-- The command that the first keys give, if they are enough for one; `isEmpty` tells whether the line is
empty. -/
def readCommand? (hurried isEmpty : Bool) (typed : List Char) : Option (Reading Command) :=
  (readRepeatedKey? hurried typed).bind fun ⟨(key, repetition), rest, signs⟩ =>
    let finish (command : Command) (rest : List Char) (signs : List Sign) : Reading Command :=
      ⟨command, rest, signs ++ [.diagnostic ("Emacs command: " ++ command.display)]⟩
    let (bound, signs) : Option Command × List Sign :=
      match terminalCommand? key with
      | none => (none, signs)
      | some command =>
        (if command = .ended && !isEmpty then none else some command,
          signs ++ [.diagnostic ("terminal key binding: " ++ key.display ++ " => " ++ command.display)])
    match bound with
    | some command => some ⟨command, rest, signs⟩
    | none =>
      match meaning repetition isEmpty key with
      | .command command => some (finish command rest signs)
      | .extended =>
        (readKey? true rest).map fun second =>
          finish (extendedCommand repetition second.result) second.rest (signs ++ second.signs)
      | .charSearch backward =>
        (readKey? false rest).map fun second =>
          finish (searchCommand repetition backward second.result) second.rest (signs ++ second.signs)
      | .quoted =>
        match rest with
        | [] => none
        | char :: rest => some (finish (.quoted char) rest signs)
      | .paste =>
        (readPasted? (rest.length + 1) rest [] []).map fun pasted =>
          finish (.insert (unifyLineEnds pasted.result)) pasted.rest (signs ++ pasted.signs)

end Pipework.Editor
