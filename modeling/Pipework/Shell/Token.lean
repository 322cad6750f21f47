import Pipework.Shell.Word

set_option autoImplicit false

/-!
Tokens of scripts: words, operators and redirections, with keywords and aliases told apart from other words,
and the documents that are part of a script.
-/

namespace Pipework.Shell

/-- The words with a meaning of their own where a command can begin. -/
def keywords : List String :=
  ["!", "case", "do", "done", "elif", "else", "esac", "fi", "for", "if", "in", "then", "until", "while",
    "\x7b", "\x7d"]

/-- The text of a word in which nothing is quoted or expanded. -/
def plainText? : Word → Option Text
  | [] => some []
  | [.text chars false] => some chars
  | _ => none

/-- Reads the operator of a redirection, which begins with the next character. -/
def redirectionToken (number : Option Nat) : Parse Token := do
  if ← Parse.accept '>' then
    let descriptor := number.getD 1
    match ← Parse.peekJoined with
    | some '>' => do
      Parse.skip
      return .redirection descriptor .append
    | some '|' => do
      Parse.skip
      return .redirection descriptor .force
    | some '&' => do
      Parse.skip
      return .sharing descriptor
    | _ => return .redirection descriptor .replace
  else
    Parse.skip
    let descriptor := number.getD 0
    match ← Parse.peekJoined with
    | some '<' => do
      Parse.skip
      return .document descriptor (← Parse.accept '-')
    | some '&' => do
      Parse.skip
      return .sharing descriptor
    | some '>' => do
      Parse.skip
      return .redirection descriptor .update
    | _ => return .redirection descriptor .read

/-- Reads a word, or a redirection with the digit before it. -/
def wordToken (reader : ScriptReader) : Parse Token := do
  let parts ← lexParts reader .bare false 0 stepLimit []
  let next ← Parse.peekJoined
  if next = some '<' || next = some '>' then
    match plainText? parts with
    | some [] => redirectionToken none
    | some [digit] =>
      if digit.isDigit then redirectionToken (some (digit.toNat - '0'.toNat))
      else return .word parts (some [digit])
    | plain => return .word parts plain
  else return .word parts (plainText? parts)

/-- Skips blanks and a comment. -/
def skipBlanks : Nat → Parse Unit
  | 0 => pure ()
  | fuel + 1 => do
    match ← Parse.peekJoined with
    | some '#' => do
      modify fun source => { source with rest := source.rest.dropWhile (· != '\n') }
      let _ ← Parse.peek
      pure ()
    | some char =>
      if isBlank char then
        Parse.skip
        skipBlanks fuel
      else pure ()
    | none => pure ()

/-- Reads an operator that may be doubled. -/
def doubled (char : Char) (single double : String) : Parse Token := do
  Parse.skip
  if ← Parse.accept char then return .operator double else return .operator single

/-- Reads a token, or takes the one that was put back. -/
def rawToken (reader : ScriptReader) : Parse Token := do
  match (← get).pushed with
  | some token => do
    modify ({ · with pushed := none })
    return token
  | none => do
    skipBlanks stepLimit
    match ← Parse.peekJoined with
    | none => return .ended
    | some '\n' => do
      Parse.skip
      return .newline
    | some '&' => doubled '&' "&" "&&"
    | some '|' => doubled '|' "|" "||"
    | some ';' => doubled ';' ";" ";;"
    | some '(' => do
      Parse.skip
      return .operator "("
    | some ')' => do
      Parse.skip
      return .operator ")"
    | _ => do
      modify fun source =>
        if source.chained.any (source.rest.length ≤ ·) then { source with chained := none, follows := true }
        else { source with follows := false }
      wordToken reader

/-- Takes a line of a document, without its end. -/
def takeLine : Parse Text := do
  let source ← get
  let line := source.rest.takeWhile (· != '\n')
  match source.rest.drop line.length with
  | _ :: rest => do
    set { source with rest, line := source.line + 1 }
    return line
  | [] =>
    if source.complete then
      set { source with rest := [] }
      return line
    else throw .incomplete

/-- Whether a line goes on in the next. -/
def goesOn (line : Text) : Bool := (line.reverse.takeWhile (· = '\\')).length % 2 = 1

/-- Takes the lines of a document up to the one that ends it. The lines before are given in reverse order. -/
def takeDocument (document : PendingDocument) (continued : Bool) : Nat → List Text → Parse Text
  | 0, lines => pure lines.reverse.flatten
  | fuel + 1, lines => do
    if (← Parse.peek).isNone then return lines.reverse.flatten
    let line ← takeLine
    let line := if document.stripTabs && !continued then line.dropWhile (· = '\t') else line
    if line = document.delimiter && !continued then return lines.reverse.flatten
    else takeDocument document (!document.literal && goesOn line) fuel ((line ++ ['\n']) :: lines)

/-- Reads the documents whose text follows. -/
def readDocuments (reader : ScriptReader) : List PendingDocument → Parse Unit
  | [] => pure ()
  | document :: later => do
    let line := (← get).line
    let text ← takeDocument document false stepLimit []
    let word ←
      if document.literal then pure (textPart text true)
      else Parse.within text line (lexParts reader .document false 0 stepLimit [])
    modify fun source => { source with documents := (document.number, word) :: source.documents }
    readDocuments reader later

/-- Reads the documents of a line that has ended. -/
def endLine (reader : ScriptReader) : Parse Unit := do
  let pending := (← get).pending
  modify ({ · with pending := [] })
  readDocuments reader pending

/-- Reads a token after ends of lines. -/
def tokenAfterLines (reader : ScriptReader) : Nat → Parse Token
  | 0 => rawToken reader
  | fuel + 1 => do
    match ← rawToken reader with
    | .newline => do
      endLine reader
      tokenAfterLines reader fuel
    | token => return token

/-- The text of an alias that can be put in place of a word. -/
def aliasText? (source : Source) (name : Text) : Option Text :=
  let inUse := source.active.any fun entry => entry.1 = name && entry.2 ≤ source.rest.length
  if inUse then none else source.aliases.lookup name

/-- Reads a token. Ends of lines are skipped, and keywords and aliases are looked for, if the flags say so. -/
def nextToken (reader : ScriptReader) (skipLines keywordsCount aliasesCount : Bool) : Nat → Parse Token
  | 0 => rawToken reader
  | fuel + 1 => do
    let token ← if skipLines then tokenAfterLines reader stepLimit else rawToken reader
    match token with
    | .word _ (some plain) =>
      let name := String.ofList plain
      if keywordsCount && keywords.contains name then return .keyword name
      else
        let source ← get
        match if aliasesCount || source.follows then aliasText? source plain else none with
        | none => return token
        | some text => do
          set { source with
            rest := text ++ source.rest
            active := (plain, source.rest.length) ::
              source.active.filter fun entry => entry.2 ≤ source.rest.length
            chained := if text.getLast?.any isBlank then some source.rest.length else source.chained }
          nextToken reader skipLines keywordsCount aliasesCount fuel
    | _ => return token

/-- Reads the word that ends a document, and whether something in it is quoted. -/
def takeDelimiter : Nat → Bool → Text → Parse (Text × Bool)
  | 0, quoted, taken => pure (taken.reverse, quoted)
  | fuel + 1, quoted, taken => do
    match ← Parse.peekJoined with
    | none => return (taken.reverse, quoted)
    | some '\\' => do
      Parse.skip
      match ← Parse.peek with
      | none => return (('\\' :: taken).reverse, true)
      | some char => do
        Parse.skip
        takeDelimiter fuel true (char :: taken)
    | some char =>
      if char = '\x27' || char = '\x22' then
        Parse.skip
        match ← Parse.takeUntil char stepLimit [] with
        | none => Parse.fail "Unterminated quoted string"
        | some inside => takeDelimiter fuel true (inside.reverse ++ taken)
      else if endsWord char then return (taken.reverse, quoted)
      else
        Parse.skip
        takeDelimiter fuel quoted (char :: taken)

/-- Notes a document, which follows at the end of the line. Gives its number. -/
def announceDocument (reader : ScriptReader) (stripTabs : Bool) : Parse Nat := do
  skipBlanks stepLimit
  match ← Parse.peekJoined with
  | none => Parse.fail (Token.describe .ended ++ " unexpected")
  | some char =>
    if endsWord char then
      let token ← rawToken reader
      Parse.fail (token.describe ++ " unexpected")
    else
      let (delimiter, literal) ← takeDelimiter stepLimit false []
      let source ← get
      set { source with
        nextDocument := source.nextDocument + 1
        pending := source.pending ++
          [{ number := source.nextDocument, delimiter, stripTabs, literal : PendingDocument }] }
      return source.nextDocument

end Pipework.Shell
