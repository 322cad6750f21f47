import Pipework.Shell.Token

set_option autoImplicit false

/-!
Commands of shell scripts. `nextCommand` reads the commands of one line, together with the lines that
they reach into, so that a fault further down is met only when the commands above it have run.
-/

namespace Pipework.Shell

/-- Which lists of commands are read. -/
inductive ListMode where
  /-- Up to the end of a line. -/
  | line
  /-- At least one command, up to a closing word. -/
  | body
  /-- Up to a closing word, which may come at once. -/
  | optional
  deriving DecidableEq, Repr

/-- Whether a token ends a list of commands. -/
def Token.closes : Token → Bool
  | .ended => true
  | .operator name => name = ")" || name = ";;"
  | .keyword name => ["do", "done", "elif", "else", "esac", "fi", "then", "\x7d"].contains name
  | _ => false

/-- Gives up at a token that cannot stand where it does. -/
def unexpected {α : Type} (token : Token) : Parse α := Parse.fail (token.describe ++ " unexpected")

/-- Gives up at a token that stands in place of another. -/
def unexpectedFor {α : Type} (token wanted : Token) : Parse α :=
  Parse.fail (token.describe ++ " unexpected (expecting " ++ wanted.describe ++ ")")

/-- The name and the value of an assignment. -/
def assignment? (parts : Word) : Option (Text × Word) :=
  match parts with
  | .text chars false :: later =>
    let name := chars.takeWhile (· != '=')
    match chars.drop name.length with
    | _ :: value => if isName name then some (name, textPart value false ++ later) else none
    | [] => none
  | _ => none

/-- Whether a token is this keyword. -/
def Token.isKeyword (name : String) : Token → Bool
  | .keyword other => other = name
  | _ => false

def Token.isOperator (name : String) : Token → Bool
  | .operator other => other = name
  | _ => false

/-- Builtin commands whose faults end the shell, and before which assignments last. -/
def specialBuiltins : List String :=
  [".", ":", "break", "continue", "eval", "exec", "exit", "export", "local", "readonly", "return", "set",
    "shift", "times", "trap", "unset"]

/-- A list of commands with one more. -/
def Command.andThen (first : Option Command) (second : Command) : Command :=
  match first with
  | none => second
  | some first => .sequence first second

/-- Reads the words of a loop. Gives them and the token behind them. -/
def parseLoopWords (reader : ScriptReader) : Nat → List Word → Parse (List Word × Token)
  | 0, words => return (words.reverse, .ended)
  | fuel + 1, words => do
    match ← nextToken reader false false false stepLimit with
    | .word parts _ => parseLoopWords reader fuel (parts :: words)
    | token => return (words.reverse, token)

/-- Reads the target of a redirection. -/
def parseTarget (reader : ScriptReader) : Parse Word := do
  match ← nextToken reader false false false stepLimit with
  | .word parts _ => return parts
  | token => unexpected token

/-- Reads the rest of a redirection that begins with a token, if one does. -/
def parseRedirection? (reader : ScriptReader) : Token → Parse (Option Redirection)
  | .redirection descriptor kind => return some (.file descriptor kind (← parseTarget reader))
  | .sharing descriptor => return some (.share descriptor (← parseTarget reader))
  | .document descriptor stripTabs =>
    return some (.document descriptor (← announceDocument reader stripTabs))
  | _ => return none

/-- Reads the redirections behind a compound command. -/
def parseRedirections (reader : ScriptReader) : Nat → List Redirection → Parse (List Redirection)
  | 0, redirections => return redirections.reverse
  | fuel + 1, redirections => do
    let token ← nextToken reader false true true stepLimit
    match ← parseRedirection? reader token with
    | some redirection => parseRedirections reader fuel (redirection :: redirections)
    | none => do
      Parse.pushBack token
      return redirections.reverse

/-- What has been read of a simple command. -/
structure SimpleParts where
  assignments : List (Text × Word) := []
  words : List Word := []
  redirections : List Redirection := []
  /-- The text of the first word, if nothing in it is quoted or expanded. -/
  firstPlain : Option Text := none

mutual

/-- Reads a list of commands; `found` is what comes before. -/
def parseList (mode : ListMode) : Nat → Option Command → Parse Command
  | 0, _ => Parse.fail "too deep"
  | fuel + 1, found => do
    let reader := scriptReader fuel
    match ← nextToken reader (mode ≠ .line) true true stepLimit with
    | .newline => do
      endLine reader
      return found.getD .nothing
    | .ended => do
      endLine reader
      Parse.pushBack .ended
      return found.getD .nothing
    | token => do
      Parse.pushBack token
      if token.closes && mode ≠ .line && (mode = .optional || found.isSome) then
        return found.getD .nothing
      else
        let next ← parseAndOr fuel
        let token ← nextToken reader false false false stepLimit
        let found := Command.andThen found (if token.isOperator "&" then .background next else next)
        match token with
        | .ended => do
          endLine reader
          Parse.pushBack .ended
          return found
        | .newline => do
          Parse.pushBack token
          parseList mode fuel (some found)
        | .operator "&" | .operator ";" => parseList mode fuel (some found)
        | _ =>
          if mode = .line then unexpected token
          else
            Parse.pushBack token
            return found

/-- How scripts within words are read. -/
def scriptReader : Nat → ScriptReader
  | 0 => ⟨Parse.fail "too deep", Parse.fail "too deep"⟩
  | fuel + 1 =>
    { upToParenthesis := do
        let outer ← get
        set { outer with pending := [], pushed := none }
        let script ← parseList .optional fuel none
        let token ← nextToken (scriptReader fuel) false false false stepLimit
        modify fun inner => { inner with pending := outer.pending ++ inner.pending, pushed := outer.pushed }
        if token.isOperator ")" then return script else unexpectedFor token (.operator ")")
      whole := do
        let script ← parseList .optional fuel none
        let token ← nextToken (scriptReader fuel) false false false stepLimit
        match token with
        | .ended => return script
        | _ => unexpectedFor token .ended }

/-- Reads pipelines joined by conditions. -/
def parseAndOr : Nat → Parse Command
  | 0 => Parse.fail "too deep"
  | fuel + 1 => do
    let first ← parsePipeline fuel
    parseAndOrRest fuel first

/-- Reads the conditions behind a pipeline. -/
def parseAndOrRest : Nat → Command → Parse Command
  | 0, _ => Parse.fail "too deep"
  | fuel + 1, first => do
    match ← nextToken (scriptReader fuel) false false false stepLimit with
    | .operator "&&" => do
      let second ← parsePart fuel true
      parseAndOrRest fuel (.both first second)
    | .operator "||" => do
      let second ← parsePart fuel true
      parseAndOrRest fuel (.either first second)
    | token => do
      Parse.pushBack token
      return first

/-- Reads what stands behind a condition, or behind a bar if `whole` is false. -/
def parsePart : Nat → Bool → Parse Command
  | 0, _ => Parse.fail "too deep"
  | fuel + 1, whole => do
    let token ← nextToken (scriptReader fuel) true true true stepLimit
    Parse.pushBack token
    if whole then parsePipeline fuel else parseCommand fuel

/-- Reads commands joined by bars. -/
def parsePipeline : Nat → Parse Command
  | 0 => Parse.fail "too deep"
  | fuel + 1 => do
    let token ← nextToken (scriptReader fuel) false false false stepLimit
    let isNegated := token.isKeyword "!"
    if isNegated then
      let token ← nextToken (scriptReader fuel) false true true stepLimit
      Parse.pushBack token
    else Parse.pushBack token
    let first ← parseCommand fuel
    let parts ← parseBars fuel [first]
    let command : Command :=
      match parts with
      | [single] => single
      | parts => .pipeline parts
    return if isNegated then .negated command else command

/-- Reads the commands behind bars; those before are given in reverse order. -/
def parseBars : Nat → List Command → Parse (List Command)
  | 0, _ => Parse.fail "too deep"
  | fuel + 1, parts => do
    match ← nextToken (scriptReader fuel) false false false stepLimit with
    | .operator "|" => do
      let part ← parsePart fuel false
      parseBars fuel (part :: parts)
    | token => do
      Parse.pushBack token
      return parts.reverse

/-- Reads a keyword that must come next. -/
def expectKeyword (name : String) : Nat → Parse Unit
  | 0 => Parse.fail "too deep"
  | fuel + 1 => do
    let token ← nextToken (scriptReader fuel) false false false stepLimit
    if token.isKeyword name then pure () else unexpectedFor token (.keyword name)

/-- Reads a branch from its condition on. -/
def parseBranch : Nat → Parse Command
  | 0 => Parse.fail "too deep"
  | fuel + 1 => do
    let condition ← parseList .body fuel none
    expectKeyword "then" fuel
    let whenTrue ← parseList .body fuel none
    let token ← nextToken (scriptReader fuel) false false false stepLimit
    match token with
    | .keyword "elif" => return .branch condition whenTrue (← parseBranch fuel)
    | .keyword "else" => do
      let whenFalse ← parseList .body fuel none
      expectKeyword "fi" fuel
      return .branch condition whenTrue whenFalse
    | .keyword "fi" => return .branch condition whenTrue .nothing
    | token => unexpectedFor token (.keyword "fi")

/-- Reads the body of a loop. -/
def parseBody : Nat → Parse Command
  | 0 => Parse.fail "too deep"
  | fuel + 1 => do
    let body ← parseList .body fuel none
    expectKeyword "done" fuel
    return body

/-- Reads a loop over words from the name of its variable on. -/
def parseForEach : Nat → Nat → Parse Command
  | 0, _ => Parse.fail "too deep"
  | fuel + 1, line => do
    let reader := scriptReader fuel
    let name ← match ← nextToken reader false false false stepLimit with
      | .word _ (some name) =>
        if isName name then pure name else Parse.fail "Bad for loop variable"
      | _ => Parse.fail "Bad for loop variable"
    let allParameters : Word := [.parameter ['@'] .value true]
    let words ← match ← nextToken reader true true true stepLimit with
      | .keyword "in" => do
        let (words, token) ← parseLoopWords reader stepLimit []
        match token with
        | .newline => do
          Parse.pushBack token
          pure words
        | .operator ";" => pure words
        | token => unexpected token
      | .operator ";" => pure [allParameters]
      | token => do
        Parse.pushBack token
        pure [allParameters]
    let token ← nextToken reader true true true stepLimit
    if token.isKeyword "do" then return .forEach line name words (← parseBody fuel)
    else unexpectedFor token (.keyword "do")

/-- Reads the patterns of a branch of a choice, given the first token. -/
def parsePatterns : Nat → Token → List Word → Parse (List Word)
  | 0, _, _ => Parse.fail "too deep"
  | fuel + 1, token, patterns => do
    let reader := scriptReader fuel
    let pattern : Word ← match token with
      | .word parts _ => pure parts
      | .keyword name => pure [.text name.toList false]
      | token => unexpectedFor token (.operator ")")
    match ← nextToken reader false false false stepLimit with
    | .operator "|" => do
      let token ← nextToken reader false false false stepLimit
      parsePatterns fuel token (pattern :: patterns)
    | .operator ")" => return (pattern :: patterns).reverse
    | token => unexpectedFor token (.operator ")")

/-- Reads the branches of a choice; those before are given in reverse order. -/
def parseChoices : Nat → List (List Word × Command) → Parse (List (List Word × Command))
  | 0, _ => Parse.fail "too deep"
  | fuel + 1, choices => do
    let reader := scriptReader fuel
    let token ← nextToken reader true true false stepLimit
    if token.isKeyword "esac" then return choices.reverse
    else
      let first ← if token.isOperator "(" then nextToken reader false false false stepLimit
        else pure token
      let patterns ← parsePatterns fuel first []
      let body ← parseList .optional fuel none
      let choices := (patterns, body) :: choices
      match ← nextToken reader true true false stepLimit with
      | .keyword "esac" => return choices.reverse
      | .operator ";;" => parseChoices fuel choices
      | token => unexpectedFor token (.operator ";;")

/-- Reads a choice from the word that it is about on. -/
def parseChoose : Nat → Nat → Parse Command
  | 0, _ => Parse.fail "too deep"
  | fuel + 1, line => do
    let reader := scriptReader fuel
    match ← nextToken reader false false false stepLimit with
    | .word subject _ => do
      let token ← nextToken reader true true true stepLimit
      if token.isKeyword "in" then return .choose line subject (← parseChoices fuel [])
      else unexpectedFor token (.keyword "in")
    | token => unexpectedFor token (.word [] none)

/-- Reads assignments, words and redirections up to the end of a simple command, or a function. -/
def parseSimple : Nat → Nat → SimpleParts → Parse Command
  | 0, _, _ => Parse.fail "too deep"
  | fuel + 1, line, parts => do
    let reader := scriptReader fuel
    let atStart := parts.words.isEmpty
    let token ← nextToken reader false false atStart stepLimit
    let finish : Parse Command := do
      Parse.pushBack token
      return .simple line parts.assignments parts.words parts.redirections
    match token with
    | .word word plain =>
      match if atStart then assignment? word else none with
      | some assignment =>
        parseSimple fuel line { parts with assignments := parts.assignments ++ [assignment] }
      | none =>
        parseSimple fuel line
          { parts with
            words := parts.words ++ [word]
            firstPlain := if atStart then plain else parts.firstPlain }
    | .operator "(" =>
      if parts.words.length = 1 && parts.assignments.isEmpty && parts.redirections.isEmpty then
        let token ← nextToken reader false false false stepLimit
        if !token.isOperator ")" then unexpectedFor token (.operator ")")
        else
          let name := parts.firstPlain.getD []
          if !isName name || specialBuiltins.contains (String.ofList name) then
            Parse.fail "Bad function name"
          else
            let token ← nextToken reader true true true stepLimit
            Parse.pushBack token
            return .define name (← parseCommand fuel)
      else finish
    | token => do
      match ← parseRedirection? reader token with
      | some redirection =>
        parseSimple fuel line { parts with redirections := parts.redirections ++ [redirection] }
      | none => finish

/-- Reads a simple or a compound command. -/
def parseCommand : Nat → Parse Command
  | 0 => Parse.fail "too deep"
  | fuel + 1 => do
    let reader := scriptReader fuel
    let line := (← get).line
    let redirected (body : Command) : Parse Command := do
      let redirections ← parseRedirections reader stepLimit []
      if redirections.isEmpty then return body
      else
        match body with
        | .subshell line body _ => return .subshell line body redirections
        | body => return .redirected line body redirections
    let loop (holds : Bool) : Parse Command := do
      let condition ← parseList .body fuel none
      expectKeyword "do" fuel
      return .repeatWhile holds condition (← parseBody fuel)
    match ← nextToken reader false false false stepLimit with
    | .keyword "if" => do
      let body ← parseBranch fuel
      redirected body
    | .keyword "while" => do
      let body ← loop true
      redirected body
    | .keyword "until" => do
      let body ← loop false
      redirected body
    | .keyword "for" => do
      let body ← parseForEach fuel line
      redirected body
    | .keyword "case" => do
      let body ← parseChoose fuel line
      redirected body
    | .keyword "\x7b" => do
      let body ← parseList .body fuel none
      expectKeyword "\x7d" fuel
      redirected body
    | .operator "(" => do
      let body ← parseList .body fuel none
      let token ← nextToken reader false false false stepLimit
      if token.isOperator ")" then redirected (.subshell line body [])
      else unexpectedFor token (.operator ")")
    | .word word plain => do
      Parse.pushBack (.word word plain)
      parseSimple fuel line {}
    | token => do
      match token with
      | .redirection _ _ | .sharing _ | .document _ _ => do
        Parse.pushBack token
        parseSimple fuel line {}
      | token => unexpected token

end

/-- What comes next in a script. -/
inductive Parsed where
  | command (command : Command) (after : Source)
  | ended
  | fault (line : Nat) (message : String)
  /-- More of the script has to be known. -/
  | incomplete

/-- Reads the commands of the next line. -/
def nextCommand (source : Source) : Parsed :=
  let reader : Parse (Option Command) := do
    let token ← nextToken (scriptReader stepLimit) false true true stepLimit
    match token with
    | .ended => return none
    | .newline => do
      endLine (scriptReader stepLimit)
      return some .nothing
    | token => do
      Parse.pushBack token
      return some (← parseList .line stepLimit none)
  match reader.run { source with pushed := none } with
  | .ok (some command, after) => .command command after
  | .ok (none, _) => .ended
  | .error (.syntaxError line message) => .fault line message
  | .error .incomplete => .incomplete

end Pipework.Shell
