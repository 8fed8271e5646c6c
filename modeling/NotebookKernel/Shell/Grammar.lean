import NotebookKernel.Shell.Token

/-! # How tokens make up commands

A script is read one line at a time, a compound command with all of its lines at once, so that the
lines before a faulty one still run. -/

namespace NotebookKernel.Shell

open Reading

/-- The keywords that end a list of commands. -/
def closingKeywords : List String := ["do", "done", "elif", "else", "esac", "fi", "then", "\x7d"]

/-- A token as it is called in faults, where keywords count or do not. -/
def Token.shown (keywordsCount : Bool) : Token → String
  | .word w =>
    match if keywordsCount then Token.keyword? (.word w) else none with
    | some keyword => "\"" ++ keyword ++ "\""
    | none => "word"
  | .redirection _ _ => "redirection"
  | .document _ _ => "redirection"
  | .mark m => "\"" ++ m.text ++ "\""
  | .newline => "newline"
  | .endOfFile => "end of file"

/-- Whether a list of commands ends before a token. -/
def Token.endsList (t : Token) : Bool :=
  match t with
  | .mark .closeParenthesis => true
  | .mark .twoSemicolons => true
  | .endOfFile => true
  | t => match t.keyword? with
    | some keyword => closingKeywords.contains keyword
    | none => false

def unexpected {α : Type} (t : Token) (keywordsCount : Bool) (expected : Option String) :
    Reading α :=
  fail ("Syntax error: ".append (t.shown keywordsCount ++ " unexpected" ++
    match expected with
    | some text => " (expecting \"" ++ text ++ "\")"
    | none => ""))

/-- Takes a token that has to be a keyword. -/
def expectKeyword (keyword : String) : Reading Unit := do
  let t ← next
  if t.keyword? != some keyword then unexpected t true keyword

def expectMark (keywordsCount : Bool) (mark : Mark) : Reading Unit := do
  match ← next with
  | .mark m => if m != mark then unexpected (.mark m) keywordsCount mark.text
  | t => unexpected t keywordsCount mark.text

/-- Passes over ends of lines. The fuel bounds their number. -/
def skipNewlines : Nat → Reading Unit
  | 0 => pure ()
  | fuel + 1 => do
    match ← peek with
    | .newline =>
      skip
      skipNewlines fuel
    | _ => pure ()

/-- The assignment that a word is. -/
def Word.assignment? : Word → Option (Octets × Word)
  | .text content false :: rest =>
    match Text.Chars.splitOnce? '=' content with
    | some (name, value) =>
      if Octets.isName name then
        some (name, if value.isEmpty then rest else .text value false :: rest)
      else none
    | none => none
  | _ => none

/-- Reads what a redirection is to or from. -/
def readTarget (t : Token) : Reading Redirection := do
  let target ← match ← next with
    | .word w => pure w
    | t => unexpected t false none
  match t with
  | .redirection descriptor direction => return { descriptor, direction, target }
  | .document descriptor stripTabs =>
    let number := (← get).documentCount
    let quoted := Word.hasQuotes target
    modify fun c => { c with
      documentCount := number + 1
      awaited := c.awaited ++ [{ number, delimiter := Word.plainText target, stripTabs, quoted }] }
    return { descriptor, direction := .document number, target := [] }
  | t => unexpected t false none

/-- Reads the redirections that follow a compound command. -/
def readRedirections : Nat → Reading (List Redirection)
  | 0 => return []
  | fuel + 1 => do
    match ← peekCommand true with
    | .redirection d direction =>
      skip
      let r ← readTarget (.redirection d direction)
      return r :: (← readRedirections fuel)
    | .document d stripTabs =>
      skip
      let r ← readTarget (.document d stripTabs)
      return r :: (← readRedirections fuel)
    | _ => return []

/-- Reads words up to the first token that is none. -/
def readWords : Nat → Reading (List Word)
  | 0 => return []
  | fuel + 1 => do
    match ← peek with
    | .word w =>
      skip
      return w :: (← readWords fuel)
    | _ => return []

/-- Reads the patterns before the body of an arm, the bars between them and the parenthesis after
them. -/
def readPatterns : Nat → Reading (List Word)
  | 0 => return []
  | fuel + 1 => do
    let pattern : Word := match ← next with
      | .word w => w
      | _ => []
    match ← next with
    | .mark .bar => return pattern :: (← readPatterns fuel)
    | .mark .closeParenthesis => return [pattern]
    | t => unexpected t false (some ")")

/-- The parts of a simple command. -/
structure Simple where
  assignments : List (Octets × Word)
  words : List Word
  redirections : List Redirection

/-- Reads a simple command up to the first token that cannot belong to it. -/
def readSimple : Nat → Simple → Reading Simple
  | 0, parts => return parts
  | fuel + 1, parts => do
    match ← (if parts.words.isEmpty then peekCommand false else peek) with
    | .word w =>
      skip
      match if parts.words.isEmpty then Word.assignment? w else none with
      | some a => readSimple fuel { parts with assignments := parts.assignments ++ [a] }
      | none => readSimple fuel { parts with words := parts.words ++ [w] }
    | .redirection d direction =>
      skip
      let r ← readTarget (.redirection d direction)
      readSimple fuel { parts with redirections := parts.redirections ++ [r] }
    | .document d stripTabs =>
      skip
      let r ← readTarget (.document d stripTabs)
      readSimple fuel { parts with redirections := parts.redirections ++ [r] }
    | _ => return parts

/-- The names that no function may take. -/
def specialNames : List String :=
  [".", ":", "break", "continue", "eval", "exec", "exit", "export", "local", "readonly", "return",
    "set", "shift", "times", "trap", "unset"]

/-- Where a list of commands stands. -/
inductive Setting where
  /-- A line of the script, which ends with its line. -/
  | line
  /-- Inside a compound command, where at least one command is needed. -/
  | compound
  /-- Inside an arm, which may be empty. -/
  | arm
  deriving DecidableEq

mutual

/-- Reads a list of commands. -/
def readList (fuel : Nat) (setting : Setting) (begun : Bool) : Reading Command := do
  match fuel with
  | 0 => fail "Syntax error: Too long"
  | fuel + 1 =>
    if setting != .line then skipNewlines (← get).rest.length.succ
    let t ← peekCommand true
    match t, setting with
    | .newline, .line =>
      skip
      return .nothing
    | .endOfFile, _ => return .nothing
    | _, _ =>
      if setting != .line && (begun || setting == .arm) && t.endsList then return .nothing
      let first ← readAndOr fuel
      let t ← peek
      match t with
      | .mark .ampersand =>
        skip
        return .sequence (.background first) (← readList fuel setting true)
      | .mark .semicolon =>
        skip
        return .sequence first (← readList fuel setting true)
      | .newline => return .sequence first (← readList fuel setting true)
      | .endOfFile => return first
      | t => if setting == .line then unexpected t true none else return first

/-- Reads pipelines with conditions between them. -/
def readAndOr (fuel : Nat) : Reading Command := do
  match fuel with
  | 0 => fail "Syntax error: Too long"
  | fuel + 1 =>
    let first ← readPipeline fuel
    readConditions fuel first

def readConditions (fuel : Nat) (first : Command) : Reading Command := do
  match fuel with
  | 0 => fail "Syntax error: Too long"
  | fuel + 1 =>
    match ← peek with
    | .mark .twoAmpersands =>
      skip
      skipNewlines (← get).rest.length.succ
      let second ← readPipeline fuel
      readConditions fuel (.both first second)
    | .mark .twoBars =>
      skip
      skipNewlines (← get).rest.length.succ
      let second ← readPipeline fuel
      readConditions fuel (.either first second)
    | _ => return first

def readPipeline (fuel : Nat) : Reading Command := do
  match fuel with
  | 0 => fail "Syntax error: Too long"
  | fuel + 1 =>
    let negated := (← peekCommand true).keyword? == some "!"
    if negated then skip
    let stages ← readStages fuel
    let body := match stages with
      | [stage] => stage
      | stages => .pipeline stages
    return if negated then .negated body else body

def readStages (fuel : Nat) : Reading (List Command) := do
  match fuel with
  | 0 => fail "Syntax error: Too long"
  | fuel + 1 =>
    let stage ← readCommand fuel
    match ← peek with
    | .mark .bar =>
      skip
      skipNewlines (← get).rest.length.succ
      return stage :: (← readStages fuel)
    | _ => return [stage]

/-- Reads one command. -/
def readCommand (fuel : Nat) : Reading Command := do
  match fuel with
  | 0 => fail "Syntax error: Too long"
  | fuel + 1 =>
    let t ← peekCommand true
    let line := (← get).line
    let many := (← get).rest.length.succ
    let redirected (body : Command) : Reading Command := do
      match ← readRedirections many with
      | [] => return body
      | rs => return .redirected line body rs
    match t with
    | .mark .openParenthesis => do
      skip
      let body ← readList fuel .compound false
      expectMark true .closeParenthesis
      redirected (.subshell line body)
    | .word _ =>
      match t.keyword? with
      | none => readPlain fuel line
      | some "\x7b" => do
        skip
        let body ← readList fuel .compound false
        expectKeyword "\x7d"
        redirected body
      | some "if" => do
        skip
        let body ← readBranch fuel
        expectKeyword "fi"
        redirected body
      | some "while" => do
        skip
        readLoop fuel false >>= redirected
      | some "until" => do
        skip
        readLoop fuel true >>= redirected
      | some "for" => do
        skip
        readFor fuel line >>= redirected
      | some "case" => do
        skip
        readCase fuel line >>= redirected
      | some _ => unexpected t true none
    | .redirection _ _ => readPlain fuel line
    | .document _ _ => readPlain fuel line
    | t => unexpected t true none

/-- Reads a simple command or the definition of a function. -/
def readPlain (fuel line : Nat) : Reading Command := do
  match fuel with
  | 0 => fail "Syntax error: Too long"
  | fuel + 1 =>
    let many := (← get).rest.length.succ.succ
    let parts ← readSimple many ⟨[], [], []⟩
    match parts.words, parts.assignments, parts.redirections, ← peek with
    | [name], [], [], .mark .openParenthesis =>
      skip
      expectMark false .closeParenthesis
      match Word.bare? name with
      | none => fail "Syntax error: Bad function name"
      | some name =>
        if !Octets.isName name || specialNames.any (·.toList == name) then
          fail "Syntax error: Bad function name"
        skipNewlines many
        return .define name (← readCommand fuel)
    | words, assignments, redirections, _ =>
      return .simple line assignments words redirections

/-- Reads a condition, what follows if it holds and what else. -/
def readBranch (fuel : Nat) : Reading Command := do
  match fuel with
  | 0 => fail "Syntax error: Too long"
  | fuel + 1 =>
    let condition ← readList fuel .compound false
    expectKeyword "then"
    let body ← readList fuel .compound false
    match (← peek).keyword? with
    | some "elif" =>
      skip
      return .branch condition body (← readBranch fuel)
    | some "else" =>
      skip
      return .branch condition body (← readList fuel .compound false)
    | _ => return .branch condition body .nothing

def readLoop (fuel : Nat) (untilTrue : Bool) : Reading Command := do
  match fuel with
  | 0 => fail "Syntax error: Too long"
  | fuel + 1 =>
    let condition ← readList fuel .compound false
    expectKeyword "do"
    let body ← readList fuel .compound false
    expectKeyword "done"
    return .loop untilTrue condition body

def readFor (fuel line : Nat) : Reading Command := do
  match fuel with
  | 0 => fail "Syntax error: Too long"
  | fuel + 1 =>
    let many := (← get).rest.length.succ.succ
    let name ← match ← next with
      | .word w => match Word.bare? w with
        | some name =>
          if Octets.isName name then pure name else fail "Syntax error: Bad for loop variable"
        | none => fail "Syntax error: Bad for loop variable"
      | _ => fail "Syntax error: Bad for loop variable"
    skipNewlines many
    let words ←
      if (← peek).keyword? == some "in" then do
        skip
        let words ← readWords many
        match ← next with
        | .newline => pure words
        | .mark .semicolon => pure words
        | t => unexpected t false none
      else do
        match ← peek with
        | .mark .semicolon => skip
        | _ => pure ()
        pure [[.parameter ['@'] .value true]]
    skipNewlines many
    expectKeyword "do"
    let body ← readList fuel .compound false
    expectKeyword "done"
    return .forEach line name words body

def readCase (fuel line : Nat) : Reading Command := do
  match fuel with
  | 0 => fail "Syntax error: Too long"
  | fuel + 1 =>
    let subject ← match ← next with
      | .word w => pure w
      | t => unexpected t false (some "word")
    skipNewlines (← get).rest.length.succ.succ
    expectKeyword "in"
    return .select line subject (← readArms fuel)

/-- Reads the arms of a choice and the keyword after them. -/
def readArms (fuel : Nat) : Reading (List (List Word × Command)) := do
  match fuel with
  | 0 => fail "Syntax error: Too long"
  | fuel + 1 =>
    let many := (← get).rest.length.succ.succ
    skipNewlines many
    if (← peek).keyword? == some "esac" then
      skip
      return []
    match ← peek with
    | .mark .openParenthesis => skip
    | _ => pure ()
    let patterns ← readPatterns many
    let body ← readList fuel .arm false
    skipNewlines many
    let t ← next
    match t with
    | .mark .twoSemicolons => return (patterns, body) :: (← readArms fuel)
    | t =>
      if t.keyword? == some "esac" then return [(patterns, body)]
      else unexpected t true (some ";;")

end

/-- The fuel for reading the rest of a script. -/
def readingFuel : Reading Nat := return 16 * (← get).rest.length + 64

/-- Reads the commands of a substitution and the parenthesis behind them. -/
def readSubstitution : Reading Unit := do
  let _ ← readList (← readingFuel) .arm false
  expectMark true .closeParenthesis

/-- Reads the next line of a script with all that belongs to it. There is none at the end. -/
def readCommandLine : Reading (Option Command) := do
  match ← peek with
  | .endOfFile => return none
  | _ => return some (← readList (← readingFuel) .line false)

/-- Reads the lines of a script up to its end. -/
def readLines : Nat → Reading Unit
  | 0 => pure ()
  | fuel + 1 => do
    match ← readCommandLine with
    | some _ => readLines fuel
    | none => pure ()

/-- Reads scripts that have others inside of them, down to some depth. -/
def nested (aliases : List (Octets × Octets)) : Nat → Nested
  | 0 => {
    toParenthesis := fun c => .error ⟨c.line, "Syntax error: Too long"⟩
    check := fun c => .error ⟨c.line, "Syntax error: Too long"⟩
    aliases }
  | depth + 1 => {
    toParenthesis := fun c => do return (← (readSubstitution.run (nested aliases depth)).run c).2
    check := fun c => do
      let _ ← ((readLines (c.rest.length + 1)).run (nested aliases depth)).run c
    aliases }

/-- How deeply scripts may nest. -/
def maxDepth : Nat := 200

/-- Reads the next line of a script that is run. -/
def readCommands (aliases : List (Octets × Octets)) (c : Cursor) :
    Except Fault (Option Command × Cursor) :=
  (readCommandLine.run (nested aliases maxDepth)).run c

end NotebookKernel.Shell
