import NotebookKernel.Shell.Script

/-! # The words and marks of a script

A script is read off token by token. Quotes, parameters and substitutions are taken apart while a
word is read. An output substitution is read to find its end, but its text is kept as it is, to be
read again when it is run. -/

namespace NotebookKernel.Shell

/-- Why a script cannot be read, and on which line. -/
structure Fault where
  line : Nat
  reason : String

/-- A token that is not a word. -/
inductive Mark where
  | semicolon
  | twoSemicolons
  | ampersand
  | twoAmpersands
  | bar
  | twoBars
  | openParenthesis
  | closeParenthesis
  deriving DecidableEq

def Mark.text : Mark → String
  | .semicolon => ";"
  | .twoSemicolons => ";;"
  | .ampersand => "&"
  | .twoAmpersands => "&&"
  | .bar => "|"
  | .twoBars => "||"
  | .openParenthesis => "("
  | .closeParenthesis => ")"

inductive Token where
  | word (pieces : Word)
  | redirection (descriptor : Nat) (direction : Direction)
  /-- The start of a document that follows the line, perhaps to be freed of leading tabs. -/
  | document (descriptor : Nat) (stripTabs : Bool)
  | mark (mark : Mark)
  | newline
  | endOfFile

/-- A document that is to follow the line. -/
structure Awaited where
  number : Nat
  delimiter : Octets
  stripTabs : Bool
  quoted : Bool

/-- A text that stands in for the name of an alias. -/
structure Expansion where
  name : Octets
  /-- How much there is behind the text. -/
  behind : Nat
  /-- A blank ends the text, so that the word behind it may be an alias, too. -/
  goesOn : Bool

/-- How far a script is read. -/
structure Cursor where
  rest : Octets
  line : Nat
  /-- A token that was read ahead. -/
  ahead : Option Token
  awaited : List Awaited
  /-- The documents so far, by their numbers. -/
  documents : List (Nat × Word)
  documentCount : Nat
  /-- The aliases whose texts are being read. -/
  expansions : List Expansion

namespace Cursor

def ofText (text : Octets) (line : Nat) : Cursor := {
  rest := text, line, ahead := none, awaited := [], documents := [], documentCount := 0
  expansions := [] }

end Cursor

/-- How scripts inside of a script are read. -/
structure Nested where
  /-- Passes over commands and the parenthesis that closes their substitution. -/
  toParenthesis : Cursor → Except Fault Cursor
  /-- Checks that a whole text can be read as a script. -/
  check : Cursor → Except Fault Unit
  /-- The texts that stand in for names where a command begins. -/
  aliases : List (Octets × Octets)

/-- A step of reading. -/
abbrev Reading := ReaderT Nested (StateT Cursor (Except Fault))

namespace Reading

def fail {α : Type} (reason : String) : Reading α := do
  throw { line := (← get).line, reason }

/-- Moves on, counting the lines that are passed. -/
def advance (n : Nat) : Reading Unit := modify fun c =>
  { c with rest := c.rest.drop n, line := c.line + ((c.rest.take n).count '\n') }

end Reading

open Reading

/-- The text of a word that is a single plain piece. -/
def Word.bare? : Word → Option Octets
  | [.text content false] => some content
  | _ => none

/-- The plain and quoted text of a word, without what would be put in. -/
def Word.plainText (w : Word) : Octets :=
  w.flatMap fun
    | .text content _ => content
    | _ => []

def Word.hasQuotes (w : Word) : Bool :=
  w.any fun
    | .text _ quoted => quoted
    | _ => false

/-- Whether a piece is the list of all arguments, which may be empty and make no field even in
quotes. -/
def Piece.isAllArguments : Piece → Bool
  | .parameter ['@'] _ _ => true
  | _ => false

/-- Joins neighbouring texts that are quoted alike. -/
def joinTexts (pieces : List Piece) : Word :=
  pieces.foldr (fun piece joined =>
    match piece, joined with
    | .text a p, .text b q :: rest =>
      if p == q then .text (a ++ b) p :: rest else .text a p :: .text b q :: rest
    | piece, joined => piece :: joined) []

/-- Cuts after the backquote that closes a substitution, and takes off the backslashes that belong
to it. -/
def cutAtBackquote (inQuotes : Bool) : Octets → Option (Octets × Octets)
  | [] => none
  | '`' :: rest => some ([], rest)
  | '\\' :: c :: rest =>
    let kept := if ['$', '`', '\\'].contains c || (inQuotes && c == '"') then [c] else ['\\', c]
    (cutAtBackquote inQuotes rest).map fun (inside, after) => (kept ++ inside, after)
  | c :: rest => (cutAtBackquote inQuotes rest).map fun (inside, after) => (c :: inside, after)

/-- Where pieces of words are read. -/
inductive Place where
  | word
  | quotes
  /-- Inside the braces of a parameter, which may stand in quotes themselves. -/
  | braces (quoted : Bool)
  /-- Inside an arithmetic expression, with some parentheses open. -/
  | arithmetic (depth : Nat)
  | document
  deriving DecidableEq

def Place.isQuoted : Place → Bool
  | .word => false
  | .braces quoted => quoted
  | _ => true

/-- The characters before which a backslash counts inside quotes. -/
def Place.escapable (place : Place) (c : Char) : Bool :=
  ['$', '`', '\\'].contains c || match place with
    | .quotes => c == '"'
    | .braces _ => c == '"' || c == '}'
    | _ => false

/-- The characters that end a word. -/
def endsWord (c : Char) : Bool :=
  [' ', '\t', '\n', ';', '&', '|', '<', '>', '(', ')'].contains c

/-- Whether a character names a parameter of its own. -/
def isSpecialParameter (c : Char) : Bool :=
  ['@', '*', '#', '?', '-', '$', '!'].contains c || c.isDigit

/-- The name of a parameter at the start of a text, in braces. -/
def bracedName (text : Octets) : Octets :=
  match text with
  | [] => []
  | c :: _ =>
    if c.isDigit then text.takeWhile Char.isDigit
    else if isSpecialParameter c then [c]
    else if c.isAlpha || c == '_' then text.takeWhile fun c => c.isAlphanum || c == '_'
    else []

/-- What ends a place, if the text does not go on with it. -/
def Place.unfinished : Place → String
  | .quotes | .braces true => "Syntax error: Unterminated quoted string"
  | .braces _ => "Syntax error: Missing '\x7d'"
  | _ => "Syntax error: Missing '))'"

mutual

/-- Reads pieces up to the end of a place. -/
def readPieces (fuel : Nat) (place : Place) : Reading (List Piece) := do
  match fuel with
  | 0 => fail "Syntax error: Too long"
  | fuel + 1 =>
    let quoted := place.isQuoted
    let literal (c : Char) : Reading (List Piece) := do
      advance 1
      return .text [c] quoted :: (← readPieces fuel place)
    match (← get).rest with
    | [] => match place with
      | .word | .document => return []
      | _ => fail place.unfinished
    | '\\' :: '\n' :: _ =>
      advance 2
      readPieces fuel place
    | '\\' :: c :: _ =>
      if !quoted || place.escapable c then
        advance 2
        return .text [c] true :: (← readPieces fuel place)
      else literal '\\'
    | '$' :: _ => do
      let piece ← readDollar fuel quoted
      return piece :: (← readPieces fuel place)
    | '`' :: rest =>
      match cutAtBackquote (place == .quotes) rest with
      | none =>
        advance (rest.length + 1)
        fail "Syntax error: EOF in backquote substitution"
      | some (inside, after) =>
        let line := (← get).line
        (← read).check (Cursor.ofText inside line)
        advance (rest.length + 1 - after.length)
        return .output inside line quoted :: (← readPieces fuel place)
    | '\'' :: rest =>
      if quoted then literal '\''
      else match Text.Chars.splitOnce? '\'' rest with
        | none =>
          advance (rest.length + 1)
          fail "Syntax error: Unterminated quoted string"
        | some (inside, _) =>
          advance (inside.length + 2)
          return .text inside true :: (← readPieces fuel place)
    | '"' :: _ =>
      match place with
      | .quotes =>
        advance 1
        return []
      | .document | .arithmetic _ => literal '"'
      | _ =>
        advance 1
        let inside ← readPieces fuel .quotes
        let mark := if inside.any Piece.isAllArguments then [] else [.text [] true]
        return mark ++ inside ++ (← readPieces fuel place)
    | '\x7d' :: _ =>
      match place with
      | .braces _ =>
        advance 1
        return []
      | _ => literal '\x7d'
    | c :: rest =>
      match place with
      | .word => if endsWord c then return [] else literal c
      | .arithmetic depth =>
        if c == '(' then
          advance 1
          return .text [c] true :: (← readPieces fuel (.arithmetic (depth + 1)))
        else if c == ')' then
          match depth with
          | depth + 1 =>
            advance 1
            return .text [c] true :: (← readPieces fuel (.arithmetic depth))
          | 0 =>
            if rest.head? == some ')' then
              advance 2
              return []
            else literal c
        else literal c
      | _ => literal c

/-- Reads what begins with a dollar sign. -/
def readDollar (fuel : Nat) (quoted : Bool) : Reading Piece := do
  match fuel with
  | 0 => fail "Syntax error: Too long"
  | fuel + 1 =>
    advance 1
    match (← get).rest with
    | '(' :: '(' :: _ =>
      advance 2
      return .arithmetic (joinTexts (← readPieces fuel (.arithmetic 0))) quoted
    | '(' :: rest =>
      let line := (← get).line
      let after ← (← read).toParenthesis (Cursor.ofText rest line)
      modify fun c => { c with rest := after.rest, line := after.line }
      return .output (rest.take (rest.length - after.rest.length - 1)) line quoted
    | '\x7b' :: _ =>
      advance 1
      readBraces fuel quoted
    | c :: rest =>
      if c.isAlpha || c == '_' then
        let name := (c :: rest).takeWhile fun c => c.isAlphanum || c == '_'
        advance name.length
        return .parameter name .value quoted
      else if isSpecialParameter c then
        advance 1
        return .parameter [c] .value quoted
      else return .text ['$'] quoted
    | [] => return .text ['$'] quoted

/-- Reads a parameter after its opening brace. -/
def readBraces (fuel : Nat) (quoted : Bool) : Reading Piece := do
  match fuel with
  | 0 => fail "Syntax error: Too long"
  | fuel + 1 =>
    let rest := (← get).rest
    let counted := bracedName rest.tail
    if rest.head? == some '#' && !counted.isEmpty
        && (rest.drop (counted.length + 1)).head? == some '\x7d' then
      advance (counted.length + 2)
      return .parameter counted .length quoted
    let name := bracedName rest
    advance name.length
    let word (place : Place) (skip : Nat) : Reading Word := do
      advance skip
      return joinTexts (← readPieces fuel place)
    let fallback (c : Char) : Option Fallback := match c with
      | '-' => some .substitute
      | '=' => some .assign
      | '?' => some .refuse
      | '+' => some .alternative
      | _ => none
    if (← get).rest.head? == some '\x7d' && !name.isEmpty then
      advance 1
      return .parameter name .value quoted
    match name, (← get).rest with
    | [], _ =>
      let _ ← word (.braces quoted) 0
      return .parameter [] .invalid quoted
    | ['#'], _ :: '\x7d' :: _ =>
      let _ ← word (.braces quoted) 0
      return .parameter [] .invalid quoted
    | _, '%' :: '%' :: _ =>
      return .parameter name (.trim true true (← word (.braces false) 2)) quoted
    | _, '%' :: _ => return .parameter name (.trim true false (← word (.braces false) 1)) quoted
    | _, '#' :: '#' :: _ =>
      return .parameter name (.trim false true (← word (.braces false) 2)) quoted
    | _, '#' :: _ => return .parameter name (.trim false false (← word (.braces false) 1)) quoted
    | _, c :: more =>
      let orEmpty := c == ':'
      let operator := if orEmpty then more.headD ' ' else c
      match fallback operator with
      | some kind =>
        let word ← word (.braces quoted) (if orEmpty then 2 else 1)
        return .parameter name (.fallback kind orEmpty word) quoted
      | none =>
        let _ ← word (.braces quoted) 0
        return .parameter name .invalid quoted
    | _, [] => fail (Place.braces quoted).unfinished

end

/-- Takes the lines of a document off a text. -/
def cutDocument (awaited : Awaited) : List Octets → Octets × List Octets
  | [] => ([], [])
  | line :: rest =>
    let line := if awaited.stripTabs then line.dropWhile (· == '\t') else line
    if line == awaited.delimiter || line == awaited.delimiter ++ ['\n'] then ([], rest)
    else
      let (body, rest) := cutDocument awaited rest
      (line ++ body, rest)

/-- Reads the documents that are awaited after a line. -/
def readDocuments : List Awaited → Reading Unit
  | [] => modify fun c => { c with awaited := [] }
  | awaited :: more => do
    let c ← get
    let (body, rest) := cutDocument awaited (Text.Chars.splitInclusive c.rest)
    let rest := rest.flatten
    let word ← if awaited.quoted then pure [.text body true] else
      match ((readPieces (2 * body.length + 2) .document).run (← read)).run
          (Cursor.ofText body c.line) with
      | .ok (pieces, _) => pure (joinTexts (.text [] true :: pieces))
      | .error fault => throw fault
    advance (c.rest.length - rest.length)
    modify fun c => { c with documents := (awaited.number, word) :: c.documents }
    readDocuments more

/-- Passes over blanks, continued lines and a comment. -/
def blankLength : Octets → Nat
  | '\\' :: '\n' :: rest => blankLength rest + 2
  | ' ' :: rest => blankLength rest + 1
  | '\t' :: rest => blankLength rest + 1
  | '#' :: rest => (rest.takeWhile (· != '\n')).length + 1
  | _ => 0

/-- The redirection that a text begins with, and its length. -/
def redirectionAt? : Octets → Option ((Nat → Token) × Nat)
  | '<' :: '<' :: '-' :: _ => some (fun d => .document d true, 3)
  | '<' :: '<' :: _ => some (fun d => .document d false, 2)
  | '<' :: '&' :: _ => some (fun d => .redirection d .copy, 2)
  | '<' :: '>' :: _ => some (fun d => .redirection d .readWrite, 2)
  | '<' :: _ => some (fun d => .redirection d .read, 1)
  | '>' :: '>' :: _ => some (fun d => .redirection d .append, 2)
  | '>' :: '&' :: _ => some (fun d => .redirection d .copy, 2)
  | '>' :: '|' :: _ => some (fun d => .redirection d .clobber, 2)
  | '>' :: _ => some (fun d => .redirection d .write, 1)
  | _ => none

/-- The mark that a text begins with. -/
def markAt? : Octets → Option Mark
  | ';' :: ';' :: _ => some .twoSemicolons
  | ';' :: _ => some .semicolon
  | '&' :: '&' :: _ => some .twoAmpersands
  | '&' :: _ => some .ampersand
  | '|' :: '|' :: _ => some .twoBars
  | '|' :: _ => some .bar
  | '(' :: _ => some .openParenthesis
  | ')' :: _ => some .closeParenthesis
  | _ => none

/-- Reads the token that comes next, which is no alias. -/
def readPlainToken : Reading Token := do
  advance (blankLength (← get).rest)
  let rest := (← get).rest
  match rest with
  | [] => return .endOfFile
  | '\n' :: _ =>
    advance 1
    readDocuments (← get).awaited
    return .newline
  | c :: _ =>
    if let some mark := markAt? rest then
      advance mark.text.length
      return .mark mark
    if let some (token, length) := redirectionAt? rest then
      advance length
      return token (if c == '<' then 0 else 1)
    let word := joinTexts (← readPieces (2 * rest.length + 2) .word)
    match word.bare?, redirectionAt? (← get).rest with
    | some [digit], some (token, length) =>
      if digit.isDigit then
        advance length
        return token (digit.toNat - '0'.toNat)
      else return .word word
    | _, _ => return .word word

/-- The words that have a meaning of their own where a command may begin. -/
def keywords : List String :=
  ["!", "case", "do", "done", "elif", "else", "esac", "fi", "for", "if", "in", "then", "until",
    "while", "\x7b", "\x7d"]

/-- The keyword that a token is. -/
def Token.keyword? : Token → Option String
  | .word w => (Word.bare? w).bind fun text => keywords.find? (·.toList == text)
  | _ => none

/-- Leaves the texts of aliases that are read to their ends. Tells whether the word that comes next may
be an alias on account of that. -/
def leaveExpansions : Reading Bool := do
  let c ← get
  let left := c.expansions.filter fun e => c.rest.length ≤ e.behind
  set { c with expansions := c.expansions.filter fun e => e.behind < c.rest.length }
  return left.any (·.goesOn)

/-- Puts the text of an alias in the place of a token that was read, if the token is one. Keywords are
none where they count. -/
def putAlias (keywordsCount : Bool) (t : Token) : Reading Bool := do
  let some name := (match t with
    | .word w => Word.bare? w
    | _ => none) | return false
  if keywordsCount && t.keyword?.isSome then return false
  let c ← get
  match (← read).aliases.lookup name with
  | none => return false
  | some text =>
    if c.expansions.any (·.name == name) then return false
    let goesOn := text.getLast? == some ' ' || text.getLast? == some '\t'
    let expansion : Expansion := { name, behind := c.rest.length, goesOn }
    set { c with
      rest := text ++ c.rest
      expansions := if text.isEmpty then c.expansions else expansion :: c.expansions }
    return true

/-- Reads the token that comes next, behind the text of an alias perhaps, which makes it one, too.
The fuel bounds how many aliases stand in for one another. -/
def readToken (fuel : Nat) (keywordsCount mayBeAlias : Bool) : Reading Token := do
  match fuel with
  | 0 => readPlainToken
  | fuel + 1 =>
    advance (blankLength (← get).rest)
    let goesOn ← leaveExpansions
    let t ← readPlainToken
    if mayBeAlias || goesOn then
      if ← putAlias keywordsCount t then
        return ← readToken fuel keywordsCount (mayBeAlias || goesOn)
    return t

/-- How often aliases may stand in for one another before one word. -/
def maxExpansions : Nat := 1000

/-- The token that comes next, which is still to be read. -/
def peek : Reading Token := do
  match (← get).ahead with
  | some token => return token
  | none =>
    let token ← readToken maxExpansions false false
    modify fun c => { c with ahead := some token }
    return token

/-- The token that comes next where a command may begin or goes on, so that it may be an alias. -/
def peekCommand (keywordsCount : Bool) : Reading Token := do
  let token ← peek
  if !(← putAlias keywordsCount token) then return token
  let token ← readToken maxExpansions keywordsCount true
  modify fun c => { c with ahead := some token }
  return token

/-- Passes over the token that comes next. -/
def skip : Reading Unit := do
  let _ ← peek
  modify fun c => { c with ahead := none }

/-- Takes the token that comes next. -/
def next : Reading Token := do
  let token ← peek
  skip
  return token

end NotebookKernel.Shell
