import NotebookKernel.Shell.Tool.Records.Search

/-! # Tokens of programs over records

What a character means hangs on what came before: a slash divides after a value and begins an
expression otherwise, a greater sign names a file while something is printed, and a brace that closes a
block ends a statement too. -/

namespace NotebookKernel.Shell.Tool.Records

inductive Token where
  | ending
  | newline
  | semicolon
  /-- A closing brace ends the statement in front of it. -/
  | madeSemicolon
  | mark (text : String)
  | keyword (text : String)
  | builtin (text : String)
  | number (x : Float) (written : Octets)
  | text (t : Octets)
  | sought (t : Octets)
  /-- A name, and whether a parenthesis follows at once. -/
  | name (t : Octets) (opens : Bool)
  | field (n : Nat)
  /-- Where something is printed: `>`, `>>` or `|`. -/
  | outlet (text : String)
  /-- The sign behind `getline` that names a file. -/
  | inlet
  | unknown (c : Char)

namespace Token

def keywords : List String := [
  "BEGIN", "END", "break", "continue", "delete", "do", "else", "exit", "for", "function", "getline",
  "gsub", "if", "in", "match", "next", "nextfile", "print", "printf", "return", "split", "sub", "while"]

/-- How a token is named where it is not expected. -/
def shown : Token → Octets
  | ending => "end of file".toList
  | newline => "end of line".toList
  | semicolon => [';']
  | madeSemicolon => ['\x7d']
  | mark t | keyword t | builtin t | outlet t => t.toList
  | number _ t | text t | name t _ => t
  | sought t => '/' :: t ++ ['/']
  | field _ => ['$']
  | inlet => ['<']
  | unknown c => [c]

def isMark (t : Token) (text : String) : Bool :=
  match t with
  | mark m => m == text
  | _ => false

def isKeyword (t : Token) (text : String) : Bool :=
  match t with
  | keyword w => w == text
  | _ => false

def isOneOf (t : Token) (texts : List String) : Bool :=
  match t with
  | mark m => texts.contains m
  | _ => false

/-- Whether a slash behind a token divides. -/
def isBeforeDivision : Token → Bool
  | number _ _ | text _ | name _ _ | sought _ | field _ => true
  | mark t => t == ")" || t == "]"
  | keyword t => t == "getline"
  | _ => false

/-- Whether a statement is over before a closing brace already. -/
def endsStatement : Token → Bool
  | newline | semicolon | madeSemicolon => true
  | mark t => t == "\x7d"
  | _ => false

end Token

/-! ## Reading -/

/-- What is left of a program, and what its tokens hang on. -/
structure Scanner where
  rest : Octets
  /-- The file that is read, if the program is in files. -/
  file : Option Octets := none
  /-- The files that follow. -/
  files : List (Octets × Octets) := []
  line : Nat := 1
  /-- The token that was read last. -/
  last : Token := .semicolon
  /-- The line that it began on. -/
  tokenLine : Nat := 1
  parentheses : Nat := 0
  braces : Nat := 0
  /-- Whether what is printed may still be sent somewhere. -/
  printing : Bool := false
  /-- Whether a file may be named that a line is read from. -/
  getting : Bool := false
  /-- What is wrong, the last first. -/
  faults : List Octets := []

namespace Scanner

def isNameStart (c : Char) : Bool := c.isAlpha || c == '_'

def isNamePart (c : Char) : Bool := c.isAlphanum || c == '_'

def isGap (c : Char) : Bool := c == ' ' || c == '\t' || c == '\x0b' || c == '\x0c' || c == '\r'

/-- Goes on to the next file at the end of one. -/
def goOn (s : Scanner) : Option Scanner :=
  match s.files with
  | (file, rest) :: files => some { s with rest, files, file := some file, line := 1 }
  | [] => none

/-- Remembers what is wrong on a line. -/
def blame (s : Scanner) (line : Nat) (text : Octets) : Scanner :=
  let place := (s.file.map (· ++ ": ".toList)).getD [] ++ "line ".toList ++ Octets.ofNat line
  { s with faults := (place ++ ": ".toList ++ text) :: s.faults }

/-- A number that exceeds that of the tokens to come. -/
def bound (s : Scanner) : Nat :=
  s.files.foldl (fun n file => n + file.2.length + 2) (s.rest.length + 2)

/-- Leaves out blanks, comments and line feeds. The fuel bounds their number. -/
def skipLines : Nat → Scanner → Scanner
  | 0, s => s
  | fuel + 1, s =>
    match s.rest with
    | '\n' :: rest => skipLines fuel { s with rest, line := s.line + 1 }
    | '#' :: rest => skipLines fuel { s with rest := rest.dropWhile (· != '\n') }
    | '\\' :: '\n' :: rest => skipLines fuel { s with rest, line := s.line + 1 }
    | c :: rest => if isGap c then skipLines fuel { s with rest } else s
    | [] => (s.goOn.map (skipLines fuel)).getD s

/-- Leaves out line feeds. -/
def overLines (s : Scanner) : Scanner := s.skipLines s.bound

/-- Leaves out one semicolon on the same line. -/
def overSemicolon (s : Scanner) : Scanner :=
  match s.rest.dropWhile isGap with
  | ';' :: rest => { s with rest }
  | _ => s

/-- A number at the start of a text, as it is written. -/
def numeral (text : Octets) : Octets :=
  let digits := text.takeWhile Char.isDigit
  let after := text.drop digits.length
  let places : Octets := match after with
    | '.' :: rest => '.' :: rest.takeWhile Char.isDigit
    | _ => []
  let after := after.drop places.length
  let exponent : Octets := match after with
    | e :: rest =>
      let sign : Octets := match rest with
        | '+' :: _ => ['+']
        | '-' :: _ => ['-']
        | _ => []
      let power := (rest.drop sign.length).takeWhile Char.isDigit
      if (e == 'e' || e == 'E') && !power.isEmpty then e :: sign ++ power else []
    | [] => []
  digits ++ places ++ exponent

/-- A text up to its closing quote, with its escapes as they are, and what follows. Lines that are
continued are counted. -/
def quoted (text : Octets) (lines : Nat) : Option (Octets × Octets × Nat) :=
  match text with
  | [] => none
  | '"' :: rest => some ([], rest, lines)
  | '\n' :: _ => none
  | ['\\'] => none
  | '\\' :: '\n' :: rest => quoted rest (lines + 1)
  | '\\' :: c :: rest => (quoted rest lines).map fun (t, after) => ('\\' :: c :: t, after)
  | c :: rest => (quoted rest lines).map fun (t, after) => (c :: t, after)

/-- An expression up to its closing slash, and what follows. Brackets may hold slashes. -/
def soughtText (text : Octets) (depth : Nat) (first : Bool) : Option (Octets × Octets) :=
  let behind (c : Char) (found : Option (Octets × Octets)) : Option (Octets × Octets) :=
    found.map fun (t, after) => (c :: t, after)
  match text with
  | [] => none
  | ['\\'] => none
  | '\n' :: _ => none
  | '\\' :: '/' :: rest => behind '/' (soughtText rest depth false)
  | '\\' :: '\n' :: rest => soughtText rest depth false
  | '\\' :: c :: rest => behind '\\' (behind c (soughtText rest depth false))
  | '/' :: rest => if depth == 0 then some ([], rest) else behind '/' (soughtText rest depth false)
  | '[' :: rest =>
    if depth == 0 then behind '[' (soughtText rest 1 true)
    else
      let isClass := rest.head? == some ':'
      behind '[' (soughtText rest (if isClass then depth + 1 else depth) false)
  | ']' :: rest =>
    behind ']' (soughtText rest (if depth != 0 && !first then depth - 1 else depth) false)
  | c :: rest => behind c (soughtText rest depth (first && c == '^'))

/-- The marks of more than one character, the longest first. -/
def longMarks : List String :=
  ["||", "&&", "++", "--", "+=", "-=", "*=", "/=", "%=", "^=", "==", "<=", ">=", "!=", "!~"]

/-- The token at the start of the text, and what follows it, or why the program cannot be read. The fuel
bounds how much is left out. -/
def scan : Nat → Scanner → Except Octets (Token × Scanner)
  | 0, s => .ok (.ending, s)
  | fuel + 1, s =>
    let s := { s with rest := s.rest.dropWhile isGap, tokenLine := s.line }
    let found (t : Token) (rest : Octets) : Except Octets (Token × Scanner) :=
      .ok (t, { s with rest, last := t })
    let sought (rest : Octets) : Except Octets (Token × Scanner) :=
      match soughtText rest 0 false with
      | none => .error ("runaway regular expression /".toList ++
          rest.takeWhile (· != '\n') ++ " ...".toList)
      | some (t, rest) =>
        let s := match Search.read t with
          | .error fault => s.blame s.line (fault.message t)
          | .ok _ => s
        .ok (.sought t, { s with rest, last := .sought t })
    match s.rest with
    | [] =>
      match s.goOn with
      | some s => scan fuel s
      | none => .ok (.ending, { s with last := .ending })
    | '\n' :: rest => .ok (.newline, ({ s with rest, last := .newline, line := s.line + 1 }).overLines)
    | '#' :: rest => scan fuel { s with rest := rest.dropWhile (· != '\n') }
    | '\\' :: rest =>
      match rest.dropWhile isGap with
      | '\n' :: rest => scan fuel { s with rest, line := s.line + 1 }
      | _ => found (.unknown '\\') rest
    | ';' :: rest => .ok (.semicolon, ({ s with rest, last := .semicolon }).overLines)
    | '\x7b' :: rest =>
      let t := Token.mark "\x7b"
      .ok (t, ({ s with rest, last := t, braces := s.braces + 1 }).overLines)
    | '\x7d' :: rest =>
      if s.braces == 0 then
        scan fuel (({ s with rest }).blame s.line "extra '\x7d'".toList).overSemicolon
      else if !s.last.endsStatement then .ok (.madeSemicolon, { s with last := .madeSemicolon })
      else
        let t := Token.mark "\x7d"
        let s := { s with rest, last := t, braces := s.braces - 1 }
        .ok (t, (if s.braces == 0 then s.overSemicolon else s).overLines)
    | '(' :: rest =>
      let t := Token.mark "("
      .ok (t, { s with rest, last := t, parentheses := s.parentheses + 1 })
    | ')' :: rest =>
      let t := Token.mark ")"
      if s.parentheses == 0 then
        scan fuel (({ s with rest }).blame s.line "extra ')'".toList)
      else .ok (t, { s with rest, last := t, parentheses := s.parentheses - 1 })
    | ',' :: rest =>
      let t := Token.mark ","
      .ok (t, ({ s with rest, last := t }).overLines)
    | '"' :: rest =>
      match quoted rest 0 with
      | none => .error ("runaway string constant \"".toList ++
          rest.takeWhile (· != '\n') ++ " ...".toList)
      | some (t, rest, lines) =>
        let t := Token.text (Value.unescaped t)
        .ok (t, { s with rest, last := t, line := s.line + lines })
    | '/' :: rest =>
      let afterStep := s.last.isOneOf ["++", "--"]
      if s.last.isBeforeDivision then
        match rest with
        | '=' :: rest => found (.mark "/=") rest
        | rest => found (.mark "/") rest
      else if afterStep && rest.head? != some '=' then found (.mark "/") rest
      else sought rest
    | '$' :: rest =>
      let after := rest.dropWhile isGap
      match after with
      | c :: _ =>
        if c.isDigit then
          let digits := numeral after
          if digits.all Char.isDigit then
            found (.field ((Octets.digitsValue? digits).getD 0)) (after.drop digits.length)
          else .error ('$' :: digits ++ " is invalid field index".toList)
        else found (.mark "$") after
      | [] => found (.mark "$") after
    | '>' :: rest =>
      if s.printing && s.parentheses == 0 then
        let s := { s with printing := false }
        match rest with
        | '>' :: rest => .ok (.outlet ">>", { s with rest, last := .outlet ">>" })
        | rest => .ok (.outlet ">", { s with rest, last := .outlet ">" })
      else match rest with
        | '=' :: rest => found (.mark ">=") rest
        | rest => found (.mark ">") rest
    | '<' :: rest =>
      match rest with
      | '=' :: rest => found (.mark "<=") rest
      | rest =>
        if s.getting then .ok (.inlet, { s with rest, last := .inlet, getting := false })
        else found (.mark "<") rest
    | '|' :: rest =>
      match rest with
      | '|' :: rest =>
        let t := Token.mark "||"
        .ok (t, ({ s with rest, last := t }).overLines)
      | rest =>
        if s.printing && s.parentheses == 0 then
          .ok (.outlet "|", { s with rest, last := .outlet "|", printing := false })
        else found (.mark "|") rest
    | '&' :: rest =>
      match rest with
      | '&' :: rest =>
        let t := Token.mark "&&"
        .ok (t, ({ s with rest, last := t }).overLines)
      | rest => found (.unknown '&') rest
    | c :: rest =>
      if c.isDigit || (c == '.' && (rest.head?.any Char.isDigit)) then
        let written := numeral s.rest
        let x := Value.numberAt written
        if x.isInf then .error (written ++ " : decimal overflow".toList)
        else found (.number x written) (s.rest.drop written.length)
      else if isNameStart c then
        let word := s.rest.takeWhile isNamePart
        let rest := s.rest.drop word.length
        let text := String.ofList word
        if Token.keywords.contains text then found (.keyword text) rest
        else if (builtins.lookup text).isSome then found (.builtin text) rest
        else found (.name word (rest.head? == some '(')) rest
      else
        let s' := s.rest
        match longMarks.find? fun m => m.toList.isPrefixOf s' with
        | some m => found (.mark m) (s'.drop 2)
        | none =>
          if "+-*%^=!~[]?:".toList.contains c then found (.mark (String.singleton c)) rest
          else found (.unknown c) rest

end Scanner

end NotebookKernel.Shell.Tool.Records
