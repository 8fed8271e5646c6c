import NotebookKernel.Text.Lines

/-! # How a cell is run

The value of a cell's last significant line is shown when that line is an expression. `Candidate`
is the cut at this line as far as the text alone decides it, and `shape` asks a grammar probe about
the one line that is left in question. -/

namespace NotebookKernel.Source

open Text

/-! ## Lines that cannot be an expression

Three marks of a statement can be seen in the text of a line alone: an assignment sign that belongs
to no operator, a keyword at its start, and a colon at its end. -/

/-- Keywords that begin a statement. -/
def statementKeywords : List String := [
  "if", "for", "while", "def", "class", "with", "try", "except", "return", "import", "from",
  "raise", "assert", "del", "pass", "break", "continue", "global", "nonlocal"]

/-- Characters that make an operator of the equals sign behind them. -/
def operatorLeads : List Char :=
  ['=', '!', '<', '>', '+', '-', '*', '/', '%', '&', '|', '^', '@', ':']

/-- Scans for an assignment sign outside string literals. `quote` is the quote of the literal that
is open, `before` the character read last. A backslash in a literal hides the character after it,
and a number sign outside one ends the scan. -/
def assigns (quote before : Option Char) : List Char → Bool
  | [] => false
  | [c] => quote.isNone && c == '=' && !before.any operatorLeads.contains
  | c :: d :: rest =>
    match quote with
    | some q =>
      if c = '\\' then assigns quote (some d) rest
      else assigns (if c = q then none else quote) (some c) (d :: rest)
    | none =>
      if c = '\'' || c = '"' then assigns (some c) (some c) (d :: rest)
      else if c = '#' then false
      else if c = '=' then
        if d = '=' then assigns none (some d) rest
        else !before.any operatorLeads.contains || assigns none (some c) (d :: rest)
      else assigns none (some c) (d :: rest)

/-- Whether a line, trimmed already, has an assignment sign that is part of no operator. -/
def hasBareAssignment (line : List Char) : Bool :=
  assigns none none line

/-- Whether a line, trimmed already, starts with a statement keyword or a `print` that stands alone
or before a parenthesis or a blank. -/
def startsWithKeyword (line : List Char) : Bool :=
  let word := String.ofList (line.takeWhile isWordChar)
  statementKeywords.contains word ||
    word == "print" && match line.dropWhile isWordChar with
      | [] => true
      | c :: _ => c == '(' || isBlank c

/-- Whether the text of a line rules out that it is an expression. -/
def looksLikeStatement (line : String) : Bool :=
  let cs := Chars.trim line.toList
  hasBareAssignment cs || startsWithKeyword cs || cs.getLast? == some ':'

/-! ## The shape of a cell -/

/-- What to do with the text of a cell. -/
inductive Shape where
  /-- Run the whole text for its effects. -/
  | statements
  /-- Run the part before the expression, if it is not blank, and show the expression's value. -/
  | expression (setup : Option String) (final : String)
  deriving DecidableEq, Repr

/-- A line that is neither blank nor a comment. -/
def isSignificant (line : String) : Bool :=
  match Chars.trim line.toList with
  | [] => false
  | c :: _ => c != '#'

/-- A cut of a cell in front of its last significant line. -/
structure Candidate where
  /-- The lines before the cut. -/
  before : List String
  /-- The line itself, trimmed. -/
  final : String
  deriving DecidableEq, Repr

/-- Whether a line hands its statement on to the next one. -/
def continues (line : String) : Bool :=
  (Chars.trimEnd line.toList).getLast? == some '\\'

/-- The cut in front of the last significant line, unless that line is indented, continues the line
above or looks like a statement. -/
def candidate? (code : String) : Option Candidate :=
  match (lines code).reverse.dropWhile (!isSignificant ·) with
  | [] => none
  | line :: above =>
    if line.toList.head?.any isBlank || above.head?.any continues || looksLikeStatement line then
      none
    else
      some { before := above.reverse, final := trim line }

/-- The shape of a cell whose cut the probe accepted. -/
def Candidate.shape (c : Candidate) : Shape :=
  let setup := join "\n" c.before
  .expression (if isBlankText setup then none else some setup) c.final

/-- Classifies a cell. The probe is asked at most once. -/
def shape {m : Type → Type} [Monad m] (probe : String → m Bool) (code : String) : m Shape :=
  match candidate? code with
  | none => pure .statements
  | some c => do
    if ← probe c.final then pure c.shape else pure .statements

end NotebookKernel.Source
