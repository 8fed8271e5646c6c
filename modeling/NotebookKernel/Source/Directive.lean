import NotebookKernel.Text.Lines

/-! # Magic directives

A cell whose first line starts with a percent sign and a name is a directive. One sign applies it to
its line, two apply it to the whole cell. -/

namespace NotebookKernel.Source

open Text

/-- What a directive applies to. -/
inductive Scope where
  | line
  | cell
  deriving DecidableEq, Repr

/-- The percent signs that announce a directive. -/
def Scope.marker : Scope → String
  | .line => "%"
  | .cell => "%%"

/-- A directive at the head of a cell. -/
structure Directive where
  scope : Scope
  /-- The name in lower case. -/
  name : String
  /-- What follows the name on its line, trimmed. -/
  args : String
  /-- All lines after the first, verbatim. -/
  body : String
  deriving DecidableEq, Repr

namespace Directive

/-- Splits the marker off a trimmed line. Two percent signs win over one. -/
def scope? : List Char → Option (Scope × List Char)
  | '%' :: '%' :: rest => some (.cell, rest)
  | '%' :: rest => some (.line, rest)
  | _ => none

/-- Reads the directive at the head of a cell, if there is one. -/
def ofCell? (code : String) : Option Directive :=
  let (first, body) := (splitOnce? '\n' code).getD (code, "")
  match scope? (Chars.trim first.toList) with
  | none => none
  | some (scope, rest) =>
    let name := rest.takeWhile isWordChar
    if name.isEmpty then none
    else some {
      scope
      name := lowercase (String.ofList name)
      args := trim (String.ofList (rest.dropWhile isWordChar))
      body }

/-- The code that a directive with code for an argument speaks of: its arguments or, if it has none,
its body. -/
def code (d : Directive) : String :=
  if d.args.isEmpty then d.body else d.args

end Directive

end NotebookKernel.Source
