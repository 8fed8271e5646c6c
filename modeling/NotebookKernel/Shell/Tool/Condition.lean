import NotebookKernel.Shell.Test
import NotebookKernel.Shell.Tool.Basic

/-! # Conditions as a program

The program `test` goes by the number of its words first. Up to four words have one meaning each; what
is longer is read as an expression, in which a word is an operator if the words around it suit that. -/

namespace NotebookKernel.Shell.Tool

open Run

namespace Condition

/-- The words of a condition, and the files that it is about. -/
structure Asked where
  files : Test.Surroundings
  words : Array Octets

/-- A part of a condition that begins at a word: its value, and the word after it. -/
abbrev Part := Except Octets (Bool × Nat)

namespace Asked

def word (a : Asked) (n : Nat) : Octets := a.words.getD n []

def isWord (a : Asked) (n : Nat) (text : String) : Bool := a.words[n]? == some text.toList

/-- Complains that a word is missing at the end. -/
def lacks {α : Type} (a : Asked) : Except Octets α :=
  .error ("missing argument after ".toList ++ quote (a.words.back?.getD []))

/-- Requires that there is such a word. -/
def require (a : Asked) (n : Nat) : Except Octets Unit :=
  if n < a.words.size then .ok () else a.lacks

end Asked

def isBinary (word : Octets) : Bool :=
  ["=", "!=", "==", "-nt", "-ot", "-ef", "-eq", "-ne", "-lt", "-le", "-gt", "-ge"].any
    (·.toList == word)

def integer (text : Octets) : Except Octets Int :=
  let bare := text.dropWhile isBlank
  let (negative, digits) := match bare with
    | '-' :: digits => (true, digits)
    | '+' :: digits => (false, digits)
    | digits => (false, digits)
  match Octets.digitsValue? (digits.takeWhile Char.isDigit) with
  | some n =>
    if (digits.dropWhile Char.isDigit).all isBlank then .ok (if negative then -n else n)
    else .error ("invalid integer ".toList ++ quote text)
  | none => .error ("invalid integer ".toList ++ quote text)

/-- Whether a word is an operator of one letter. -/
def isLetter (word : Octets) : Bool := word.length == 2 && word.head? == some '-'

/-- An operator with one operand. -/
def unary (a : Asked) (n : Nat) : Part := do
  let operator := a.word n
  match operator with
  | ['-', letter] =>
    if !"erwxOGfdsScbpLhugktnzN".toList.contains letter then
      throw (quote operator ++ ": unary operator expected".toList)
    a.require (n + 1)
    let operand := a.word (n + 1)
    let value ← match letter with
      | 'z' => pure operand.isEmpty
      | 'n' => pure !operand.isEmpty
      | 't' => (integer operand).map fun _ => false
      | _ => pure (Test.holdsOfFile a.files (String.ofList operator) operand)
    return (value, n + 2)
  | _ => throw (quote operator ++ ": unary operator expected".toList)

/-- An operator between two operands, each of which may be a length. -/
def binary (a : Asked) (n : Nat) (leftLength : Bool) : Part := do
  let n := if leftLength then n + 1 else n
  let left := a.word n
  let operator := a.word (n + 1)
  let rightLength := n + 3 < a.words.size && a.isWord (n + 2) "-l"
  let right := a.word (if rightLength then n + 3 else n + 2)
  let after := if rightLength then n + 4 else n + 3
  let number (isLength : Bool) (text : Octets) : Except Octets Int :=
    if isLength then .ok text.length else integer text
  let compare (f : Int → Int → Bool) : Part := do
    return (f (← number leftLength left) (← number rightLength right), after)
  let files (value : Bool) : Part :=
    if leftLength || rightLength then .error (operator ++ " does not accept -l".toList)
    else .ok (value, after)
  let exists' (name : Octets) : Bool := Test.holdsOfFile a.files "-e" name
  match String.ofList operator with
  | "=" | "==" => return (left == right, after)
  | "!=" => return (left != right, after)
  | "-eq" => compare (· == ·)
  | "-ne" => compare (· != ·)
  | "-lt" => compare (· < ·)
  | "-le" => compare (· ≤ ·)
  | "-gt" => compare (· > ·)
  | "-ge" => compare (· ≥ ·)
  | "-nt" => files (exists' left && !exists' right)
  | "-ot" => files (exists' right && !exists' left)
  | _ => files (Test.sameFile a.files left right)

def two (a : Asked) (n : Nat) : Part := do
  if a.isWord n "!" then
    return ((a.word (n + 1)).isEmpty, n + 2)
  else if isLetter (a.word n) then unary a n
  else a.lacks

mutual

/-- A condition of a number of words. -/
def counted (a : Asked) : Nat → (n count : Nat) → Part
  | 0, _, _ => a.lacks
  | fuel + 1, n, count => do
    match count with
    | 0 => return (false, n)
    | 1 => return (!(a.word n).isEmpty, n + 1)
    | 2 => two a n
    | 3 => three a fuel n
    | 4 =>
      if a.isWord n "!" then
        let (value, after) ← three a fuel (n + 1)
        return (!value, after)
      else if a.isWord n "(" && a.isWord (n + 3) ")" then
        let (value, after) ← two a (n + 1)
        return (value, after + 1)
      else alternatives a fuel n
    | _ => alternatives a fuel n

def three (a : Asked) : Nat → Nat → Part
  | 0, _ => a.lacks
  | fuel + 1, n => do
    let middle := a.word (n + 1)
    if isBinary middle then binary a n false
    else if a.isWord n "!" then
      let (value, after) ← two a (n + 1)
      return (!value, after)
    else if a.isWord n "(" && a.isWord (n + 2) ")" then return (!middle.isEmpty, n + 3)
    else if a.isWord (n + 1) "-a" || a.isWord (n + 1) "-o" then alternatives a fuel n
    else throw (quote middle ++ ": binary operator expected".toList)

def alternatives (a : Asked) : Nat → Nat → Part
  | 0, _ => a.lacks
  | fuel + 1, n => do
    let (value, n) ← conjuncts a fuel n
    if a.isWord n "-o" then
      let (other, n) ← alternatives a fuel (n + 1)
      return (value || other, n)
    return (value, n)

def conjuncts (a : Asked) : Nat → Nat → Part
  | 0, _ => a.lacks
  | fuel + 1, n => do
    let (value, n) ← term a fuel n
    if a.isWord n "-a" then
      let (other, n) ← conjuncts a fuel (n + 1)
      return (value && other, n)
    return (value, n)

def term (a : Asked) : Nat → Nat → Part
  | 0, _ => a.lacks
  | fuel + 1, n => do
    a.require n
    let left := a.words.size - n
    if a.isWord n "!" then
      let (value, n) ← term a fuel (n + 1)
      return (!value, n)
    else if a.isWord n "(" then
      let inside := n + 1
      a.require inside
      -- Few words up to the parenthesis are a condition by their number.
      let few := (List.range 3).find? fun k => a.isWord (inside + 1 + k) ")"
      let count := match few with
        | some k => k + 1
        | none => if inside + 4 < a.words.size then left - 1 else min 4 (left - 1)
      let (value, n) ← counted a fuel inside count
      if n < a.words.size then
        if a.isWord n ")" then return (value, n + 1)
        throw (quote [')'] ++ " expected, found ".toList ++ quote (a.word n))
      throw (quote [')'] ++ " expected".toList)
    else if 4 ≤ left && a.isWord n "-l" && isBinary (a.word (n + 2)) then binary a n true
    else if 3 ≤ left && isBinary (a.word (n + 1)) then binary a n false
    else if isLetter (a.word n) then unary a n
    else return (!(a.word n).isEmpty, n + 1)

end

/-- Whether a condition holds. -/
def evaluate (files : Test.Surroundings) (words : List Octets) : Except Octets Bool := do
  let a : Asked := ⟨files, words.toArray⟩
  let (value, n) ← counted a (8 * words.length + 16) 0 words.length
  if n < words.length then throw ("extra argument ".toList ++ quote (a.word n))
  return value

end Condition

def test (bracket : Bool) (arguments : List Octets) : Run Nat := do
  if bracket && arguments.getLast? != some [']'] then
    complainOf "missing ']'".toList
    return 2
  match Condition.evaluate ⟨← tree, (← process).directory⟩
      (if bracket then arguments.dropLast else arguments) with
  | .ok holds => return status holds
  | .error why =>
    complainOf why
    return 2

end NotebookKernel.Shell.Tool
