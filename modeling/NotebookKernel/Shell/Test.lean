import NotebookKernel.Machine.FileTree
import NotebookKernel.Shell.Arithmetic

/-! # Conditions of the shell

The expressions of `test`. They are read from left to right with one word of lookahead; whether a word
is an operator depends on the words after it. -/

namespace NotebookKernel.Shell.Test

/-- The files that conditions are about, and the directory they are seen from. -/
structure Surroundings where
  tree : FileTree
  directory : Location

def unaryOperators : List String :=
  ["-r", "-w", "-x", "-e", "-f", "-d", "-c", "-b", "-p", "-u", "-g", "-k", "-s", "-t", "-z", "-n",
    "-h", "-O", "-G", "-L", "-S"]

def binaryOperators : List String :=
  ["=", "!=", "<", ">", "-eq", "-ne", "-ge", "-gt", "-le", "-lt", "-nt", "-ot", "-ef"]

def isBinary (word : Octets) : Bool := binaryOperators.any (·.toList == word)

/-- Whether the first word is an operator with one operand. It is none if nothing follows it, or an
operator with two operands and something more. -/
def startsUnary : List Octets → Bool
  | [] => false
  | [_] => false
  | [word, _] => unaryOperators.any (·.toList == word)
  | word :: second :: _ => unaryOperators.any (·.toList == word) && !isBinary second

def integer (text : Octets) : Except Octets Int :=
  match Arithmetic.integer? (some 10) text with
  | some n => .ok n
  | none => .error ("Illegal number: ".toList ++ text)

/-- Whether a file is as an operator says. -/
def holdsOfFile (s : Surroundings) (operator : String) (name : Octets) : Bool :=
  let path : Path := ⟨Octets.decode name⟩
  let follow := operator != "-h" && operator != "-L"
  match s.tree.find follow s.directory path with
  | .error _ => false
  | .ok (_, entry) =>
    match operator, entry with
    | "-e", _ => true
    | "-r", _ => entry.mode.mayRead
    | "-w", _ => entry.mode.mayWrite
    | "-x", _ => entry.mode.mayRun
    | "-O", .file _ _ | "-O", .directory _ | "-O", .link _ => true
    | "-G", .file _ _ | "-G", .directory _ | "-G", .link _ => true
    | "-f", .file _ _ => true
    | "-d", .directory _ => true
    | "-s", .file content _ => !content.isEmpty
    | "-s", .directory _ => true
    | "-h", .link _ | "-L", .link _ => true
    | "-c", .device _ => true
    | "-f", .tool | "-s", .tool => true
    | _, _ => false

def unary (s : Surroundings) (operator operand : Octets) : Except Octets Bool :=
  match String.ofList operator with
  | "-z" => return operand.isEmpty
  | "-n" => return !operand.isEmpty
  | "-t" => (integer operand).map fun _ => false
  | operator => return holdsOfFile s operator operand

/-- Whether two paths lead to the same file. -/
def sameFile (s : Surroundings) (a b : Octets) : Bool :=
  let find (name : Octets) := s.tree.find true s.directory ⟨Octets.decode name⟩
  match find a, find b with
  | .ok (place, _), .ok (other, _) => place == other
  | _, _ => false

def binary (s : Surroundings) (operator : Octets) (a b : Octets) : Except Octets Bool := do
  let compare (f : Int → Int → Bool) : Except Octets Bool := do
    return f (← integer a) (← integer b)
  match String.ofList operator with
  | "=" => return a == b
  | "!=" => return a != b
  | "<" => return Octets.le a b && a != b
  | ">" => return Octets.le b a && a != b
  | "-eq" => compare (· == ·)
  | "-ne" => compare (· != ·)
  | "-ge" => compare (· ≥ ·)
  | "-gt" => compare (· > ·)
  | "-le" => compare (· ≤ ·)
  | "-lt" => compare (· < ·)
  | "-ef" => return sameFile s a b
  | _ => return false

mutual

/-- The value of alternatives, and the words from the last one used on. -/
def alternatives (fuel : Nat) (s : Surroundings) (words : List Octets) :
    Except Octets (Bool × List Octets) := do
  match fuel with
  | 0 => return (false, [])
  | fuel + 1 =>
    let (a, at') ← conjuncts fuel s words
    match at'.tail with
    | ['-', 'o'] :: rest =>
      let (b, at') ← alternatives fuel s rest
      return (a || b, at')
    | _ => return (a, at')

def conjuncts (fuel : Nat) (s : Surroundings) (words : List Octets) :
    Except Octets (Bool × List Octets) := do
  match fuel with
  | 0 => return (false, [])
  | fuel + 1 =>
    let (a, at') ← negation fuel s words
    match at'.tail with
    | ['-', 'a'] :: rest =>
      let (b, at') ← conjuncts fuel s rest
      return (a && b, at')
    | _ => return (a, at')

def negation (fuel : Nat) (s : Surroundings) (words : List Octets) :
    Except Octets (Bool × List Octets) := do
  match fuel, words with
  | 0, _ => return (false, [])
  | fuel + 1, ['!'] :: rest =>
    if rest.isEmpty then return (true, words)
    let (a, at') ← negation fuel s rest
    return (!a, at')
  | fuel + 1, words => primary fuel s words

def primary (fuel : Nat) (s : Surroundings) (words : List Octets) :
    Except Octets (Bool × List Octets) := do
  match fuel, words with
  | 0, _ => return (false, [])
  | _, [] => return (false, [])
  | fuel + 1, first :: rest =>
    if first == ['('] && !rest.isEmpty then
      if rest.head? == some [')'] then return (false, rest)
      let (a, at') ← alternatives fuel s rest
      match at'.tail with
      | [')'] :: after => return (a, [')'] :: after)
      | _ => throw "closing paren expected".toList
    else if startsUnary words then
      match rest with
      | operand :: after => return (← unary s first operand, operand :: after)
      | [] => throw (first ++ ": argument expected".toList)
    else match rest with
      | operator :: after =>
        if isBinary operator then
          match after with
          | second :: _ => return (← binary s operator first second, after)
          | [] => throw (operator ++ ": argument expected".toList)
        else return (!first.isEmpty, words)
      | [] => return (!first.isEmpty, words)

end

/-- Whether a condition holds. -/
def evaluate (s : Surroundings) (words : List Octets) : Except Octets Bool := do
  let whole (words : List Octets) : Except Octets Bool := do
    let (a, at') ← alternatives (4 * words.length + 8) s words
    match at' with
    | word :: _ :: _ =>
      throw (if word.isEmpty then "unexpected operator".toList
        else word ++ ": unexpected operator".toList)
    | _ => return a
  match words with
  | [a, operator, b] =>
    if isBinary operator then binary s operator a b
    else if a == ['!'] then return !(← whole [operator, b])
    else if a == ['('] && b == [')'] then whole [operator]
    else whole words
  | [a, b, c, d] =>
    if a == ['('] && d == [')'] then whole [b, c]
    else if a == ['!'] then
      if isBinary c then return !(← binary s c b d) else return !(← whole [b, c, d])
    else whole words
  | words => whole words

end NotebookKernel.Shell.Test
