import NotebookKernel.Shell.Octets

/-! # Arithmetic of the shell

Expressions over signed numbers of 64 bits, with the operators of C. Comparisons give 1 or 0. A name
stands for the number that its variable holds. An expression is evaluated while it is read; a part that
does not count is only read. -/

namespace NotebookKernel.Shell

/-- A token of an expression. -/
inductive Symbol where
  | number (n : Int)
  | name (text : Octets)
  | operator (text : String)
  | unknown
  | finish
  deriving DecidableEq, Inhabited

namespace Arithmetic

/-- The signed number of 64 bits that an integer wraps to. -/
def wrap (n : Int) : Int := n.bmod (Nat.pow 2 64)

/-- The operators, the longer ones before those that they begin with. -/
def operators : List String :=
  ["<<=", ">>=", "<<", ">>", "<=", ">=", "==", "!=", "&&", "||", "+=", "-=", "*=", "/=", "%=", "&=",
    "^=", "|=", "+", "-", "*", "/", "%", "<", ">", "&", "^", "|", "!", "~", "?", ":", "=", "(", ")"]

def digitValue (c : Char) : Nat :=
  if c.isDigit then c.toNat - '0'.toNat
  else if 'a' ≤ c && c ≤ 'f' then c.toNat - 'a'.toNat + 10
  else if 'A' ≤ c && c ≤ 'F' then c.toNat - 'A'.toNat + 10
  else 16

def isSpace (c : Char) : Bool := c == ' ' || ('\t' ≤ c && c ≤ '\r')

/-- The sign at the start of a text. -/
def cutSign : Octets → Bool × Octets
  | '-' :: rest => (true, rest)
  | '+' :: rest => (false, rest)
  | rest => (false, rest)

/-- The base of a number and its digits. Without a fixed base it begins with `0x` if it is hexadecimal
and else with `0` if it is octal. -/
def cutBase (fixed : Option Nat) (text : Octets) : Nat × Octets :=
  let isHexadecimal : Bool := match text with
    | '0' :: x :: d :: _ => (x == 'x' || x == 'X') && digitValue d < 16
    | _ => false
  match fixed, text with
  | some base, text => (base, text)
  | none, '0' :: rest => if isHexadecimal then (16, rest.drop 1) else (8, '0' :: rest)
  | none, text => (10, text)

/-- The number that a text begins with, behind blanks, and what follows it. -/
def leading? (fixed : Option Nat) (text : Octets) : Option (Int × Octets) :=
  let (negative, body) := cutSign (text.dropWhile isSpace)
  let (base, digits) := cutBase fixed body
  let used := digits.takeWhile fun c => digitValue c < base
  if used.isEmpty then none
  else
    let n : Nat := used.foldl (fun n c => base * n + digitValue c) 0
    some (if negative then -n else n, digits.drop used.length)

/-- The least and the greatest signed number of 64 bits. -/
def least : Int := -(Nat.pow 2 63 : Nat)

def greatest : Int := (Nat.pow 2 63 : Nat) - 1

/-- A whole text as a number of 64 bits, with blanks around it. -/
def integer? (fixed : Option Nat) (text : Octets) : Option Int :=
  match leading? fixed text with
  | some (n, rest) => if rest.all isSpace && least ≤ n && n ≤ greatest then some n else none
  | none => if fixed.isNone && text.all isSpace then some 0 else none

/-- The symbol that an expression begins with, and what follows it. What is none stays. -/
def symbolAt (text : Octets) : Symbol × Octets :=
  match text.dropWhile fun c => c == ' ' || c == '\t' || c == '\n' with
  | [] => (.finish, [])
  | c :: rest =>
    if c.isDigit then
      let (n, after) := (leading? none (c :: rest)).getD (0, rest)
      (.number (min n greatest), after)
    else if c.isAlpha || c == '_' then
      let name := (c :: rest).takeWhile fun c => c.isAlphanum || c == '_'
      (.name name, (c :: rest).drop name.length)
    else match operators.find? fun o => o.toList.isPrefixOf (c :: rest) with
      | some o => (.operator o, (c :: rest).drop o.length)
      | none => (.unknown, c :: rest)

end Arithmetic

/-- Why an expression has no value. -/
inductive ArithmeticFault where
  | noPrimary
  | noColon
  | noParenthesis
  | unfinished
  | divisionByZero
  | noNumber (text : Octets)

namespace Arithmetic

/-- How far an expression was evaluated. -/
structure Progress where
  rest : Octets
  /-- The symbol that comes next. -/
  next : Symbol
  /-- What was assigned, the last first. -/
  assigned : List (Octets × Octets)

abbrev Eval := ReaderT (Octets → Octets) (StateT Progress (Except ArithmeticFault))

/-- Goes on to the next symbol. -/
def advance : Eval Unit := modify fun p =>
  let (next, rest) := symbolAt p.rest
  { p with next, rest }

/-- How loosely an operator with two operands binds. Those that may stay unevaluated are not among
them. -/
def looseness? (operator : String) : Option Nat :=
  match operator with
  | "*" | "/" | "%" => some 0
  | "+" | "-" => some 1
  | "<<" | ">>" => some 2
  | "<" | "<=" | ">" | ">=" => some 3
  | "==" | "!=" => some 4
  | "&" => some 5
  | "^" => some 6
  | "|" => some 7
  | _ => none

/-- Looser than every operator with two operands. -/
def maxLooseness : Nat := 8

/-- The operator that an assignment applies first. -/
def assignment? (operator : String) : Option String :=
  match operator with
  | "=" => some ""
  | "+=" => some "+"
  | "-=" => some "-"
  | "*=" => some "*"
  | "/=" => some "/"
  | "%=" => some "%"
  | "<<=" => some "<<"
  | ">>=" => some ">>"
  | "&=" => some "&"
  | "^=" => some "^"
  | "|=" => some "|"
  | _ => none

/-- The integer whose 64 bits result from an operation on the bits of two others. -/
def onBits (f : Nat → Nat → Nat) (a b : Int) : Int :=
  wrap (f (a.emod (Nat.pow 2 64)).toNat (b.emod (Nat.pow 2 64)).toNat : Nat)

def truth (b : Bool) : Int := if b then 1 else 0

/-- The value of an operator that needs both operands. -/
def apply (operator : String) (a b : Int) : Except ArithmeticFault Int :=
  match operator with
  | "+" => .ok (wrap (a + b))
  | "-" => .ok (wrap (a - b))
  | "*" => .ok (wrap (a * b))
  | "/" => if b == 0 then .error .divisionByZero else .ok (wrap (a.tdiv b))
  | "%" => if b == 0 then .error .divisionByZero else .ok (wrap (a.tmod b))
  | "<<" => .ok (wrap (a * Nat.pow 2 (b.emod 64).toNat))
  | ">>" => .ok (a.fdiv (Nat.pow 2 (b.emod 64).toNat))
  | "<" => .ok (truth (a < b))
  | "<=" => .ok (truth (a ≤ b))
  | ">" => .ok (truth (b < a))
  | ">=" => .ok (truth (b ≤ a))
  | "==" => .ok (truth (a == b))
  | "!=" => .ok (truth (a != b))
  | "&" => .ok (onBits (· &&& ·) a b)
  | "^" => .ok (onBits (· ^^^ ·) a b)
  | "|" => .ok (onBits (· ||| ·) a b)
  | _ => .ok b

/-- The number that a variable holds. -/
def lookUp (name : Octets) : Eval Int := do
  let text := ((← get).assigned.lookup name).getD ((← read) name)
  match integer? none text with
  | some n => return n
  | none => throw (.noNumber text)

/-- Applies an operator, unless the value does not count. -/
def applyIf (counts : Bool) (operator : String) (a b : Int) : Eval Int :=
  if counts then
    match apply operator a b with
    | .ok n => return n
    | .error fault => throw fault
  else return b

mutual

/-- The value of an expression that begins with a symbol, which was passed. -/
def evalAssignment (fuel : Nat) (counts : Bool) (first : Symbol) : Eval Int := do
  match fuel with
  | 0 => throw .unfinished
  | fuel + 1 =>
    match first, (← get).next with
    | .name name, .operator o =>
      match assignment? o with
      | none => evalChoice fuel counts first
      | some operator =>
        advance
        let second := (← get).next
        advance
        let n ← evalAssignment fuel counts second
        if !counts then return n
        let n ← if operator.isEmpty then pure n
          else do applyIf true operator (← lookUp name) n
        modify fun p => { p with assigned := (name, Octets.ofInt n) :: p.assigned }
        return n
    | _, _ => evalChoice fuel counts first

def evalChoice (fuel : Nat) (counts : Bool) (first : Symbol) : Eval Int := do
  match fuel with
  | 0 => throw .unfinished
  | fuel + 1 =>
    let condition ← evalEither fuel counts first
    if (← get).next != .operator "?" then return condition
    advance
    let second := (← get).next
    advance
    let a ← evalAssignment fuel (counts && condition != 0) second
    if (← get).next != .operator ":" then throw .noColon
    advance
    let third := (← get).next
    advance
    let b ← evalChoice fuel (counts && condition == 0) third
    return if condition != 0 then a else b

def evalEither (fuel : Nat) (counts : Bool) (first : Symbol) : Eval Int := do
  match fuel with
  | 0 => throw .unfinished
  | fuel + 1 =>
    let a ← evalBoth fuel counts first
    if (← get).next != .operator "||" then return a
    advance
    let second := (← get).next
    advance
    let b ← evalEither fuel (counts && a == 0) second
    return truth (a != 0 || b != 0)

def evalBoth (fuel : Nat) (counts : Bool) (first : Symbol) : Eval Int := do
  match fuel with
  | 0 => throw .unfinished
  | fuel + 1 =>
    let a ← evalPrimary fuel counts first
    let a ← match (← get).next with
      | .operator o => do
        if (looseness? o).isSome then evalOperands fuel counts a o maxLooseness else pure a
      | _ => pure a
    if (← get).next != .operator "&&" then return a
    advance
    let second := (← get).next
    advance
    let b ← evalBoth fuel (counts && a != 0) second
    return truth (a != 0 && b != 0)

/-- Goes on behind an operator, as long as operators bind more tightly than `level`. -/
def evalOperands (fuel : Nat) (counts : Bool) (a : Int) (operator : String) (level : Nat) :
    Eval Int := do
  match fuel with
  | 0 => throw .unfinished
  | fuel + 1 =>
    advance
    let second := (← get).next
    advance
    let b ← evalPrimary fuel counts second
    let own := (looseness? operator).getD maxLooseness
    let b ← match (← get).next with
      | .operator o => match looseness? o with
        | some other => if other < own then evalOperands fuel counts b o own else pure b
        | none => pure b
      | _ => pure b
    let a ← applyIf counts operator a b
    match (← get).next with
    | .operator o => match looseness? o with
      | some other => if other < level then evalOperands fuel counts a o level else return a
      | none => return a
    | _ => return a

def evalPrimary (fuel : Nat) (counts : Bool) (first : Symbol) : Eval Int := do
  match fuel with
  | 0 => throw .unfinished
  | fuel + 1 =>
    let operand : Eval Int := do
      let second := (← get).next
      advance
      evalPrimary fuel counts second
    match first with
    | .number n => return n
    | .name name => if counts then lookUp name else return 0
    | .operator "(" =>
      let second := (← get).next
      advance
      let n ← evalAssignment fuel counts second
      if (← get).next != .operator ")" then throw .noParenthesis
      advance
      return n
    | .operator "+" => operand
    | .operator "-" => return wrap (-(← operand))
    | .operator "!" => return truth ((← operand) == 0)
    | .operator "~" => return -(← operand) - 1
    | _ => throw .noPrimary

end

/-- The value of the text of an expression, and the assignments that it makes, the last first. -/
def evaluate (given : Octets → Octets) (text : Octets) :
    Except ArithmeticFault (Int × List (Octets × Octets)) := do
  let all : Eval Int := do
    advance
    let first := (← get).next
    advance
    let n ← evalAssignment (8 * text.length + 16) true first
    if (← get).next != .finish then throw .unfinished
    return n
  let (n, p) ← (all.run given).run ⟨text, .finish, []⟩
  return (n, p.assigned)

end Arithmetic

/-- What is wrong with an expression, in the words of the shell. -/
def ArithmeticFault.message (f : ArithmeticFault) (text : Octets) : Octets :=
  let about (reason : String) : Octets :=
    ("arithmetic expression: " ++ reason ++ ": \"").toList ++ text ++ ['"']
  match f with
  | .noPrimary => about "expecting primary"
  | .noColon => about "expecting ':'"
  | .noParenthesis => about "expecting ')'"
  | .unfinished => about "expecting EOF"
  | .divisionByZero => about "division by zero"
  | .noNumber text => "Illegal number: ".toList ++ text

end NotebookKernel.Shell
