import NotebookKernel.Shell.Regex.Reader
import NotebookKernel.Shell.Tool.Basic

/-! # Expressions in arguments

`expr` takes each of its arguments for a symbol. Operators bind in six ranks, and both sides of `|` and
`&` are read even where only one counts. -/

namespace NotebookKernel.Shell.Tool

open Run

namespace Expr

/-- Why arguments are no expression, or have no value. -/
inductive Fault where
  | nothingAfter (word : Octets)
  | notClosed (word : Octets)
  | closedBy (word : Octets)
  | closing
  | leftOver (word : Octets)
  | noInteger
  | zeroDivisor
  | regex (fault : Regex.Fault)

def Fault.message : Fault → Octets
  | .nothingAfter word => "syntax error: missing argument after ".toList ++ quote word
  | .notClosed word => "syntax error: expecting ')' after ".toList ++ quote word
  | .closedBy word => "syntax error: expecting ')' instead of ".toList ++ quote word
  | .closing => "syntax error: unexpected ')'".toList
  | .leftOver word => "syntax error: unexpected argument ".toList ++ quote word
  | .noInteger => "non-integer argument".toList
  | .zeroDivisor => "division by zero".toList
  | .regex fault => fault.message.toList

/-- The integer that a text is. -/
def integer? (text : Octets) : Option Int :=
  match text with
  | '-' :: digits => (Octets.digitsValue? digits).map fun n => -(n : Int)
  | digits => (Octets.digitsValue? digits).map Int.ofNat

/-- Whether a value counts as false: nothing, or zeros. -/
def isNull (text : Octets) : Bool :=
  let digits := if text.head? == some '-' then text.tail else text
  text.isEmpty || (!digits.isEmpty && digits.all (· == '0'))

/-- How much of a text an expression matches from its start on, or its first group. -/
def matchStart (text pattern : Octets) : Except Fault Octets := do
  match Regex.read ⟨false, false, false⟩ pattern with
  | .error fault => throw (.regex fault)
  | .ok e =>
    let placed := Placed.of false false e.regex text
    let stops := placed.endsFrom 0
    if stops == 0 then return if e.groups == 0 then ['0'] else []
    let stop := Nat.log2 stops
    if e.groups == 0 then return Octets.ofNat stop
    return placed.groupText ⟨0, stop, placed.captures 0 stop⟩ 1

def calculate (operator : String) (a b : Octets) : Except Fault Octets :=
  match integer? a, integer? b with
  | some x, some y =>
    match operator with
    | "+" => .ok (Octets.ofInt (x + y))
    | "-" => .ok (Octets.ofInt (x - y))
    | "*" => .ok (Octets.ofInt (x * y))
    | "/" => if y == 0 then .error .zeroDivisor else .ok (Octets.ofInt (x.tdiv y))
    | _ => if y == 0 then .error .zeroDivisor else .ok (Octets.ofInt (x.tmod y))
  | _, _ => .error .noInteger

def truth (holds : Bool) : Octets := if holds then ['1'] else ['0']

/-- Compares as integers if both sides are, and else by bytes. -/
def compare (operator : String) (a b : Octets) : Octets :=
  let order : Ordering := match integer? a, integer? b with
    | some x, some y => Ord.compare x y
    | _, _ => if a == b then .eq else if Octets.le a b then .lt else .gt
  truth (match operator with
    | "<" => order == .lt
    | "<=" => order != .gt
    | "=" | "==" => order == .eq
    | "!=" => order != .eq
    | ">=" => order != .lt
    | _ => order == .gt)

/-- The operators of each rank, the weakest first. -/
def ranks : List (List String) :=
  [["|"], ["&"], ["<", "<=", "=", "==", "!=", ">=", ">"], ["+", "-"], ["*", "/", "%"], [":"]]

/-- The value of an operator on two values. Nothing is worked out where the value does not count. -/
def combine (counts : Bool) (operator : String) (a b : Octets) : Except Fault Octets :=
  if operator == "|" then .ok (if !isNull a then a else if isNull b then ['0'] else b)
  else if operator == "&" then .ok (if isNull a || isNull b then ['0'] else a)
  else if !counts then .ok a
  else if operator == ":" then matchStart a b
  else if ["+", "-", "*", "/", "%"].contains operator then calculate operator a b
  else .ok (compare operator a b)

/-- Where one of some bytes stands in a text, counted from one, or zero. -/
def indexOfAny (text bytes : Octets) : Nat :=
  ((text.findIdx? bytes.contains).map (· + 1)).getD 0

mutual

/-- Reads an operand that is no operator of a rank. The word before is named in complaints. -/
def operand (fuel : Nat) (counts : Bool) (before : Octets) (words : List Octets) :
    Except Fault (Octets × Octets × List Octets) := do
  match fuel with
  | 0 => throw (.nothingAfter before)
  | fuel + 1 =>
    match words with
    | [] => throw (.nothingAfter before)
    | word :: rest =>
      match String.ofList word with
      | "+" =>
        match rest with
        | [] => throw (.nothingAfter word)
        | value :: rest => return (value, value, rest)
      | "length" =>
        let (value, last, rest) ← operand fuel counts word rest
        return (Octets.ofNat value.length, last, rest)
      | "match" =>
        let (text, last, rest) ← operand fuel counts word rest
        let (pattern, last, rest) ← operand fuel counts last rest
        return (← if counts then matchStart text pattern else pure text, last, rest)
      | "index" =>
        let (text, last, rest) ← operand fuel counts word rest
        let (bytes, last, rest) ← operand fuel counts last rest
        return (Octets.ofNat (indexOfAny text bytes), last, rest)
      | "substr" =>
        let (text, last, rest) ← operand fuel counts word rest
        let (place, last, rest) ← operand fuel counts last rest
        let (length, last, rest) ← operand fuel counts last rest
        let part : Octets := match integer? place, integer? length with
          | some p, some n => if p ≤ 0 || n ≤ 0 then [] else (text.drop (p.toNat - 1)).take n.toNat
          | _, _ => []
        return (part, last, rest)
      | "(" =>
        let (value, last, rest) ← ranked fuel counts ranks word rest
        match rest with
        | [] => throw (.notClosed last)
        | close :: rest =>
          if close != [')'] then throw (.closedBy close)
          return (value, close, rest)
      | ")" => throw .closing
      | _ => return (word, word, rest)

/-- Reads operands with operators of some ranks between them. -/
def ranked (fuel : Nat) (counts : Bool) (rank : List (List String)) (before : Octets)
    (words : List Octets) : Except Fault (Octets × Octets × List Octets) := do
  match fuel with
  | 0 => throw (.nothingAfter before)
  | fuel + 1 =>
    match rank with
    | [] => operand fuel counts before words
    | operators :: stronger =>
      let (value, last, rest) ← ranked fuel counts stronger before words
      further fuel counts operators stronger value last rest

/-- Goes on with the operators of one rank, from left to right. -/
def further (fuel : Nat) (counts : Bool) (operators : List String)
    (stronger : List (List String)) (value last : Octets) (words : List Octets) :
    Except Fault (Octets × Octets × List Octets) := do
  match fuel, words with
  | 0, _ => return (value, last, words)
  | _, [] => return (value, last, [])
  | fuel + 1, word :: rest =>
    let operator := String.ofList word
    if !operators.contains operator then return (value, last, word :: rest)
    let counts' := counts && !(operator == "|" && !isNull value) && !(operator == "&" && isNull value)
    let (other, last, rest) ← ranked fuel counts' stronger word rest
    let value ← combine counts operator value other
    further fuel counts operators stronger value last rest

end

/-- The value of an expression. -/
def evaluate (words : List Octets) : Except Fault Octets := do
  let (value, _, rest) ← ranked (16 * words.length + 32) true ranks [] words
  match rest with
  | [] => return value
  | word :: _ => throw (.leftOver word)

end Expr

def expr (arguments : List Octets) : Run Nat := do
  let words := if arguments.head? == some "--".toList then arguments.tail else arguments
  if words.isEmpty then return ← missingOperand "operand" 2
  match Expr.evaluate words with
  | .error fault =>
    complainOf fault.message
    return 2
  | .ok value =>
    putLine value
    return if Expr.isNull value then 1 else 0

end NotebookKernel.Shell.Tool
