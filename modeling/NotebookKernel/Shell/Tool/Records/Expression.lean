import NotebookKernel.Shell.Tool.Records.Reading

/-! # Reading expressions

Operators bind by their strength, and parts that stand side by side are joined. -/

namespace NotebookKernel.Shell.Tool.Records.Read

/-- The strength of an operator between whole expressions. -/
def strength : Token → Nat
  | .mark "||" => 1
  | .mark "&&" => 2
  | .keyword "in" => 3
  | .mark "~" | .mark "!~" => 4
  | .mark m => if ["==", "!=", "<", "<=", ">", ">="].contains m then 5 else 0
  | _ => 0

def comparison? : Token → Option Comparison
  | .mark "==" => some .equal
  | .mark "!=" => some .unequal
  | .mark "<" => some .less
  | .mark "<=" => some .lessOrEqual
  | .mark ">" => some .greater
  | .mark ">=" => some .greaterOrEqual
  | _ => none

/-- The calculation of an operator between parts of an expression, and its strength. -/
def calculation? : Token → Option (Calculation × Nat)
  | .mark "+" => some (.add, 1)
  | .mark "-" => some (.subtract, 1)
  | .mark "*" => some (.multiply, 2)
  | .mark "/" => some (.divide, 2)
  | .mark "%" => some (.remainder, 2)
  | .mark "^" => some (.power, 5)
  | _ => none

/-- The calculation of an assignment, if a token is one. -/
def assignment? : Token → Option (Option Calculation)
  | .mark "=" => some none
  | .mark "+=" => some (some .add)
  | .mark "-=" => some (some .subtract)
  | .mark "*=" => some (some .multiply)
  | .mark "/=" => some (some .divide)
  | .mark "%=" => some (some .remainder)
  | .mark "^=" => some (some .power)
  | _ => none

/-- Whether a token begins a part of an expression. -/
def beginsPart : Token → Bool
  | .number _ _ | .text _ | .sought _ | .name _ _ | .field _ | .builtin _ => true
  | .mark m => ["(", "!", "$", "++", "--"].contains m
  | .keyword w => ["getline", "split", "match", "sub", "gsub"].contains w
  | _ => false

/-- A part of an expression, and what can be given a value, if it is that. -/
abbrev Part := Expression × Option Target

def partOf (t : Target) : Part := (.value t, some t)

/-- Says what is wrong with a text that is looked for. -/
def checkSought (e : Expression) : Read Expression := do
  if let .text t := e then
    match Search.read t with
    | .ok _ => pure ()
    | .error fault => blame (fault.message t)
  return e

/-- Says what is wrong with a text that separates. -/
def checkSeparator (e : Expression) : Read Expression := do
  match e with
  | .text (_ :: _ :: _) => checkSought e
  | e => return e

mutual

/-- Reads an expression, whose first part may have been read already. -/
def expression (fuel : Nat) (first : Option Part) : Read Expression := do
  match fuel with
  | 0 => throw .over
  | fuel + 1 =>
    let condition ← operators fuel 1 first
    if ← takeIf "?" then
      let yes ← expression fuel none
      expect ":"
      let no ← expression fuel none
      return .choice condition yes no
    return condition

/-- Reads operands with operators of some strength between them. -/
def operators (fuel : Nat) (least : Nat) (first : Option Part) : Read Expression := do
  match fuel with
  | 0 => throw .over
  | fuel + 1 =>
    let a ← operand fuel first
    operatorsFrom fuel least a

/-- Goes on behind an operand. -/
def operatorsFrom (fuel : Nat) (least : Nat) (a : Expression) : Read Expression := do
  match fuel with
  | 0 => throw .over
  | fuel + 1 =>
    let t ← peek
    let s := strength t
    if s == 0 || s < least then return a
    advance
    if t.isKeyword "in" then
      match ← peek with
      | .name name _ =>
        advance
        let array ← useAs name true
        operatorsFrom fuel least (.isKey [a] array)
      | _ => unexpected
    else
      let b ← operators fuel (s + 1) none
      match t, comparison? t with
      | _, some c => operatorsFrom fuel least (.compare c a b)
      | .mark "||", _ => operatorsFrom fuel least (.any a b)
      | .mark "&&", _ => operatorsFrom fuel least (.both a b)
      | t, _ =>
        let sought ← checkSought b
        operatorsFrom fuel least (.matching (t.isMark "!~") a sought)

/-- Reads parts that are joined, or an assignment. -/
def operand (fuel : Nat) (first : Option Part) : Read Expression := do
  match fuel with
  | 0 => throw .over
  | fuel + 1 =>
    let opens ← isAhead "("
    let first ← match first with
      | some part => pure part
      | none =>
        if opens then
          advance
          match ← group fuel true with
          | ([a], target) => suffixed (a, target)
          | (key, _) =>
            if !(← isWordAhead "in") then unexpected
            advance
            match ← peek with
            | .name name _ =>
              advance
              let array ← useAs name true
              return .isKey key array
            | _ => unexpected
        else prefixed fuel
    let t ← peek
    match first.2, assignment? t with
    | some target, some calculation =>
      advance
      let e ← expression fuel none
      return .assign target calculation e
    | _, _ =>
      let a ← arithmeticFrom fuel 1 first.1
      joinedFrom fuel a

/-- Goes on with parts that are joined to what was read. -/
def joinedFrom (fuel : Nat) (a : Expression) : Read Expression := do
  match fuel with
  | 0 => throw .over
  | fuel + 1 =>
    if beginsPart (← peek) then
      let b ← arithmetic fuel 1
      joinedFrom fuel (.joined a b)
    else return a

/-- Reads parts with calculations of some strength between them. -/
def arithmetic (fuel : Nat) (least : Nat) : Read Expression := do
  match fuel with
  | 0 => throw .over
  | fuel + 1 =>
    let (a, _) ← prefixed fuel
    arithmeticFrom fuel least a

def arithmeticFrom (fuel : Nat) (least : Nat) (a : Expression) : Read Expression := do
  match fuel with
  | 0 => throw .over
  | fuel + 1 =>
    let t ← peek
    match calculation? t with
    | some (c, s) =>
      if s < least then return a
      advance
      -- Powers are read from the right.
      let b ← arithmetic fuel (if s == 5 then 5 else s + 1)
      arithmeticFrom fuel least (.calculate c a b)
    | none =>
      if t.isMark "|" && least ≤ 4 then
        advance
        if !(← isWordAhead "getline") then unexpected
        advance
        let target ← optionalTarget fuel
        arithmeticFrom fuel least (.nextLine (.command a) target)
      else return a

/-- Reads a part with what stands in front of it. -/
def prefixed (fuel : Nat) : Read Part := do
  match fuel with
  | 0 => throw .over
  | fuel + 1 =>
    let t ← peek
    if t.isMark "!" then
      advance
      let e ← arithmetic fuel 4
      return (.not e, none)
    else if t.isMark "-" then
      advance
      let e ← arithmetic fuel 4
      return (.negate e, none)
    else if t.isMark "+" then
      advance
      let e ← arithmetic fuel 4
      return (.toNumber e, none)
    else if t.isOneOf ["++", "--"] then
      advance
      let target ← target fuel
      return (.step target (t.isMark "++") true, none)
    else
      let part ← part fuel
      suffixed part

/-- Reads a step behind a part. -/
def suffixed (p : Part) : Read Part := do
  let t ← peek
  match p.2, t.isOneOf ["++", "--"] with
  | some target, true =>
    advance
    return (.step target (t.isMark "++") false, none)
  | _, _ => return p

/-- Reads expressions up to a closing parenthesis. One alone may be a field, which stays one. -/
def group (fuel : Nat) (severally : Bool) : Read (List Expression × Option Target) := do
  match fuel with
  | 0 => throw .over
  | fuel + 1 =>
    let a ← expression fuel none
    if severally && (← isAhead ",") then
      advance
      let more ← list fuel
      expect ")"
      return (a :: more, none)
    expect ")"
    return ([a], match a with
      | .value (.field e) => some (.field e)
      | _ => none)

/-- Reads expressions with commas between them. -/
def list (fuel : Nat) : Read (List Expression) := do
  match fuel with
  | 0 => throw .over
  | fuel + 1 =>
    let a ← expression fuel none
    if ← takeIf "," then return a :: (← list fuel)
    return [a]

/-- Reads what can be given a value. -/
def target (fuel : Nat) : Read Target := do
  match fuel with
  | 0 => throw .over
  | fuel + 1 =>
    match ← peek with
    | .name name opens =>
      if ← isFunction name opens then unexpected
      advance
      if ← isAhead "[" then element fuel name else asVariable name
    | .field n =>
      advance
      return .field (.number (Float.ofNat n))
    | t =>
      if t.isMark "$" then
        advance
        fieldBehind fuel
      else if t.isMark "(" then
        advance
        let inside ← target fuel
        match inside with
        | .field _ =>
          expect ")"
          return inside
        | _ => unexpected
      else unexpected

/-- Reads what can be given a value, if such a thing follows. -/
def optionalTarget (fuel : Nat) : Read (Option Target) := do
  match fuel with
  | 0 => throw .over
  | fuel + 1 =>
    let begins : Bool ← match ← peek with
      | .name name opens => do
        let called ← isFunction name opens
        pure !called
      | .field _ => pure true
      | t => pure (t.isMark "$")
    if begins then return some (← target fuel) else return none

/-- Reads the key behind the name of an array. -/
def element (fuel : Nat) (name : Octets) : Read Target := do
  match fuel with
  | 0 => throw .over
  | fuel + 1 =>
    let array ← useAs name true
    expect "["
    let key ← list fuel
    expect "]"
    return .element array key

/-- Reads the number of a field behind a dollar sign. A name is a number by itself. -/
def fieldBehind (fuel : Nat) : Read Target := do
  match fuel with
  | 0 => throw .over
  | fuel + 1 =>
    match ← peek with
    | .name name opens =>
      if ← isFunction name opens then return .field (← part fuel).1
      advance
      if ← isAhead "[" then return .field (.value (← element fuel name))
      return .field (.value (← asVariable name))
    | _ => return .field (← prefixed fuel).1

/-- Reads a name that is no function. -/
def named (fuel : Nat) (name : Octets) : Read Part := do
  match fuel with
  | 0 => throw .over
  | fuel + 1 =>
    if ← isAhead "[" then return partOf (← element fuel name) else return partOf (← asVariable name)

/-- Reads a part of an expression. -/
def part (fuel : Nat) : Read Part := do
  match fuel with
  | 0 => throw .over
  | fuel + 1 =>
    match ← peek with
    | .number x _ =>
      advance
      return (.number x, none)
    | .text t =>
      advance
      return (.text t, none)
    | .sought t =>
      advance
      return (.occurs t, none)
    | .field n =>
      advance
      return partOf (.field (.number (Float.ofNat n)))
    | .name name opens =>
      if ← isFunction name opens then
        advance
        let f ← functionNumber name
        let line := (← get).scanner.tokenLine
        expect "("
        let arguments ← callArguments fuel true
        let places := arguments.zipIdx.map fun (argument, i) => (i, argument.2)
        noteCall ⟨← presentFunction, f, line, places.reverse⟩
        return (.call f (arguments.map (·.1)), none)
      advance
      named fuel name
    | .builtin name =>
      advance
      let e ← builtinCall fuel name
      return (e, none)
    | .keyword word =>
      if ["getline", "split", "match", "sub", "gsub"].contains word then
        advance
        let e ← keywordCall fuel word
        return (e, none)
      else unexpected
    | t =>
      if t.isMark "(" then
        advance
        let (es, target) ← group fuel false
        return (es.headD (.number 0), target)
      else if t.isMark "$" then
        advance
        return partOf (← fieldBehind fuel)
      else unexpected

/-- Reads the arguments of a call. A mere name is given along with each that is one. -/
def callArguments (fuel : Nat) (first : Bool) : Read (List (Expression × Option Place)) := do
  match fuel with
  | 0 => throw .over
  | fuel + 1 =>
    if first then
      if ← takeIf ")" then return []
    let argument : Expression × Option Place ← match ← peek with
      | .name name opens => do
        let called ← isFunction name opens
        if called then
          let e ← expression fuel none
          pure (e, none)
        else
          advance
          if (← peek).isOneOf [",", ")"] then
            let place ← placeOf name
            pure (.value (.variable place), some place)
          else
            let p ← named fuel name
            let p ← suffixed p
            let e ← expression fuel (some p)
            pure (e, none)
      | _ => do
        let e ← expression fuel none
        pure (e, none)
    if ← takeIf "," then return argument :: (← callArguments fuel false)
    expect ")"
    return [argument]

/-- Reads a call of a function that every program has. -/
def builtinCall (fuel : Nat) (name : String) : Read Expression := do
  match fuel with
  | 0 => throw .over
  | fuel + 1 =>
    let (b, least, most) := (builtins.lookup name).getD (.length, 0, 1)
    if !(← isAhead "(") then
      match b with
      | .length => return .builtin .length []
      | _ => unexpected
    advance
    match b with
    | .length =>
      if ← takeIf ")" then return .builtin .length []
      let argument : Expression ← match ← peek with
        | .name name opens => do
          let called ← isFunction name opens
          if called then expression fuel none
          else
            advance
            if ← isAhead ")" then
              let place ← placeOf name
              pure (.value (.variable place))
            else
              let p ← named fuel name
              let p ← suffixed p
              expression fuel (some p)
        | _ => expression fuel none
      expect ")"
      return .builtin .length [argument]
    | _ =>
      let arguments ← if ← isAhead ")" then pure [] else list fuel
      expect ")"
      if arguments.length < least || most < arguments.length then
        blame ("wrong number of arguments in call to ".toList ++ name.toList)
      return .builtin b arguments

/-- Reads what takes more than values. -/
def keywordCall (fuel : Nat) (word : String) : Read Expression := do
  match fuel with
  | 0 => throw .over
  | fuel + 1 =>
    if word == "getline" then
      modifyScanner fun s => { s with getting := true }
      let t ← optionalTarget fuel
      match ← peek with
      | .inlet =>
        advance
        let file ← arithmetic fuel 5
        return .nextLine (.file file) t
      | _ =>
        modifyScanner fun s => { s with getting := false }
        return .nextLine .input t
    else
      expect "("
      let a ← expression fuel none
      let a ← if word == "sub" || word == "gsub" then checkSought a else pure a
      expect ","
      if word == "split" then
        match ← peek with
        | .name name _ =>
          advance
          let array ← useAs name true
          if ← takeIf "," then
            let separator ← expression fuel none
            let separator ← checkSeparator separator
            expect ")"
            return .split a array (some separator)
          expect ")"
          return .split a array none
        | _ => unexpected
      else
        if word == "match" then
          let b ← expression fuel none
          let b ← checkSought b
          expect ")"
          return .search a b
        let b ← expression fuel none
        let t ← if ← takeIf "," then target fuel else pure (.field (.number 0))
        expect ")"
        return .substitute (word == "gsub") a b t

end

end NotebookKernel.Shell.Tool.Records.Read
