import NotebookKernel.Shell.Regex

/-! # Reading regular expressions

There are basic expressions, whose operators stand behind backslashes, and extended ones. Programs
differ in what they do about operators that have nothing to work on: some take them for themselves or
drop them, others refuse the expression. -/

namespace NotebookKernel.Shell.Regex

structure Dialect where
  extended : Bool
  /-- Whether operators in the wrong place are put up with. -/
  lenient : Bool
  /-- Whether the operators of repetition stand alone in basic expressions, in which there are no
  intervals and no classes of characters then. -/
  bare : Bool := false

/-- Why a text is no regular expression. -/
inductive Fault where
  | openBracket
  | openGroup
  | closingGroup
  | openInterval
  | interval
  | nothingToRepeat
  | tooBig
  | backReference
  | trailingBackslash
  | range
  | className
  | collation
  | loneBracket

def Fault.message : Fault → String
  | .openBracket => "Unmatched [, [^, [:, [., or [="
  | .openGroup => "Unmatched ( or \\("
  | .closingGroup => "Unmatched ) or \\)"
  | .openInterval => "Unmatched \\\x7b"
  | .interval => "Invalid content of \\\x7b\\\x7d"
  | .nothingToRepeat => "Invalid preceding regular expression"
  | .tooBig => "Regular expression too big"
  | .backReference => "Invalid back reference"
  | .trailingBackslash => "Trailing backslash"
  | .range => "Invalid range end"
  | .className => "Invalid character class name"
  | .collation => "Invalid collation character"
  | .loneBracket => "Invalid regular expression"

/-! ## Brackets -/

/-- The end of a part of a bracket expression such as `[:alpha:]`. -/
def bracketName? (mark : Char) (text : Octets) : Option (Octets × Octets) :=
  match text with
  | [] => none
  | [_] => none
  | c :: d :: rest =>
    if c == mark && d == ']' then some ([], rest)
    else (bracketName? mark (d :: rest)).map fun (name, after) => (c :: name, after)

/-- A member of a bracket expression: one byte, or a class. -/
inductive BracketPart where
  | byte (c : Char)
  | ranges (list : List (Char × Char))

def bracketPart (classes : Bool) (text : Octets) : Except Fault (BracketPart × Octets) :=
  match text with
  | [] => .error .openBracket
  | '[' :: mark :: rest =>
    if mark == ':' && !classes then .ok (.byte '[', mark :: rest)
    else if mark == ':' then
      match bracketName? ':' rest with
      | none => .ok (.byte '[', mark :: rest)
      | some (name, after) =>
        match Pattern.classRanges name with
        | [] => .error .className
        | ranges => .ok (.ranges ranges, after)
    else if mark == '.' || mark == '=' then
      match bracketName? mark rest with
      | none => .error .openBracket
      | some ([c], after) => .ok (.byte c, after)
      | some _ => .error .collation
    else .ok (.byte '[', mark :: rest)
  | c :: rest => .ok (.byte c, rest)

/-- The members of a bracket expression up to its end. The fuel bounds its length. -/
def bracketParts (classes : Bool) (fuel : Nat) (first : Bool) (text : Octets) :
    Except Fault (List (Char × Char) × Octets) :=
  match fuel, text with
  | 0, _ => .error .openBracket
  | _, [] => .error .openBracket
  | fuel + 1, c :: rest =>
    if c == ']' && !first then .ok ([], rest)
    else do
      let (part, after) ← bracketPart classes (c :: rest)
      let more (ranges : List (Char × Char)) (after : Octets) := do
        let (others, rest) ← bracketParts classes fuel false after
        return (ranges ++ others, rest)
      let isRange := match after with
        | '-' :: d :: _ => d != ']'
        | _ => false
      if !isRange then
        match part with
        | .byte c => more [(c, c)] after
        | .ranges list => more list after
      else
        let (high, after) ← bracketPart classes after.tail
        match part, high with
        | .byte a, .byte b => if b < a then .error .range else more [(a, b)] after
        | _, _ => .error .range

/-- A bracket expression behind its opening bracket. -/
def bracket (classes : Bool) (text : Octets) : Except Fault (Matcher × Octets) := do
  if text.isEmpty then throw .loneBracket
  let negated := text.head? == some '^'
  let inside := if negated then text.tail else text
  let (ranges, rest) ← bracketParts classes (inside.length + 1) true inside
  return (.oneOf negated ranges, rest)

/-! ## Expressions -/

/-- What is read, and what was found out on the way. -/
structure Reading where
  rest : Octets
  /-- How many groups were opened. -/
  groups : Nat := 0
  /-- The groups that were closed. -/
  closed : List Nat := []
  warnings : List String := []

/-- How often something is repeated. -/
abbrev Times := Nat × Option Nat

/-- A bound of an interval. -/
inductive Bound where
  | none
  | number (n : Nat)
  | invalid

/-- Reads a bound of an interval up to a comma or to the brace. Without either, the interval is open. -/
def bound (close : Octets) (b : Bound) : Octets → Except Fault (Bound × Octets)
  | [] => .error .openInterval
  | c :: rest =>
    if c == ',' || close.isPrefixOf (c :: rest) then .ok (b, c :: rest)
    else if !c.isDigit then bound close .invalid rest
    else
      let digit := c.toNat - '0'.toNat
      bound close (match b with
        | .none => .number digit
        | .number n => .number (10 * n + digit)
        | .invalid => .invalid) rest

/-- An interval behind its opening brace: how often, and what follows. -/
def interval (d : Dialect) (text : Octets) : Except Fault (Times × Octets) := do
  let close : Octets := if d.extended then ['\x7d'] else ['\\', '\x7d']
  let (low, after) ← bound close .none text
  let hasComma := after.head? == some ','
  let least ← match low with
    | .number n => pure n
    | .none => if hasComma then pure 0 else throw .interval
    | .invalid => throw .interval
  let (high, after) ← if hasComma then bound close .none after.tail else pure (low, after)
  let most : Option Nat ← match high with
    | .number n => pure (some n)
    | .none => pure none
    | .invalid => throw .interval
  if most.any (· < least) || !close.isPrefixOf after then throw .interval
  if 32767 < most.getD least then throw .tooBig
  return ((least, most), after.drop close.length)

/-- An operator of repetition at the start of a text, with what it is called. -/
def repetition? (d : Dialect) (text : Octets) : Except Fault (Option (Times × String × Octets)) :=
  let braced (rest : Octets) : Except Fault (Option (Times × String × Octets)) :=
    match interval d rest with
    | .ok (times, rest) => .ok (some (times, "\x7b...\x7d", rest))
    | .error fault =>
      match d.lenient && d.extended, fault with
      | true, .interval =>
        -- Only bounds in the wrong order are wrong; anything else is no interval.
        if (rest.all fun c => c != '\x7d') || !(rest.takeWhile (· != '\x7d')).all
          (fun c => c.isDigit || c == ',') || rest.head? == some '\x7d' then .ok none
        else .error fault
      | true, .openInterval => .ok none
      | _, fault => .error fault
  match text with
  | '*' :: rest => .ok (some ((0, none), "*", rest))
  | '\\' :: c :: rest =>
    if d.extended || d.bare then .ok none
    else match c with
      | '+' => .ok (some ((1, none), "+", rest))
      | '?' => .ok (some ((0, some 1), "?", rest))
      | '\x7b' => braced rest
      | _ => .ok none
  | c :: rest =>
    if !d.extended && !(d.bare && c != '\x7b') then .ok none
    else match c with
      | '+' => .ok (some ((1, none), "+", rest))
      | '?' => .ok (some ((0, some 1), "?", rest))
      | '\x7b' => braced rest
      | _ => .ok none
  | [] => .ok none

/-- Reads the repetitions behind an atom. The fuel bounds their number. -/
def repeat' (d : Dialect) (fuel : Nat) (atom : Regex Probe) (again : Bool) (r : Reading) :
    Except Fault (Regex Probe × Reading) := do
  match fuel with
  | 0 => return (atom, r)
  | fuel + 1 =>
    match ← repetition? d r.rest with
    | none => return (atom, r)
    | some ((least, most), name, rest) =>
      if again && !d.lenient && !d.extended && (name == "*" || name.length > 1) then
        throw .nothingToRepeat
      repeat' d fuel (.repeated least most atom) true { r with rest }

def oneByte (m : Matcher) : Regex Probe := .one (.byte m)

def wordRanges : List (Char × Char) := [('a', 'z'), ('A', 'Z'), ('0', '9'), ('_', '_')]

def spaceRanges : List (Char × Char) := [(' ', ' '), ('\t', '\r')]

/-- What a letter behind a backslash stands for, if it is no operator of its own. -/
def escaped (c : Char) : Regex Probe :=
  match c with
  | 'w' => oneByte (.oneOf false wordRanges)
  | 'W' => oneByte (.oneOf true wordRanges)
  | 's' => oneByte (.oneOf false spaceRanges)
  | 'S' => oneByte (.oneOf true spaceRanges)
  | 'b' => .assert .wordEdge
  | 'B' => .assert .noWordEdge
  | '<' => .assert .wordStart
  | '>' => .assert .wordEnd
  | '`' => .assert .textStart
  | '\'' => .assert .textEnd
  | c => oneByte (.byte c)

def isAssertion : Regex Probe → Bool
  | .assert _ => true
  | _ => false

mutual

/-- Reads alternatives up to the end of the text or of the group. -/
def alternatives (d : Dialect) (fuel depth : Nat) (r : Reading) :
    Except Fault (Regex Probe × Reading) := do
  match fuel with
  | 0 => return (.nothing, r)
  | fuel + 1 =>
    let (a, r) ← branch d fuel depth true r
    let bar : Octets := if d.extended then ['|'] else ['\\', '|']
    if bar.isPrefixOf r.rest then
      let (b, r) ← alternatives d fuel depth { r with rest := r.rest.drop bar.length }
      return (.either a b, r)
    return (a, r)

/-- Reads what follows one upon another. -/
def branch (d : Dialect) (fuel depth : Nat) (first : Bool) (r : Reading) :
    Except Fault (Regex Probe × Reading) := do
  match fuel with
  | 0 => return (.nothing, r)
  | fuel + 1 =>
    let bar : Octets := if d.extended then ['|'] else ['\\', '|']
    let close : Octets := if d.extended then [')'] else ['\\', ')']
    let text := r.rest
    if text.isEmpty || bar.isPrefixOf text then return (.nothing, r)
    if close.isPrefixOf text && (0 < depth || !(d.lenient && d.extended)) then
      if depth == 0 then throw .closingGroup
      return (.nothing, r)
    let (a, r) ← atom d fuel depth first r
    let (b, r) ← branch d fuel depth (isAssertion a && first && !d.extended) r
    return (.followed a b, r)

/-- Reads one part with its repetitions. -/
def atom (d : Dialect) (fuel depth : Nat) (first : Bool) (r : Reading) :
    Except Fault (Regex Probe × Reading) := do
  match fuel with
  | 0 => return (.nothing, r)
  | fuel + 1 =>
    let repeated (a : Regex Probe) (r : Reading) := repeat' d (r.rest.length + 1) a false r
    let repeatedEdge (a : Regex Probe) (r : Reading) := do
      let warnings ← match ← repetition? d r.rest with
        | some (_, name, _) => pure (if first then [name ++ " at start of expression"] else [])
        | none => pure []
      repeated a { r with warnings := r.warnings ++ warnings }
    let openGroup (rest : Octets) := do
      let number := r.groups + 1
      let (inside, r) ← alternatives d fuel (depth + 1) { r with rest, groups := number }
      let close : Octets := if d.extended then [')'] else ['\\', ')']
      if !close.isPrefixOf r.rest then throw .openGroup
      repeated (.group number inside)
        { r with rest := r.rest.drop close.length, closed := number :: r.closed }
    -- An operator with nothing to work on.
    if first || d.extended then
      match ← repetition? d r.rest with
      | some (_, name, rest) =>
        if d.extended then
          if !first then throw .nothingToRepeat
          if !d.lenient then throw .nothingToRepeat
          let r := { r with rest, warnings := r.warnings ++ [name ++ " at start of expression"] }
          -- What follows is a part of its own, even if it is a parenthesis.
          match rest with
          | ')' :: rest => return ← repeated (oneByte (.byte ')')) { r with rest }
          | _ => return (.nothing, r)
        if name == "*" || name == "+" || name == "?" then
          let skipped := if name == "*" || d.bare then 1 else 2
          return ← repeated (oneByte (.byte (name.toList.headD '*'))) { r with rest := r.rest.drop skipped }
        if !d.lenient then throw .nothingToRepeat
        return ← repeated (oneByte (.byte '\x7b')) { r with rest := r.rest.drop 2 }
      | none => pure ()
    match r.rest with
    | [] => return (.nothing, r)
    | '\\' :: [] => throw .trailingBackslash
    | '\\' :: c :: rest =>
      if c == '(' && !d.extended then openGroup rest
      else if c.isDigit && c != '0' then
        let n := c.toNat - '0'.toNat
        if !r.closed.contains n then throw .backReference
        repeated (.back n) { r with rest }
      else
        let a := escaped c
        if isAssertion a then return (a, { r with rest }) else repeated a { r with rest }
    | c :: rest =>
      let next := { r with rest }
      match c with
      | '(' => if d.extended then openGroup rest else repeated (oneByte (.byte c)) next
      | '.' => repeated (oneByte .anyByte) next
      | '[' =>
        let (m, rest) ← bracket (!d.bare) rest
        repeated (oneByte m) { r with rest }
      | '^' =>
        if d.extended then
          if d.lenient then repeatedEdge (.assert .lineStart) next
          else return (.assert .lineStart, next)
        else if first then return (.assert .lineStart, next)
        else repeated (oneByte (.byte c)) next
      | '$' =>
        let atEnd := rest.isEmpty || "\\)".toList.isPrefixOf rest || "\\|".toList.isPrefixOf rest
        if d.extended && d.lenient then repeatedEdge (.assert .lineEnd) next
        else if d.extended || atEnd then return (.assert .lineEnd, next)
        else repeated (oneByte (.byte c)) next
      | c => repeated (oneByte (.byte c)) next

end

/-- An expression that was read. -/
structure Expression where
  regex : Regex Probe
  groups : Nat
  warnings : List String

/-- Reads an expression. -/
def read (d : Dialect) (text : Octets) : Except Fault Expression := do
  let (regex, r) ← alternatives d (4 * text.length + 8) 0 { rest := text }
  return ⟨regex, r.groups, r.warnings⟩

/-- The expression that a text matches as it is. -/
def literal (text : Octets) : Regex Probe :=
  text.foldr (fun c r => .followed (oneByte (.byte c)) r) .nothing

end NotebookKernel.Shell.Regex
