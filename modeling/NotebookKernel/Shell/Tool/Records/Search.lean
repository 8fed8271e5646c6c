import NotebookKernel.Shell.Regex
import NotebookKernel.Shell.Tool.Records.Value

/-! # Searching in records

Programs over records have expressions of their own. Anchors stand for the ends of a text wherever they
are, a parenthesis that closes nothing stands for itself, and escapes are those of texts. -/

namespace NotebookKernel.Shell.Tool.Records.Search

inductive Fault where
  | openGroup
  | badClass
  | nothingToRepeat
  | badInterval
  | repeatedAnchor

def Fault.reason : Fault → String
  | .openGroup => "missing ')'"
  | .badClass => "bad class -- [], [^] or ["
  | .nothingToRepeat => "missing operand"
  | .badInterval => "bad interval expression"
  | .repeatedAnchor => "syntax error ^* or ^+"

def Fault.message (f : Fault) (text : Octets) : Octets :=
  ("regular expression compile failed (" ++ f.reason ++ ")\n").toList ++ text

/-- The byte behind a backslash, and what follows it. Where there is no escape the byte stands for
itself. -/
def escaped (text : Octets) : Char × Octets :=
  match Value.escape? text, text with
  | some found, _ => found
  | none, c :: rest => (c, rest)
  | none, [] => ('\\', [])

/-- The members of a bracket expression up to its end, and what follows. Bounds in the wrong order stand
for themselves. The fuel bounds the length. -/
def members : Nat → (first : Bool) → Octets → Except Fault (List (Char × Char) × Octets)
  | 0, _, _ => .error .badClass
  | fuel + 1, first, text =>
    let more (found : List (Char × Char)) (rest : Octets) := do
      let (others, rest) ← members fuel false rest
      return (found ++ others, rest)
    let range (low : Char) (rest : Octets) := match rest with
      | '-' :: ']' :: _ => more [(low, low)] rest
      | '-' :: c :: after =>
        let (high, after) := if c == '\\' then escaped after else (c, after)
        more (if low ≤ high then [(low, high)] else [(low, low), ('-', '-'), (high, high)]) after
      | rest => more [(low, low)] rest
    match text with
    | [] => .error .badClass
    | ']' :: rest => if first then range ']' rest else .ok ([], rest)
    | '\\' :: rest =>
      let (c, rest) := escaped rest
      range c rest
    | '[' :: ':' :: rest =>
      let name := rest.takeWhile (· != ':')
      match rest.drop name.length with
      | ':' :: ']' :: after =>
        match Pattern.classRanges name with
        | [] => .error .badClass
        | ranges => more ranges after
      | _ => range '[' (':' :: rest)
    | c :: rest => range c rest

/-- How often an interval behind its opening brace asks for, and what follows. There may be no
interval. -/
def interval? (text : Octets) : Except Fault (Option ((Nat × Option Nat) × Octets)) :=
  let inside := text.takeWhile (· != '\x7d')
  let rest := (text.drop inside.length).tail
  let low := inside.takeWhile Char.isDigit
  let least := (Octets.digitsValue? low).getD 0
  if inside.length == text.length then .ok none
  else match inside.drop low.length with
    | [] => if low.isEmpty then .error .badInterval else .ok (some ((least, some least), rest))
    | ',' :: high =>
      if !high.all Char.isDigit then .ok none
      else match Octets.digitsValue? high with
        | some most => if most < least then .error .badInterval
          else .ok (some ((least, some most), rest))
        | none => .ok (some ((least, none), rest))
    | _ => .ok none

/-- Reads the repetitions behind a part. The fuel bounds their number. -/
def repetitions : Nat → Regex Probe → Octets → Except Fault (Regex Probe × Octets)
  | 0, a, text => .ok (a, text)
  | fuel + 1, a, text =>
    let isAnchor := match a with
      | .assert .textStart => true
      | _ => false
    let repeated (least : Nat) (most : Option Nat) (rest : Octets) :=
      if isAnchor then .error .repeatedAnchor else repetitions fuel (.repeated least most a) rest
    match text with
    | '*' :: rest => repeated 0 none rest
    | '+' :: rest => repeated 1 none rest
    | '?' :: rest => repeated 0 (some 1) rest
    | '\x7b' :: rest => do
      match ← interval? rest with
      | some ((least, most), rest) => repeated least most rest
      | none => return (a, text)
    | text => .ok (a, text)

def isRepetition (c : Char) : Bool := c == '*' || c == '+' || c == '?'

mutual

/-- Reads alternatives up to the end of the text or of the group. -/
def alternatives (fuel depth : Nat) (text : Octets) : Except Fault (Regex Probe × Octets) := do
  match fuel with
  | 0 => return (.nothing, text)
  | fuel + 1 =>
    let endsHere (c : Char) : Bool := c == '|' || isRepetition c || (c == ')' && 0 < depth)
    if text.isEmpty || text.head?.any endsHere then throw .nothingToRepeat
    let (a, rest) ← branch fuel depth text
    match rest with
    | '|' :: rest =>
      let (b, rest) ← alternatives fuel depth rest
      return (.either a b, rest)
    | rest => return (a, rest)

/-- Reads what follows one upon another. -/
def branch (fuel depth : Nat) (text : Octets) : Except Fault (Regex Probe × Octets) := do
  match fuel, text with
  | 0, text => return (.nothing, text)
  | _, [] => return (.nothing, [])
  | fuel + 1, c :: rest =>
    if c == '|' || (c == ')' && 0 < depth) then return (.nothing, c :: rest)
    let (a, rest) ← part fuel depth c rest
    let (a, rest) ← repetitions (rest.length + 1) a rest
    let (b, rest) ← branch fuel depth rest
    return (.followed a b, rest)

/-- Reads one part, whose first byte is given. -/
def part (fuel depth : Nat) (c : Char) (rest : Octets) : Except Fault (Regex Probe × Octets) := do
  match fuel with
  | 0 => return (.nothing, rest)
  | fuel + 1 =>
    match c with
    | '^' => return (.assert .textStart, rest)
    | '$' => return (.assert .textEnd, rest)
    | '.' => return (.one (.byte .anyByte), rest)
    | '\\' =>
      let (c, rest) := escaped rest
      return (.one (.byte (.byte c)), rest)
    | '[' =>
      let negated := rest.head? == some '^'
      let inside := if negated then rest.tail else rest
      let (ranges, rest) ← members (inside.length + 1) true inside
      return (.one (.byte (.oneOf negated ranges)), rest)
    | '(' =>
      match alternatives fuel (depth + 1) rest with
      | .ok (a, ')' :: rest) => return (a, rest)
      | .ok _ => throw .openGroup
      | .error fault => if rest.isEmpty then throw .openGroup else throw fault
    | c => return (.one (.byte (.byte c)), rest)

end

/-- Reads an expression. The empty one matches anywhere. -/
def read (text : Octets) : Except Fault (Regex Probe) :=
  if text.isEmpty then .ok .nothing
  else (alternatives (4 * text.length + 8) 0 text).map (·.1)

/-! ## Separators -/

/-- What fields or records are set apart by. -/
inductive Separator where
  /-- Blanks and line feeds, which are left out at the ends too. -/
  | space
  /-- Nothing stands between the bytes. -/
  | none
  | byte (c : Char)
  | matching (r : Regex Probe)

/-- What a text says about separation. One byte stands for itself. -/
def Separator.read (text : Octets) : Except Fault Separator :=
  match text with
  | [] => .ok .none
  | [' '] => .ok .space
  | [c] => .ok (.byte c)
  | text => (Search.read text).map .matching

/-- The matches of an expression that are not empty, from some place on. The fuel bounds their
number. -/
def matchesFrom (p : Placed) : Nat → Nat → List (Nat × Nat)
  | 0, _ => []
  | fuel + 1, low =>
    match p.search? low with
    | Option.none => []
    | some m =>
      if m.start == m.stop then
        if m.stop < p.size then matchesFrom p fuel (m.stop + 1) else []
      else (m.start, m.stop) :: matchesFrom p fuel m.stop

/-- Cuts a text at matches, which begin behind some place. -/
def cut (text : Octets) (low : Nat) : List (Nat × Nat) → List Octets
  | [] => [text.drop low]
  | (start, stop) :: rest => (text.take start).drop low :: cut text stop rest

def isFieldSpace (c : Char) : Bool := c == ' ' || c == '\t' || c == '\n'

/-- The fields of a text. -/
def Separator.split (s : Separator) (text : Octets) : List Octets :=
  if text.isEmpty then []
  else match s with
    | space => (Text.Chars.splitOn isFieldSpace text).filter (!·.isEmpty)
    | none => text.map fun c => [c]
    | byte c => Text.Chars.splitOn (· == c) text
    | matching r => cut text 0 (matchesFrom (Placed.of false false r text) (text.length + 2) 0)

/-! ## Replacing -/

/-- A part of a replacement: a text, or the match. -/
inductive Piece where
  | text (t : Octets)
  | found

/-- The parts of a replacement behind some backslashes. An ampersand stands for the match, unless a
backslash is in front of it. Of backslashes in front of an ampersand every other one counts. -/
def pieces (slashes : Nat) : Octets → List Piece
  | [] => [.text (List.replicate slashes '\\')]
  | '\\' :: rest => pieces (slashes + 1) rest
  | '&' :: rest =>
    .text (List.replicate (slashes / 2) '\\') ::
      (if slashes % 2 == 0 then .found else .text ['&']) :: pieces 0 rest
  | c :: rest => .text (List.replicate slashes '\\' ++ [c]) :: pieces 0 rest

/-- Puts a replacement in the place of the first match or of all. Gives the number of matches and the
text that comes out. -/
def replace (all : Bool) (r : Regex Probe) (replacement text : Octets) : Nat × Octets :=
  let p := Placed.of false false r text
  let parts := pieces 0 replacement
  let filled (m : Match) : Octets := parts.flatMap fun
    | .text t => t
    | .found => p.between m.start m.stop
  -- An empty match that touches the one before it does not count.
  let rec go (fuel low : Nat) (touching : Bool) (count : Nat) (out : List Octets) :
      Nat × List Octets :=
    match fuel with
    | 0 => (count, out)
    | fuel + 1 =>
      let here := p.between low p.size
      match p.search? low with
      | Option.none => (count, here :: out)
      | some m =>
        if m.start == m.stop && touching && m.start == low then
          if low < p.size then go fuel (low + 1) false count (here.take 1 :: out) else (count, out)
        else
          let out := filled m :: p.between low m.start :: out
          if !all then (count + 1, p.between m.stop p.size :: out)
          else if m.start == m.stop then
            if m.stop < p.size then
              go fuel (m.stop + 1) false (count + 1) (p.between m.stop (m.stop + 1) :: out)
            else (count + 1, out)
          else go fuel m.stop true (count + 1) out
  let (count, out) := go (2 * text.length + 4) 0 false 0 []
  (count, out.reverse.flatten)

end NotebookKernel.Shell.Tool.Records.Search
