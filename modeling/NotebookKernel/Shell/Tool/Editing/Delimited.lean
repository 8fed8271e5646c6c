import NotebookKernel.Shell.Tool.Basic
import NotebookKernel.Shell.Tool.Editing.Instruction

/-! # Text between delimiters

Expressions and replacements stand between delimiters, which may be any byte. A backslash takes its
meaning from a delimiter, and gives one to some letters. -/

namespace NotebookKernel.Shell.Tool.Editing

/-- Where in an expression a byte stands, as far as brackets go. -/
inductive BracketPlace where
  | outside
  /-- At the start of a bracket expression, where no byte ends it. -/
  | start (mayNegate : Bool)
  | inside
  /-- In a part such as `[:alpha:]`, behind its mark or not. -/
  | named (mark : Char) (behindMark : Bool)

/-- A text up to a delimiter, and what follows. -/
structure Delimited where
  text : Octets
  rest : Octets
  /-- Whether the delimiter was there. -/
  closed : Bool := true

def Delimited.cons (c : Char) (d : Delimited) : Delimited := { d with text := c :: d.text }

/-- Reads up to a delimiter, which has no meaning between brackets. -/
def delimited (delimiter : Char) (isRegex : Bool) (place : BracketPlace) : Octets → Delimited
  | [] => ⟨[], [], false⟩
  | '\n' :: rest => ⟨[], '\n' :: rest, false⟩
  | '\\' :: c :: rest =>
    match place with
    | .outside =>
      if c == '\n' && delimiter != '\\' then (delimited delimiter isRegex .outside rest).cons '\n'
      else if delimiter == '\\' then ⟨[], c :: rest, true⟩
      else if c == delimiter && (isRegex || c != '&') then
        (delimited delimiter isRegex .outside rest).cons c
      else if c == 'n' && isRegex then (delimited delimiter isRegex .outside rest).cons '\n'
      else ((delimited delimiter isRegex .outside rest).cons c).cons '\\'
    | place =>
      let behind : BracketPlace := match place with
        | .named mark _ => .named mark false
        | _ => .inside
      if c == '\n' then ⟨[], c :: rest, false⟩
      else if c == 'n' then (delimited delimiter isRegex behind rest).cons '\n'
      else if c == '\\' then ((delimited delimiter isRegex behind rest).cons c).cons '\\'
      else (delimited delimiter isRegex behind (c :: rest)).cons '\\'
  | c :: rest =>
    let go (place : BracketPlace) : Delimited := (delimited delimiter isRegex place rest).cons c
    match place with
    | .outside =>
      if c == delimiter then ⟨[], rest, true⟩
      else if c == '\\' then ⟨[], rest, false⟩
      else go (if c == '[' && isRegex then .start true else .outside)
    | .start mayNegate =>
      if c == '^' && mayNegate then go (.start false)
      else go (if c == '[' then opening rest else .inside)
    | .inside =>
      if c == ']' then go .outside
      else go (if c == '[' then opening rest else .inside)
    | .named mark behindMark =>
      if behindMark && c == ']' then go .inside
      else go (.named mark (c == mark))
where
  /-- The place behind an opening bracket between brackets. -/
  opening (rest : Octets) : BracketPlace :=
    match rest with
    | mark :: _ => if [':', '.', '='].contains mark then .named mark false else .inside
    | [] => .inside

/-- A number of digits in some base, as the byte of that number. -/
def numberedByte? (base most : Nat) (text : Octets) : Option (Char × Octets) :=
  let value? (c : Char) : Option Nat :=
    ("0123456789abcdef".toList.idxOf? c.toLower).filter (· < base)
  let digits := (text.take most).takeWhile fun c => (value? c).isSome
  if digits.isEmpty then none
  else
    let n := digits.foldl (fun n c => base * n + (value? c).getD 0) 0
    some (Char.ofNat (n % 256), text.drop digits.length)

/-- The byte that a letter behind a backslash stands for, with what may follow the letter. -/
def namedByte? (text : Octets) : Option (Char × Octets) :=
  match text with
  | 'a' :: rest => some ('\x07', rest)
  | 'f' :: rest => some ('\x0c', rest)
  | 'n' :: rest => some ('\n', rest)
  | 'r' :: rest => some ('\r', rest)
  | 't' :: rest => some ('\t', rest)
  | 'v' :: rest => some ('\x0b', rest)
  | 'c' :: c :: rest =>
    let rest := if c == '\\' && rest.head? == some '\\' then rest.tail else rest
    some (Char.ofNat (Nat.xor c.toUpper.toNat 64), rest)
  | ['c'] => some ('\\', [])
  | 'd' :: rest => numberedByte? 10 3 rest
  | 'o' :: rest => numberedByte? 8 3 rest
  | 'x' :: rest => numberedByte? 16 2 rest
  | _ => none

/-- Puts the bytes that are named by letters into an expression. The fuel bounds its length. -/
def withNamedBytes : Nat → Octets → Octets
  | fuel + 1, '\\' :: c :: rest =>
    match namedByte? (c :: rest) with
    | some (byte, rest) => byte :: withNamedBytes fuel rest
    | none => '\\' :: c :: withNamedBytes fuel rest
  | fuel + 1, c :: rest => c :: withNamedBytes fuel rest
  | _, text => text

/-- Reads text in which a backslash only stands for itself if there are two. -/
def plainText : Nat → Octets → Octets
  | fuel + 1, '\\' :: c :: rest =>
    match namedByte? (c :: rest) with
    | some (byte, rest) => byte :: plainText fuel rest
    | none => c :: plainText fuel rest
  | _, ['\\'] => []
  | fuel + 1, c :: rest => c :: plainText fuel rest
  | _, text => text

/-! ## Replacements -/

/-- How far a replacement was read: its parts so far, the text of the next one, and the case of it and
of those behind it. The parts and the text are in reverse. -/
structure ReplacementPlace where
  parts : List ReplacementPart := []
  text : Octets := []
  casing : Casing := {}
  lasting : Casing := {}

namespace ReplacementPlace

def add (p : ReplacementPlace) (c : Char) : ReplacementPlace := { p with text := c :: p.text }

/-- Ends a part with some group or none. -/
def close (p : ReplacementPlace) (group : Option Nat) : ReplacementPlace :=
  { p with
    parts := ⟨p.text.reverse, group, p.casing⟩ :: p.parts, text := [], casing := p.lasting }

/-- Brings everything that follows into a case. -/
def turn (p : ReplacementPlace) (all : Option LetterCase) : ReplacementPlace :=
  { p.close none with casing := { all }, lasting := { all } }

/-- Brings the next letter into a case. -/
def turnFirst (p : ReplacementPlace) (first : LetterCase) : ReplacementPlace :=
  let p := p.close none
  { p with casing := { p.casing with first := some first }, lasting := p.casing }

end ReplacementPlace

/-- Reads a replacement. The fuel bounds its length. -/
def replacementParts : Nat → ReplacementPlace → Octets → List ReplacementPart
  | fuel + 1, p, '\\' :: c :: rest =>
    let go (p : ReplacementPlace) : List ReplacementPart := replacementParts fuel p rest
    if c.isDigit then go (p.close (some (c.toNat - '0'.toNat)))
    else match c with
      | 'U' => go (p.turn (some .upper))
      | 'L' => go (p.turn (some .lower))
      | 'E' => go (p.turn none)
      | 'u' => go (p.turnFirst .upper)
      | 'l' => go (p.turnFirst .lower)
      | c =>
        match namedByte? (c :: rest) with
        | some (byte, rest) => replacementParts fuel (p.add byte) rest
        | none => go (p.add c)
  | fuel + 1, p, '&' :: rest => replacementParts fuel (p.close (some 0)) rest
  | fuel + 1, p, c :: rest => replacementParts fuel (p.add c) rest
  | _, p, _ => (p.close none).parts.reverse

end NotebookKernel.Shell.Tool.Editing
