import NotebookKernel.Shell.Octets

/-! # Patterns of the shell

A pattern matches a text as a whole. `*` stands for any text, `?` for any byte and brackets for one
byte out of a set, unless they are quoted. -/

namespace NotebookKernel.Shell

/-- A byte of an expanded word, which may have been quoted. -/
structure Glyph where
  char : Char
  quoted : Bool

/-- A part of a pattern. -/
inductive Matcher where
  | anyText
  | anyByte
  | byte (c : Char)
  /-- One byte in the ranges, or one outside of them. -/
  | oneOf (negated : Bool) (ranges : List (Char × Char))

/-- Whether a part that stands for one byte stands for this one. -/
def Matcher.accepts : Matcher → Char → Bool
  | .anyText, _ => true
  | .anyByte, _ => true
  | .byte c, d => c == d
  | .oneOf negated ranges, d => ranges.any (fun (a, b) => a ≤ d && d ≤ b) != negated

/-- Whether a part stands for a byte when the case of letters does not count. -/
def Matcher.acceptsFolded (m : Matcher) (d : Char) : Bool :=
  let any (m : Matcher) : Bool := m.accepts d || m.accepts d.toLower || m.accepts d.toUpper
  match m with
  | .oneOf true ranges => !any (.oneOf false ranges)
  | m => any m

abbrev Pattern := List Matcher

namespace Pattern

/-- The ranges that a named class in brackets stands for. -/
def classRanges (name : Octets) : List (Char × Char) :=
  match String.ofList name with
  | "digit" => [('0', '9')]
  | "lower" => [('a', 'z')]
  | "upper" => [('A', 'Z')]
  | "alpha" => [('a', 'z'), ('A', 'Z')]
  | "alnum" => [('a', 'z'), ('A', 'Z'), ('0', '9')]
  | "xdigit" => [('a', 'f'), ('A', 'F'), ('0', '9')]
  | "blank" => [(' ', ' '), ('\t', '\t')]
  | "space" => [(' ', ' '), ('\t', '\r')]
  | "punct" => [('!', '/'), (':', '@'), ('[', '`'), ('\x7b', '~')]
  | "print" => [(' ', '~')]
  | "graph" => [('!', '~')]
  | "cntrl" => [(Char.ofNat 0, '\x1f'), ('\x7f', '\x7f')]
  | _ => []

/-- The set in brackets, and what follows it. The fuel bounds its length. -/
def readSet (fuel : Nat) (first : Bool) (text : List Glyph) :
    Option (List (Char × Char) × List Glyph) :=
  match fuel, text with
  | 0, _ => none
  | _, [] => none
  | fuel + 1, g :: rest =>
    if g.char == ']' && !g.quoted && !first then some ([], rest)
    else
      let more (ranges : List (Char × Char)) (rest : List Glyph) :=
        (readSet fuel false rest).map fun (others, after) => (ranges ++ others, after)
      match g.char, rest with
      | '[', ⟨':', _⟩ :: named =>
        let name := named.takeWhile (·.char != ':')
        match named.drop name.length with
        | ⟨':', _⟩ :: ⟨']', _⟩ :: after => more (classRanges (name.map (·.char))) after
        | _ => more [('[', '[')] rest
      | low, ⟨'-', false⟩ :: ⟨high, q⟩ :: after =>
        if high == ']' && !q then more [(low, low)] rest else more [(low, high)] after
      | c, _ => more [(c, c)] rest

/-- Reads a pattern. A bracket that is never closed stands for itself. -/
def ofGlyphs (text : List Glyph) : Pattern :=
  match text with
  | [] => []
  | g :: rest =>
    if g.quoted then .byte g.char :: ofGlyphs rest
    else match g.char with
      | '*' => .anyText :: ofGlyphs rest
      | '?' => .anyByte :: ofGlyphs rest
      | '[' =>
        let (negated, inside) := match rest with
          | ⟨'!', false⟩ :: inside => (true, inside)
          | _ => (false, rest)
        match readSet (inside.length + 1) true inside with
        | some (ranges, after) =>
          .oneOf negated ranges :: if after.length ≤ rest.length then ofGlyphs after else []
        | none => .byte '[' :: ofGlyphs rest
      | '\\' =>
        match rest with
        | escaped :: after => .byte escaped.char :: ofGlyphs after
        | [] => [.byte '\\']
      | c => .byte c :: ofGlyphs rest
  termination_by text.length

/-- Whether a pattern matches a text as a whole. -/
def matchesText (p : Pattern) (text : Octets) : Bool :=
  match p, text with
  | [], text => text.isEmpty
  | .anyText :: rest, [] => matchesText rest []
  | .anyText :: rest, c :: text =>
    matchesText rest (c :: text) || matchesText (.anyText :: rest) text
  | _ :: _, [] => false
  | m :: rest, c :: text => m.accepts c && matchesText rest text
  termination_by p.length + text.length

/-- The text without the shortest or longest part at its start or end that a pattern matches. A part
counts only up to the first zero, which separates texts that are joined. -/
def trim (p : Pattern) (atEnd longest : Bool) (text : Octets) : Octets :=
  let lengths := List.range (text.length + 1)
  let lengths := if longest then lengths.reverse else lengths
  let cut (n : Nat) : Octets × Octets :=
    if atEnd then (text.drop (text.length - n), text.take (text.length - n))
    else (text.take n, text.drop n)
  let counts (part : Octets) : Octets := part.takeWhile (· != Char.ofNat 0)
  match (lengths.map cut).find? fun (part, _) => matchesText p (counts part) with
  | some (_, kept) => kept
  | none => text

end Pattern

/-- Whether a word has to be matched with the files. -/
def hasWildcards (word : List Glyph) : Bool :=
  word.any fun g => !g.quoted && (g.char == '*' || g.char == '?' || g.char == '[')

end NotebookKernel.Shell
