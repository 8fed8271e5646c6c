import NotebookKernel.Shell.Pattern
import NotebookKernel.Shell.Tool.Flow

/-! # Translating characters

Sets of characters are written as texts with ranges, classes and repetitions in them. One set is put in
the place of the other, or the members of a set are left out, or runs of them are cut to one. -/

namespace NotebookKernel.Shell.Tool

open Run

/-- A part of a set of characters. -/
inductive SetPart where
  | byte (c : Char)
  | range (low high : Char)
  | named (name : Octets)
  | same (c : Char)
  /-- A character a number of times; as often as it takes for a zero. -/
  | times (c : Char) (count : Nat)

/-- The bytes between two, both included. -/
def byteRange (a b : Char) : Octets :=
  (List.range (b.toNat + 1 - a.toNat)).map fun n => Char.ofNat (a.toNat + n)

def allBytes : Octets := byteRange (Char.ofNat 0) (Char.ofNat 255)

/-- The members of a class, in the order of their numbers. -/
def classBytes (name : Octets) : Octets :=
  let ranges := Pattern.classRanges name
  allBytes.filter fun c => ranges.any fun (a, b) => a ≤ c && c ≤ b

/-- Why a text is no set. -/
inductive SetFault where
  | reversed (low high : Octets)
  | noClass (name : Octets)
  | longEquivalence (name : Octets)
  | emptyClass
  | emptyEquivalence
  | count (text : Octets)

def SetFault.message : SetFault → Octets
  | .reversed low high => "range-endpoints of '".toList ++ low ++ '-' :: high ++
      "' are in reverse collating sequence order".toList
  | .noClass name => "invalid character class ".toList ++ quote name
  | .longEquivalence name => name ++
      ": equivalence class operand must be a single character".toList
  | .emptyClass => "missing character class name '[::]'".toList
  | .emptyEquivalence => "missing equivalence class character '[==]'".toList
  | .count text => "invalid repeat count ".toList ++ quote text ++ " in [c*n] construct".toList

/-- A character of a set, which may have stood behind a backslash. -/
structure SetGlyph where
  char : Char
  escaped : Bool := false

def isOctal (c : Char) : Bool := '0' ≤ c && c ≤ '7'

/-- Takes the backslashes out of the text of a set. What is doubtful is warned of. -/
def setGlyphs (text : Octets) : List SetGlyph × List Octets :=
  match text with
  | [] => ([], [])
  | '\\' :: rest =>
    match rest with
    | [] => ([⟨'\\', false⟩], ["an unescaped backslash at end of string is not portable".toList])
    | c :: rest =>
      if isOctal c then
        let digits := (c :: rest).takeWhile isOctal |>.take 3
        let value (digits : Octets) : Nat :=
          digits.foldl (fun n d => 8 * n + (d.toNat - '0'.toNat)) 0
        let (used, warned) : Octets × List Octets :=
          if 255 < value digits then (digits.take 2,
            [("the ambiguous octal escape \\".toList ++ digits ++
              " is being\n\tinterpreted as the 2-byte sequence \\0".toList ++ digits.take 2 ++
              ", ".toList ++ digits.drop 2)])
          else (digits, [])
        let (glyphs, warnings) := setGlyphs ((c :: rest).drop (max 1 used.length))
        (⟨Char.ofNat (value used), true⟩ :: glyphs, warned ++ warnings)
      else
        let char := match c with
          | 'a' => '\x07'
          | 'b' => '\x08'
          | 'f' => '\x0c'
          | 'n' => '\n'
          | 'r' => '\r'
          | 't' => '\t'
          | 'v' => '\x0b'
          | c => c
        let (glyphs, warnings) := setGlyphs rest
        (⟨char, true⟩ :: glyphs, warnings)
  | c :: rest =>
    let (glyphs, warnings) := setGlyphs rest
    (⟨c, false⟩ :: glyphs, warnings)
  termination_by text.length
  decreasing_by all_goals (simp only [List.length_drop, List.length_cons]; omega)

/-- The name between a mark and the mark with its closing bracket. -/
def markedName? (mark : Char) (text : List SetGlyph) : Option (Octets × List SetGlyph) :=
  match text with
  | ⟨c, e⟩ :: ⟨d, g⟩ :: rest =>
    if c == mark && !e && d == ']' && !g then some ([], rest)
    else (markedName? mark (⟨d, g⟩ :: rest)).map fun (name, after) => (c :: name, after)
  | _ => none

/-- A repetition behind its opening bracket: the count, and what follows. -/
def repetitionCount? (text : List SetGlyph) : Option (Octets × List SetGlyph) :=
  match text with
  | ⟨_, _⟩ :: ⟨'*', false⟩ :: rest =>
    let digits := (rest.takeWhile fun g => !(g.char == ']' && !g.escaped)).map (·.char)
    match rest.drop digits.length with
    | _ :: after =>
      if (rest.take digits.length).any (·.escaped) then none else some (digits, after)
    | [] => none
  | _ => none

/-- The value of a count, which is octal behind a zero. -/
def repeatCount? (digits : Octets) : Option Nat :=
  match digits with
  | '0' :: more =>
    if more.all isOctal then some (more.foldl (fun n d => 8 * n + (d.toNat - '0'.toNat)) 0) else none
  | [] => some 0
  | digits => Octets.digitsValue? digits

def glyphText (g : SetGlyph) : Octets := if isPrintable g.char then [g.char] else '\\' :: octal g.char

/-- Reads the parts of a set. The fuel bounds its length. -/
def setParts (fuel : Nat) (text : List SetGlyph) : Except SetFault (List SetPart) :=
  match fuel, text with
  | 0, _ => .ok []
  | _, [] => .ok []
  | fuel + 1, g :: rest => do
    let isOpen := g.char == '[' && !g.escaped
    let named : Option (Char × Octets × List SetGlyph) := match rest with
      | ⟨mark, false⟩ :: after =>
        if isOpen && (mark == ':' || mark == '=') then
          (markedName? mark after).map fun (name, after) => (mark, name, after)
        else none
      | _ => none
    let counted := if isOpen then repetitionCount? rest else none
    match named, counted with
    | some (':', name, after), _ =>
      if name.isEmpty then throw .emptyClass
      if (Pattern.classRanges name).isEmpty then throw (.noClass name)
      return .named name :: (← setParts fuel after)
    | some (_, name, after), none =>
      match name with
      | [c] => return .same c :: (← setParts fuel after)
      | [] => throw .emptyEquivalence
      | name => throw (.longEquivalence name)
    | _, some (digits, after) =>
      match repeatCount? digits with
      | none => throw (.count digits)
      | some n => return .times ((rest.map (·.char)).headD '*') n :: (← setParts fuel after)
    | _, none =>
      match rest with
      | ⟨'-', false⟩ :: high :: after =>
        if high.char < g.char then throw (.reversed (glyphText g) (glyphText high))
        return .range g.char high.char :: (← setParts fuel after)
      | rest => return .byte g.char :: (← setParts fuel rest)

namespace SetPart

def bytes : SetPart → Octets
  | byte c => [c]
  | range a b => byteRange a b
  | named name => classBytes name
  | same c => [c]
  | times c n => List.replicate n c

def isOpenEnded : SetPart → Bool
  | times _ 0 => true
  | _ => false

/-- Whether the part is all letters of one case. -/
def isCase : SetPart → Bool
  | named name => name == "upper".toList || name == "lower".toList
  | _ => false

def isClass : SetPart → Bool
  | named _ => true
  | _ => false

end SetPart

/-- The bytes of a set that is to have a length, which a part without an end is drawn out to. -/
def drawnOut (parts : List SetPart) (length : Nat) : Octets :=
  let fixed := (parts.map fun p => p.bytes.length).foldl (· + ·) 0
  parts.flatMap fun p => match p with
    | .times c 0 => List.replicate (length - fixed) c
    | p => p.bytes

/-- Where the parts of a set begin that are all letters of one case. -/
def casePlaces (parts : List SetPart) : List Nat :=
  (parts.foldl (fun (places, n) p =>
    (if p.isCase then places ++ [n] else places, n + p.bytes.length))
    (([], 0) : List Nat × Nat)).1

/-- Leaves out a byte of the set that follows an equal one. -/
def squeeze (set : Octets) (previous : Option Char) : Octets → Octets
  | [] => []
  | c :: rest =>
    if some c == previous && set.contains c then squeeze set previous rest
    else c :: squeeze set (some c) rest

/-- What a set is used for. -/
structure Translating where
  complement : Bool
  deletes : Bool
  squeezes : Bool
  truncates : Bool

/-- Two sets as lists that are paired off, or what is wrong with them. -/
def pairedSets (t : Translating) (first second : List SetPart) : Except String (Octets × Octets) := do
  let plain := first.flatMap SetPart.bytes
  let source := if t.complement then allBytes.filter (!plain.contains ·) else plain
  if (second.filter SetPart.isOpenEnded).length > 1 then
    throw "only one [c*] repeat construct may appear in string2"
  if second.any fun p => p.isClass && !p.isCase then
    throw "when translating, the only character classes that may appear in\nstring2 are 'upper' and 'lower'"
  let fixed := second.flatMap SetPart.bytes
  if fixed.isEmpty && second.isEmpty && !t.truncates then
    throw "when not truncating set1, string2 must be non-empty"
  if t.complement && first.any SetPart.isClass && !second.isEmpty then
    let target := drawnOut second source.length
    if (target.headD 'x' :: target).any (· != target.headD 'x') then
      throw "when translating with complemented character classes,\nstring2 must map all characters in the domain to one"
  let cases := casePlaces second
  if !t.complement && cases.any fun n => !(casePlaces first).contains n then
    throw "misaligned [:upper:] and/or [:lower:] construct"
  if t.complement && !cases.isEmpty && !second.isEmpty && second.getLast?.any SetPart.isCase &&
      fixed.length < source.length then
    throw "when translating with string1 longer than string2,\nthe latter string must not end with a character class"
  let target := drawnOut second source.length
  if target.length < source.length && !t.truncates && second.getLast?.any SetPart.isClass then
    throw "when translating with string1 longer than string2,\nthe latter string must not end with a character class"
  -- Letters of one case are paired off with those of the other.
  return (if t.truncates then source.take target.length else source, target)

def tr (arguments : List Octets) : Run Nat :=
  withOptions "c,C,complement d,delete s,squeeze-repeats t,truncate-set1" arguments
    (fun o => do
      let t : Translating := ⟨o.has "c", o.has "d", o.has "s", o.has "t"⟩
      let needsTwo := t.deletes == t.squeezes
      let usage (what : Octets) (line : String) : Run Nat := do
        complainOf what
        if !line.isEmpty then complain line.toList
        hint
        return 1
      match o.operands with
      | [] => missingOperand
      | first :: more =>
        if more.isEmpty && needsTwo then
          return ← usage ("missing operand after ".toList ++ quote first)
            (if t.squeezes then "Two strings must be given when both deleting and squeezing repeats."
              else "Two strings must be given when translating.")
        let most := if t.deletes && !t.squeezes then 1 else 2
        if most ≤ more.length then
          return ← usage ("extra operand ".toList ++ quote (more.getD (most - 1) []))
            (if most == 1 then
              "Only one string may be given when deleting without squeezing repeats." else "")
        let (glyphs, warned) := setGlyphs first
        for w in warned do complainOf ("warning: ".toList ++ w)
        match setParts (glyphs.length + 1) glyphs with
        | .error fault =>
          complainOf fault.message
          return 1
        | .ok firstParts =>
          let (moreGlyphs, warned) := setGlyphs (more.headD [])
          for w in warned do complainOf ("warning: ".toList ++ w)
          match setParts (moreGlyphs.length + 1) moreGlyphs with
          | .error fault =>
            complainOf fault.message
            return 1
          | .ok secondParts =>
            if firstParts.any SetPart.isOpenEnded then
              complainOf "the [c*] repeat construct may not appear in string1".toList
              return 1
            let translates := !t.deletes && !more.isEmpty
            let plain := firstParts.flatMap SetPart.bytes
            let set := if t.complement then allBytes.filter (!plain.contains ·) else plain
            let pairs : Except String (Octets × Octets) :=
              if translates then pairedSets t firstParts secondParts else .ok ([], [])
            match pairs with
            | .error why =>
              complainOf why.toList
              return 1
            | .ok (source, target) =>
              let second := drawnOut secondParts set.length
              -- The last of equal members of the first set counts.
              let last := target.getLast?
              let table : List (Char × Char) := allBytes.filterMap fun c =>
                match source.reverse.idxOf? c with
                | none => none
                | some n => ((target[source.length - 1 - n]?).or last).map (c, ·)
              let change (text : Octets) : Octets :=
                let text := if t.deletes then text.filter (!set.contains ·)
                  else if translates then text.map fun c => (table.lookup c).getD c else text
                if !t.squeezes then text
                else squeeze (if more.isEmpty then set else second) none text
              match ← readInput ['-'] with
              | .error e =>
                complainAbout "read error".toList e
                return 1
              | .ok s =>
                put (change s.content)
                if !s.endless.isEmpty then
                  let rest := change s.endless
                  if rest.isEmpty then let _ ← wholeOf s else writeEndless 1 rest
                return 0)
    (fun _ => none) true

end NotebookKernel.Shell.Tool
