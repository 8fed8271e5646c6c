import NotebookKernel.Shell.Pattern

/-! # Regular expressions

An expression is matched by following all ways at once: from a set of places in a text it leads to the
set of places where a match that began at one of them may end. A set of places is a number, whose bits
say which places belong to it. Of all matches the one that begins first counts, and of those the
longest. -/

namespace NotebookKernel.Shell

/-- What is tested about a place in a text. -/
inductive Probe where
  /-- The byte at the place is one of these. -/
  | byte (m : Matcher)
  | lineStart
  | lineEnd
  | textStart
  | textEnd
  | wordStart
  | wordEnd
  | wordEdge
  | noWordEdge

/-- A regular expression over tests of some kind. -/
inductive Regex (α : Type) where
  | nothing
  /-- One byte at a place that passes a test. -/
  | one (a : α)
  /-- No byte, at a place that passes a test. -/
  | assert (a : α)
  | followed (a b : Regex α)
  | either (a b : Regex α)
  | repeated (least : Nat) (most : Option Nat) (a : Regex α)
  | group (number : Nat) (a : Regex α)
  /-- What a group matched, once more. -/
  | back (number : Nat)

/-- A set of places in a text. -/
abbrev Places := Nat

namespace Places

def single (n : Nat) : Places := Nat.shiftLeft 1 n

/-- The places from one on, below another. -/
def range (low high : Nat) : Places := Nat.shiftLeft 1 high - Nat.shiftLeft 1 low

/-- The places of the bytes that pass a test. -/
def ofText (p : Char → Bool) (text : Octets) : Places :=
  text.foldr (fun c places => 2 * places + if p c then 1 else 0) 0

def next (s : Places) : Places := Nat.shiftLeft s 1

def without (s t : Places) : Places := Nat.xor s (Nat.land s t)

end Places

def isWordByte (c : Char) : Bool := c.isAlphanum || c == '_'

namespace Probe

/-- The places of a text that pass a test. With `lines` each line of the text has a start and an end. -/
def places (folds lines : Bool) (text : Octets) : Probe → Places
  | byte m => Places.ofText (if folds then m.acceptsFolded else m.accepts) text
  | textStart => Places.single 0
  | textEnd => Places.single text.length
  | lineStart =>
    let feeds := if lines then Places.ofText (· == '\n') text else 0
    Nat.lor (Places.single 0) (Places.next feeds)
  | lineEnd =>
    let feeds := if lines then Places.ofText (· == '\n') text else 0
    Nat.lor (Places.single text.length) feeds
  | wordStart =>
    let words := Places.ofText isWordByte text
    words.without words.next
  | wordEnd =>
    let words := Places.ofText isWordByte text
    words.next.without words
  | wordEdge =>
    let words := Places.ofText isWordByte text
    Nat.xor words words.next
  | noWordEdge =>
    let words := Places.ofText isWordByte text
    (Places.range 0 (text.length + 1)).without (Nat.xor words words.next)

end Probe

/-- Where the groups of a match begin and end, the last ones first. -/
abbrev Captures := List (Nat × Nat × Nat)

namespace Regex

def map {α β : Type} (f : α → β) : Regex α → Regex β
  | nothing => nothing
  | one a => one (f a)
  | assert a => assert (f a)
  | followed a b => followed (map f a) (map f b)
  | either a b => either (map f a) (map f b)
  | repeated least most a => repeated least most (map f a)
  | group n a => group n (map f a)
  | back n => back n

/-- Whether what a group matched is asked for once more. -/
def looksBack {α : Type} : Regex α → Bool
  | followed a b | either a b => looksBack a || looksBack b
  | repeated _ _ a | group _ a => looksBack a
  | back _ => true
  | _ => false

/-- Adds what a step leads to, a number of times or until nothing is new. -/
def grow (step : Places → Places) : Nat → Places → Places
  | 0, s => s
  | n + 1, s =>
    let next := Nat.lor s (step s)
    if next == s then s else grow step n next

/-- Does a step a number of times. -/
def iterate (step : Places → Places) : Nat → Places → Places
  | 0, s => s
  | n + 1, s => iterate step n (step s)

/-- Where matches may end that begin at some of the places in a text of a size. -/
def ends (size : Nat) : Regex Places → Places → Places
  | nothing, s => s
  | one places, s => Places.next (Nat.land s places)
  | assert places, s => Nat.land s places
  | followed a b, s => ends size b (ends size a s)
  | either a b, s => Nat.lor (ends size a s) (ends size b s)
  | repeated least most a, s =>
    let step := ends size a
    grow step ((most.map (· - least)).getD (size + 1)) (iterate step least s)
  | group _ a, s => ends size a s
  | back _, _ => 0

/-- The places of a set, the last first. The fuel bounds their number. -/
def descending : Nat → Places → List Nat
  | 0, _ => []
  | fuel + 1, s =>
    if s == 0 then []
    else
      let n := Nat.log2 s
      n :: descending fuel (Nat.xor s (Places.single n))

/-- How rounds of a repetition divide a match from one place to another: each takes as much as leaves
a match to the others. The fuel bounds the number of rounds. -/
def traceRounds (size : Nat) (a : Regex Places) (traceRound : Nat → Nat → Captures → Captures)
    (least : Nat) (most : Option Nat) (i j : Nat) : Nat → Captures → Captures
  | 0, captures => captures
  | fuel + 1, captures =>
    if (i == j && least == 0) || most == some 0 then captures
    else
      let rest := repeated (least - 1) (most.map (· - 1)) a
      let fits (e : Nat) : Bool :=
        (i < e || least != 0) && (ends size rest (Places.single e)).testBit j
      match (descending (size + 1) (ends size a (Places.single i))).find? fits with
      | none => captures
      | some e => traceRounds size a traceRound (least - 1) (most.map (· - 1)) e j fuel
          (traceRound i e captures)

/-- The groups of a match from one place to another. What comes first takes as much as it can. -/
def trace (size : Nat) : Regex Places → Nat → Nat → Captures → Captures
  | followed a b, i, j, captures =>
    let fits (e : Nat) : Bool := (ends size b (Places.single e)).testBit j
    match (descending (size + 1) (ends size a (Places.single i))).find? fits with
    | none => captures
    | some e => trace size b e j (trace size a i e captures)
  | either a b, i, j, captures =>
    if (ends size a (Places.single i)).testBit j then trace size a i j captures
    else trace size b i j captures
  | repeated least most a, i, j, captures =>
    traceRounds size a (trace size a) least most i j (size + least + 1) captures
  | group n a, i, j, captures => (n, i, j) :: trace size a i j captures
  | _, _, _, captures => captures

/-! ## Looking back -/

/-- The ways to go on with rounds of a repetition. The fuel bounds the number of rounds. -/
def pathRounds (round : Nat × Captures → List (Nat × Captures)) (least : Nat)
    (most : Option Nat) : Nat → Nat × Captures → List (Nat × Captures)
  | 0, here => [here]
  | fuel + 1, here =>
    if most == some 0 then [here]
    else
      let further := ((round here).filter fun next => here.1 < next.1 || least != 0).flatMap
        (pathRounds round (least - 1) (most.map (· - 1)) fuel)
      if least == 0 then further ++ [here] else further

/-- The ways through a text from a place, with the groups on the way. -/
def paths (folds : Bool) (text : Octets) : Regex Places → Nat × Captures → List (Nat × Captures)
  | nothing, here => [here]
  | one places, (i, captures) => if places.testBit i then [(i + 1, captures)] else []
  | assert places, (i, captures) => if places.testBit i then [(i, captures)] else []
  | followed a b, here => (paths folds text a here).flatMap (paths folds text b)
  | either a b, here => paths folds text a here ++ paths folds text b here
  | repeated least most a, here =>
    pathRounds (paths folds text a) least most (text.length + least + 1) here
  | group n a, (i, captures) => (paths folds text a (i, captures)).map fun (j, captures) =>
      (j, (n, i, j) :: captures)
  | back n, (i, captures) =>
    match captures.lookup n with
    | none => []
    | some (start, stop) =>
      let fold (t : Octets) : Octets := if folds then t.map Char.toLower else t
      let part := fold ((text.take stop).drop start)
      if part.isPrefixOf (fold (text.drop i)) then [(i + part.length, captures)] else []

end Regex

/-- An expression that is ready to be looked for in a text. -/
structure Placed where
  text : Octets
  size : Nat
  folds : Bool
  regex : Regex Places
  looksBack : Bool

/-- Where an expression was found. -/
structure Match where
  start : Nat
  stop : Nat
  captures : Captures

namespace Placed

/-- Places the tests of an expression in a text. -/
def of (folds lines : Bool) (regex : Regex Probe) (text : Octets) : Placed :=
  ⟨text, text.length, folds, regex.map (Probe.places folds lines text), regex.looksBack⟩

/-- Where matches that begin at a place may end. -/
def endsFrom (p : Placed) (i : Nat) : Places :=
  if p.looksBack then
    ((p.regex.paths p.folds p.text (i, [])).map (·.1)).foldl (fun s e => Nat.lor s (Places.single e)) 0
  else p.regex.ends p.size (Places.single i)

/-- The first place of some neighbours from which a match begins, by halving them. There has to be
one. The fuel bounds the number of steps. -/
def firstStart (p : Placed) : Nat → (low high : Nat) → Nat
  | 0, low, _ => low
  | fuel + 1, low, high =>
    if high ≤ low + 1 then low
    else
      let middle := (low + high) / 2
      if p.regex.ends p.size (Places.range low middle) != 0 then firstStart p fuel low middle
      else firstStart p fuel middle high

/-- The groups of a match. -/
def captures (p : Placed) (i j : Nat) : Captures :=
  if p.looksBack then
    (((p.regex.paths p.folds p.text (i, [])).find? (·.1 == j)).map (·.2)).getD []
  else p.regex.trace p.size i j []

/-- The first match that begins at a place or behind it, and the longest of those that begin there. -/
def search? (p : Placed) (low : Nat) : Option Match :=
  if p.size < low then none
  else
    let found (i : Nat) (s : Places) : Match :=
      let j := Nat.log2 s
      ⟨i, j, p.captures i j⟩
    if p.looksBack then
      (List.range' low (p.size + 1 - low)).findSome? fun i =>
        let s := p.endsFrom i
        if s == 0 then none else some (found i s)
    else if p.regex.ends p.size (Places.range low (p.size + 1)) == 0 then none
    else
      let i := p.firstStart (p.size + 2) low (p.size + 1)
      some (found i (p.endsFrom i))

/-- Whether there is a match anywhere. -/
def occurs (p : Placed) : Bool :=
  if p.looksBack then (p.search? 0).isSome
  else p.regex.ends p.size (Places.range 0 (p.size + 1)) != 0

/-- The part of the text between two places. -/
def between (p : Placed) (i j : Nat) : Octets := (p.text.take j).drop i

/-- What a group of a match holds. The whole match is group zero. -/
def groupText (p : Placed) (m : Match) (n : Nat) : Octets :=
  if n == 0 then p.between m.start m.stop
  else match m.captures.lookup n with
    | some (i, j) => p.between i j
    | none => []

end Placed

end NotebookKernel.Shell
