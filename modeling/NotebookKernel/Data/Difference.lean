/-! # The difference of two sequences

Which elements of two sequences have to go so that the same is left of both. Few elements go: the
search follows the diagonals of the table of both sequences from both ends until it meets itself, and
does the same with the parts in front of and behind that place. Afterwards runs of elements that go
are moved to where they read best. Elements are numbers. -/

namespace NotebookKernel.Difference

/-- A part of two sequences, between two places in each. -/
structure Part where
  left : Int
  leftEnd : Int
  right : Int
  rightEnd : Int

/-- How far a search has come along the diagonals between two of them. Diagonal `d` holds the places
that are `d` further in the first sequence than in the second. -/
structure Front where
  reach : Array Int
  low : Int
  high : Int

/-- Two sequences. -/
structure Pair where
  first : Array Nat
  second : Array Nat

namespace Pair

def same (p : Pair) (x y : Int) : Bool := p.first[x.toNat]? == p.second[y.toNat]?

/-- Where a diagonal is kept. -/
def slot (p : Pair) (d : Int) : Nat := (d + p.second.size + 1).toNat

def reached (p : Pair) (f : Front) (d : Int) : Int := f.reach.getD (p.slot d) 0

def set (p : Pair) (f : Front) (d x : Int) : Front :=
  { f with reach := f.reach.setIfInBounds (p.slot d) x }

/-- Goes forward as long as the sequences agree. -/
def slide (p : Pair) (part : Part) (d : Int) : Nat → Int → Int
  | 0, x => x
  | fuel + 1, x =>
    if x < part.leftEnd && x - d < part.rightEnd && p.same x (x - d) then
      p.slide part d fuel (x + 1)
    else x

/-- Goes back as long as the sequences agree. -/
def slideBack (p : Pair) (part : Part) (d : Int) : Nat → Int → Int
  | 0, x => x
  | fuel + 1, x =>
    if part.left < x && part.right < x - d && p.same (x - 1) (x - d - 1) then
      p.slideBack part d fuel (x - 1)
    else x

/-- A value that is beyond every place. -/
def far (p : Pair) : Int := p.first.size + p.second.size + 2

/-- Widens a search by a diagonal at both ends, or narrows it where there are no more. -/
def widen (p : Pair) (part : Part) (beyond : Int) (f : Front) : Front :=
  let f := if part.left - part.rightEnd < f.low then
      p.set { f with low := f.low - 1 } (f.low - 2) beyond else { f with low := f.low + 1 }
  if f.high < part.leftEnd - part.right then
    p.set { f with high := f.high + 1 } (f.high + 2) beyond else { f with high := f.high - 1 }

/-- Takes a search forward by one step on a number of diagonals, unless it meets another one. -/
def advance (p : Pair) (part : Part) (meets : Bool) (other : Front) :
    Nat → Int → Front → Except (Int × Int) Front
  | 0, _, f => .ok f
  | count + 1, d, f =>
    let start := max (p.reached f (d - 1) + 1) (p.reached f (d + 1))
    let x := p.slide part d p.first.size start
    if meets && other.low ≤ d && d ≤ other.high && p.reached other d ≤ x then .error (x, x - d)
    else p.advance part meets other count (d - 2) (p.set f d x)

/-- Takes a search back by one step on a number of diagonals, unless it meets another one. -/
def retreat (p : Pair) (part : Part) (meets : Bool) (other : Front) :
    Nat → Int → Front → Except (Int × Int) Front
  | 0, _, f => .ok f
  | count + 1, d, f =>
    let start := min (p.reached f (d - 1)) (p.reached f (d + 1) - 1)
    let x := p.slideBack part d p.first.size start
    if meets && other.low ≤ d && d ≤ other.high && x ≤ p.reached other d then .error (x, x - d)
    else p.retreat part meets other count (d - 2) (p.set f d x)

/-- How many diagonals a step of a search works on. -/
def count (f : Front) : Nat := ((f.high - f.low) / 2 + 1).toNat

/-- Where two searches meet, one from each end of a part. The fuel bounds the number of steps. -/
def meeting (p : Pair) (part : Part) (odd : Bool) : Nat → Front → Front → Int × Int
  | 0, _, _ => (part.leftEnd, part.right)
  | fuel + 1, forward, backward =>
    let forward := p.widen part (-1) forward
    match p.advance part odd backward (count forward) forward.high forward with
    | .error place => place
    | .ok forward =>
      let backward := p.widen part p.far backward
      match p.retreat part (!odd) forward (count backward) backward.high backward with
      | .error place => place
      | .ok backward => p.meeting part odd fuel forward backward

/-- A place in the middle of a part that a shortest way goes through. -/
def middle (p : Pair) (part : Part) : Int × Int :=
  let blank := Array.replicate (p.first.size + p.second.size + 3) 0
  let start := part.left - part.right
  let stop := part.leftEnd - part.rightEnd
  let forward := p.set ⟨blank, start, start⟩ start part.left
  let backward := p.set ⟨blank, stop, stop⟩ stop part.leftEnd
  p.meeting part ((start - stop) % 2 != 0) (p.first.size + p.second.size + 1) forward backward

/-- The part without what agrees at its start and its end. -/
def trim (p : Pair) (part : Part) : Part :=
  let d := part.left - part.right
  let x := p.slide part d p.first.size part.left
  let part := { part with left := x, right := x - d }
  let d := part.leftEnd - part.rightEnd
  let x := p.slideBack part d p.first.size part.leftEnd
  { part with leftEnd := x, rightEnd := x - d }

/-- The elements of a part that have to go, in both sequences. The fuel bounds the depth. -/
def search (p : Pair) : Nat → Part → List Nat × List Nat
  | 0, _ => ([], [])
  | fuel + 1, part =>
    let part := p.trim part
    let between (low high : Int) : List Nat := List.range' low.toNat (high - low).toNat
    if part.left == part.leftEnd then ([], between part.right part.rightEnd)
    else if part.right == part.rightEnd then (between part.left part.leftEnd, [])
    else
      let (x, y) := p.middle part
      let (a, b) := p.search fuel { part with leftEnd := x, rightEnd := y }
      let (c, d) := p.search fuel { part with left := x, right := y }
      (a ++ c, b ++ d)

end Pair

/-- The elements that two sequences do not share stay out of the search. The rest is searched with the
places where it was. -/
def changes (a b : Array Nat) : Array Bool × Array Bool :=
  let kept (a b : Array Nat) : List (Nat × Nat) :=
    (a.toList.zipIdx).filter fun (word, _) => b.contains word
  let left := kept a b
  let right := kept b a
  let p : Pair := ⟨(left.map (·.1)).toArray, (right.map (·.1)).toArray⟩
  let (gone, come) := p.search (p.first.size + p.second.size + 1)
    ⟨0, p.first.size, 0, p.second.size⟩
  let flags (a : Array Nat) (kept : List (Nat × Nat)) (changed : List Nat) : Array Bool :=
    let places := (kept.map (·.2)).toArray
    let unchanged := places.foldl (fun flags i => flags.setIfInBounds i false)
      (Array.replicate a.size true)
    changed.foldl (fun flags i => flags.setIfInBounds (places.getD i a.size) true) unchanged
  (flags a left gone, flags b right come)

/-! ## Moving runs -/

/-- A run of changed elements that is being moved, with the place that its end has in the other
sequence. -/
structure Moving where
  changed : Array Bool
  start : Nat
  stop : Nat
  across : Nat
  /-- The last end of the run that stood across from changes in the other sequence. -/
  facing : Option Nat := none

namespace Moving

def isSet (flags : Array Bool) (i : Nat) : Bool := flags.getD i false

/-- The first place from one on that is not set. -/
def skip (flags : Array Bool) : Nat → Nat → Nat
  | 0, i => i
  | fuel + 1, i => if isSet flags i then skip flags fuel (i + 1) else i

/-- The last place below one that is not set. -/
def skipBack (flags : Array Bool) : Nat → Nat → Nat
  | 0, i => i
  | fuel + 1, i => if isSet flags (i - 1) then skipBack flags fuel (i - 1) else i - 1

/-- The start of a run that goes on in front of a place. -/
def runStart (flags : Array Bool) : Nat → Nat
  | 0 => 0
  | i + 1 => if isSet flags i then runStart flags i else i + 1

/-- Moves the run back by one element and over the changes of the other sequence. -/
def stepBack (other : Array Bool) (m : Moving) : Moving :=
  let changed := (m.changed.setIfInBounds (m.start - 1) true).setIfInBounds (m.stop - 1) false
  { m with
    changed, start := runStart changed (m.start - 1), stop := m.stop - 1
    across := skipBack other other.size m.across }

/-- Moves the run back as long as what is in front of it equals its end. -/
def back (words : Array Nat) (other : Array Bool) : Nat → Moving → Moving
  | 0, m => m
  | fuel + 1, m =>
    if 0 < m.start && words[m.start - 1]? == words[m.stop - 1]? then
      back words other fuel (m.stepBack other)
    else m

/-- Moves the run on as long as what is behind it equals its start. -/
def on (words : Array Nat) (other : Array Bool) : Nat → Moving → Moving
  | 0, m => m
  | fuel + 1, m =>
    if m.stop < words.size && words[m.start]? == words[m.stop]? then
      let changed := (m.changed.setIfInBounds m.start false).setIfInBounds m.stop true
      let stop := skip changed changed.size (m.stop + 1)
      let across := skip other other.size (m.across + 1)
      let facing := if m.across + 1 < across then some stop else m.facing
      on words other fuel { changed, start := m.start + 1, stop, across, facing }
    else m

/-- Moves the run to both sides until it no longer grows. -/
def settle (words : Array Nat) (other : Array Bool) : Nat → Moving → Moving
  | 0, m => m
  | fuel + 1, m =>
    let length := m.stop - m.start
    let m := back words other words.size m
    let facing := if 0 < m.across && isSet other (m.across - 1) then some m.stop else none
    let m := on words other words.size { m with facing }
    if m.stop - m.start == length then m else settle words other fuel m

/-- Moves the run back to where it stood across from changes. -/
def face (other : Array Bool) (facing : Nat) : Nat → Moving → Moving
  | 0, m => m
  | fuel + 1, m =>
    if facing < m.stop then
      face other facing fuel { m with
        changed := (m.changed.setIfInBounds (m.start - 1) true).setIfInBounds (m.stop - 1) false
        start := m.start - 1, stop := m.stop - 1, across := skipBack other other.size m.across }
    else m

/-- Moves all runs behind a place, which has a place across in the other sequence. -/
def all (words : Array Nat) (other : Array Bool) : Nat → Nat → Nat → Array Bool → Array Bool
  | 0, _, _, changed => changed
  | fuel + 1, i, j, changed =>
    if words.size ≤ i then changed
    else if !isSet changed i then
      all words other fuel (i + 1) (skip other other.size j + 1) changed
    else
      let m : Moving := {
        changed, start := i, stop := skip changed changed.size i
        across := skip other other.size j }
      let m := settle words other (words.size + 1) m
      let m := match m.facing with
        | some facing => face other facing words.size m
        | none => m
      all words other fuel m.stop m.across m.changed

end Moving

/-! ## Hunks -/

/-- A place where so many elements of one sequence stand for so many of the other. -/
structure Hunk where
  left : Nat
  right : Nat
  deleted : Nat
  inserted : Nat
  deriving Inhabited

/-- The changes as hunks, from two places on. The fuel bounds their number. -/
def hunks (a b : Array Bool) : Nat → Nat → Nat → List Hunk
  | 0, _, _ => []
  | fuel + 1, i, j =>
    if a.size ≤ i && b.size ≤ j then []
    else if Moving.isSet a i || Moving.isSet b j then
      let m := Moving.skip a a.size i
      let n := Moving.skip b b.size j
      ⟨i, j, m - i, n - j⟩ :: hunks a b fuel m n
    else hunks a b fuel (i + 1) (j + 1)

/-- The hunks that make the second sequence of the first. -/
def of (a b : Array Nat) : List Hunk :=
  let (left, right) := changes a b
  let left := Moving.all a right (2 * a.size + 2) 0 0 left
  let right := Moving.all b left (2 * b.size + 2) 0 0 right
  hunks left right (a.size + b.size + 1) 0 0

end NotebookKernel.Difference
