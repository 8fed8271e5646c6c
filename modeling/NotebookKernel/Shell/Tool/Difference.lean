import NotebookKernel.Data.Difference
import NotebookKernel.Shell.Regex.Reader
import NotebookKernel.Shell.Tool.Basic

/-! # Differences of files

Two files are compared line by line, and what is found is shown in one of several forms. -/

namespace NotebookKernel.Shell.Tool

open Difference (Hunk)

/-- What of two lines is compared. -/
structure LineSense where
  foldsCase : Bool := false
  /-- Tabs are the blanks that they stand for. -/
  expandsTabs : Bool := false
  /-- Blanks at the end do not matter. -/
  dropsEnd : Bool := false
  /-- It does not matter how many blanks there are in one place. -/
  joinsSpace : Bool := false
  /-- No blanks matter. -/
  dropsSpace : Bool := false
  /-- Empty lines do not matter. -/
  dropsEmpty : Bool := false
  /-- Lines that match one of these do not matter. -/
  ignored : List (Regex Probe) := []

/-- Puts blanks in place of tabs, from a column on. -/
def spreadTabs (size column : Nat) : Octets → Octets
  | [] => []
  | '\t' :: rest =>
    let width := size - column % size
    List.replicate width ' ' ++ spreadTabs size (column + width) rest
  | '\x08' :: rest => '\x08' :: spreadTabs size (column - 1) rest
  | '\r' :: rest => '\r' :: spreadTabs size 0 rest
  | c :: rest => c :: spreadTabs size (column + 1) rest

/-- White space in one place as one blank. -/
def joinSpace (after : Bool) : Octets → Octets
  | [] => []
  | c :: rest =>
    if isSpace c then (if after then [] else [' ']) ++ joinSpace true rest
    else c :: joinSpace false rest

namespace LineSense

def dropEnd (text : Octets) : Octets := (text.reverse.dropWhile isSpace).reverse

/-- What is compared of a line. -/
def key (s : LineSense) (tabSize : Nat) (line : Octets) : Octets :=
  let line := if s.foldsCase then line.map Char.toLower else line
  if s.dropsSpace then line.filter (!isSpace ·)
  else if s.joinsSpace then dropEnd (joinSpace false line)
  else
    let line := if s.expandsTabs then spreadTabs tabSize 0 line else line
    if s.dropsEnd then dropEnd line else line

/-- Whether the end of a line matters. -/
def keepsEnd (s : LineSense) : Bool := !s.dropsSpace && !s.joinsSpace && !s.dropsEnd

/-- Whether some lines do not matter at all. -/
def dropsLines (s : LineSense) : Bool := s.dropsEmpty || !s.ignored.isEmpty

/-- Whether a line does not matter. -/
def drops (s : LineSense) (line : Octets) : Bool :=
  let bare := if s.keepsEnd then line
    else if s.joinsSpace || s.dropsSpace then line.dropWhile isSpace else dropEnd line
  (s.dropsEmpty && bare.isEmpty) || s.ignored.any fun e => (Placed.of false false e line).occurs

end LineSense

/-- A file as its lines. -/
structure LineFile where
  lines : Array Octets
  /-- Whether the last line has no end. -/
  isOpen : Bool

namespace LineFile

def ofText (text : Octets) : LineFile :=
  ⟨(Octets.lines text).toArray, text.getLast?.any (· != '\n')⟩

def line (f : LineFile) (i : Nat) : Octets := f.lines.getD i []

/-- Whether a line has no end. -/
def opens (f : LineFile) (i : Nat) : Bool := f.isOpen && i + 1 == f.lines.size

/-- The lines, and which of them has no end. -/
def marked (f : LineFile) : List (Octets × Bool) :=
  f.lines.toList.zipIdx.map fun (line, i) => (line, f.opens i)

end LineFile

def agreeing {α : Type} [BEq α] : List α → List α → Nat
  | a :: as, b :: bs => if a == b then agreeing as bs + 1 else 0
  | _, _ => 0

/-- Two files and what is different in them. -/
structure Comparison where
  left : LineFile
  right : LineFile
  sense : LineSense
  hunks : List Hunk

namespace Comparison

/-- Compares two files. Lines that agree at the start and the end stay out, but for some next to what
is different. -/
def of (sense : LineSense) (tabSize horizon : Nat) (strict : Bool) (left right : LineFile) :
    Comparison :=
  let marks (f : LineFile) : List (Octets × Bool) := { f with isOpen := strict && f.isOpen }.marked
  let a := marks left
  let b := marks right
  let start := agreeing a b - horizon
  let a' := a.drop start
  let b' := b.drop start
  let same := if strict && left.isOpen != right.isOpen then 0 else agreeing a'.reverse b'.reverse
  let stop := same - horizon
  let key (item : Octets × Bool) : Octets × Bool :=
    (sense.key tabSize item.1, sense.keepsEnd && item.2)
  let a' := (a'.take (a'.length - stop)).map key
  let b' := (b'.take (b'.length - stop)).map key
  let all := a' ++ b'
  let words (items : List (Octets × Bool)) : Array Nat := (items.map (all.idxOf ·)).toArray
  let hunks := (Difference.of (words a') (words b')).map fun h =>
    { h with left := h.left + start, right := h.right + start }
  ⟨left, right, sense, hunks⟩

/-- Whether no line of a hunk matters. -/
def isIdle (c : Comparison) (h : Hunk) : Bool :=
  c.sense.dropsLines &&
    (List.range' h.left h.deleted).all (fun i => c.sense.drops (c.left.line i)) &&
    (List.range' h.right h.inserted).all fun i => c.sense.drops (c.right.line i)

/-- Whether there is a difference that matters. -/
def differs (c : Comparison) : Bool := c.hunks.any (!c.isIdle ·)

end Comparison

/-! ## Forms -/

/-- The forms in which differences are shown. -/
inductive DiffForm where
  | plain
  | context
  | unified
  | edit
  | forwardEdit
  | numbered
  | beside
  deriving BEq

/-- How differences are shown. -/
structure DiffStyle where
  form : DiffForm := .plain
  context : Nat := 3
  expandsTabs : Bool := false
  initialTab : Bool := false
  tabSize : Nat := 8
  /-- Lines that are shown in front of the hunks behind them. -/
  landmark : Option (Regex Probe) := none
  width : Nat := 130
  leftOnly : Bool := false
  dropsCommon : Bool := false
  dropsBlanks : Bool := false

namespace DiffStyle

def text (s : DiffStyle) (line : Octets) : Octets :=
  if s.expandsTabs then spreadTabs s.tabSize 0 line else line

/-- A line of a file, with a note behind it if it has no end. -/
def line (s : DiffStyle) (f : LineFile) (i : Nat) : Octets :=
  s.text (f.line i) ++
    (if f.opens i then "\n\\ No newline at end of file\n" else "\n").toList

/-- A line of a file with a mark in front of it. -/
def marked (s : DiffStyle) (mark : Octets) (f : LineFile) (i : Nat) : Octets :=
  (if s.dropsBlanks && mark == [' '] && (f.line i).isEmpty then mark
    else mark ++ [if s.initialTab then '\t' else ' ']) ++ s.line f i

/-- A line of a file with nothing around it. -/
def bare (s : DiffStyle) (f : LineFile) (i : Nat) : Octets :=
  s.text (f.line i) ++ if f.opens i then [] else ['\n']

/-- The lines from one on, in some form. -/
def lines (show' : LineFile → Nat → Octets) (f : LineFile) (first count : Nat) : Octets :=
  (List.range' first count).flatMap (show' f)

/-- A range of lines, by the numbers of the first and the last. An empty one has the number of the
line in front of it. -/
def range (between : Char) (first count : Nat) : Octets :=
  if count ≤ 1 then Octets.ofNat (first + count)
  else Octets.ofNat (first + 1) ++ between :: Octets.ofNat (first + count)

/-- The letter of an editor for what happens in a hunk. -/
def letter (h : Hunk) : Char :=
  if h.deleted == 0 then 'a' else if h.inserted == 0 then 'd' else 'c'

def plainHunk (s : DiffStyle) (c : Comparison) (h : Hunk) : Octets :=
  range ',' h.left h.deleted ++ letter h :: range ',' h.right h.inserted ++ '\n' ::
    lines (s.marked ['<']) c.left h.left h.deleted ++
    (if h.deleted != 0 && h.inserted != 0 then "---\n".toList else []) ++
    lines (s.marked ['>']) c.right h.right h.inserted

/-- The lines that an editor reads up to a point. A line that is a point itself is made of two, of
which one is taken away. -/
def inserted (s : DiffStyle) (c : Comparison) (h : Hunk) : Octets :=
  let out := (List.range' h.right h.inserted).foldl
    (fun (found : Octets × Bool) i =>
      let (out, reading) := found
      let out := if reading then out else out ++ "a\n".toList
      if c.right.line i == ['.'] then (out ++ "..\n.\ns/.//\n".toList, false)
      else (out ++ s.text (c.right.line i) ++ ['\n'], true)) ([], true)
  if out.2 then out.1 ++ ".\n".toList else out.1

def editHunk (s : DiffStyle) (c : Comparison) (h : Hunk) : Octets :=
  range ',' h.left h.deleted ++ letter h :: '\n' ::
    if h.inserted == 0 then [] else s.inserted c h

def forwardHunk (s : DiffStyle) (c : Comparison) (h : Hunk) : Octets :=
  letter h :: range ' ' h.left h.deleted ++ '\n' ::
    if h.inserted == 0 then []
    else lines (fun f i => s.text (f.line i) ++ ['\n']) c.right h.right h.inserted ++ ".\n".toList

def numberedHunk (s : DiffStyle) (c : Comparison) (h : Hunk) : Octets :=
  (if h.deleted == 0 then [] else 'd' :: Octets.ofNat (h.left + 1) ++ ' ' ::
    Octets.ofNat h.deleted ++ ['\n']) ++
  if h.inserted == 0 then [] else 'a' :: Octets.ofNat (h.left + h.deleted) ++ ' ' ::
    Octets.ofNat h.inserted ++ '\n' :: lines s.bare c.right h.right h.inserted

/-! ## With context -/

/-- Hunks that are so near to each other that they are shown as one. -/
def groups (s : DiffStyle) (c : Comparison) : List Hunk → List (List Hunk)
  | [] => []
  | h :: rest =>
    match s.groups c rest with
    | (next :: more) :: others =>
      let near := if c.isIdle next then s.context else 2 * s.context + 1
      if next.left - (h.left + h.deleted) < near then (h :: next :: more) :: others
      else [h] :: (next :: more) :: others
    | others => [h] :: others

/-- The lines of a group with those around it: the first one and how many there are. -/
def spread (s : DiffStyle) (first stop size : Nat) : Nat × Nat :=
  let start := first - s.context
  (start, min (stop + s.context) size - start)

/-- The last line in front of a group that is a landmark. -/
def landmarkText (s : DiffStyle) (f : LineFile) (first : Nat) : Octets :=
  match s.landmark with
  | none => []
  | some regex =>
    match (List.range first).reverse.find? fun i => (Placed.of false false regex (f.line i)).occurs
      with
    | none => []
    | some i =>
      let text := ((f.line i).dropWhile isSpace).take 40
      ' ' :: LineSense.dropEnd text

/-- The lines of one file in a group. Those that change have a mark, by whether the hunk changes the
other file as well. -/
def contextLines (s : DiffStyle) (f : LineFile) (mark : Char) (hunks : List (Nat × Nat × Bool))
    (first count : Nat) : Octets :=
  (List.range' first count).flatMap fun i =>
    let inside := hunks.find? fun (start, length, _) => start ≤ i && i < start + length
    let mark := match inside with
      | none => ' '
      | some (_, _, both) => if both then '!' else mark
    s.marked [mark] f i

def contextGroup (s : DiffStyle) (c : Comparison) (group : List Hunk) : Octets :=
  match group.head?, group.getLast? with
  | some h, some last =>
    let (i, m) := s.spread h.left (last.left + last.deleted) c.left.lines.size
    let (j, n) := s.spread h.right (last.right + last.inserted) c.right.lines.size
    let old := group.map fun h => (h.left, h.deleted, h.inserted != 0)
    let new := group.map fun h => (h.right, h.inserted, h.deleted != 0)
    "***************".toList ++ s.landmarkText c.left i ++ "\n*** ".toList ++ range ',' i m ++
      " ****\n".toList ++
      (if group.any (·.deleted != 0) then s.contextLines c.left '-' old i m else []) ++
      "--- ".toList ++ range ',' j n ++ " ----\n".toList ++
      if group.any (·.inserted != 0) then s.contextLines c.right '+' new j n else []
  | _, _ => []

/-- A range of lines, by the number of the first and how many there are. -/
def unifiedRange (first count : Nat) : Octets :=
  if count == 0 then Octets.ofNat first ++ ",0".toList
  else if count == 1 then Octets.ofNat (first + 1)
  else Octets.ofNat (first + 1) ++ ',' :: Octets.ofNat count

/-- A line behind a mark. -/
def tight (s : DiffStyle) (mark : Char) (f : LineFile) (i : Nat) : Octets :=
  let blank := mark == ' '
  (if blank then (if s.dropsBlanks && (f.line i).isEmpty then [] else
      [if s.initialTab then '\t' else ' '])
    else mark :: if s.initialTab then ['\t'] else []) ++ s.line f i

/-- The hunks of a group and what is between them, from a line on up to another. -/
def unifiedLines (s : DiffStyle) (c : Comparison) (i stop : Nat) : List Hunk → Octets
  | [] => lines (s.tight ' ') c.left i (stop - i)
  | h :: rest =>
    lines (s.tight ' ') c.left i (h.left - i) ++
      lines (s.tight '-') c.left h.left h.deleted ++
      lines (s.tight '+') c.right h.right h.inserted ++
      s.unifiedLines c (h.left + h.deleted) stop rest

def unifiedGroup (s : DiffStyle) (c : Comparison) (group : List Hunk) : Octets :=
  match group.head?, group.getLast? with
  | some h, some last =>
    let (i, m) := s.spread h.left (last.left + last.deleted) c.left.lines.size
    let (j, n) := s.spread h.right (last.right + last.inserted) c.right.lines.size
    "@@ -".toList ++ unifiedRange i m ++ " +".toList ++ unifiedRange j n ++ " @@".toList ++
      s.landmarkText c.left i ++ '\n' :: s.unifiedLines c i (i + m) group
  | _, _ => []

/-! ## Side by side -/

/-- The width of one side, and the column where the other one begins. -/
def columns (s : DiffStyle) : Nat × Nat :=
  let tab := if s.expandsTabs then 1 else s.tabSize
  let sum := tab + 3
  let middle := s.width / 2 + sum / 2 + (if s.width % 2 == 1 && sum % 2 == 1 then 1 else 0)
  let column := middle - middle % tab
  if column ≤ 3 || s.width ≤ column then (0, s.width)
  else
    let half := min (column - 3) (s.width - column)
    if half == 0 then (0, s.width) else (half, column)

/-- What leads from a column to another. -/
def gap (s : DiffStyle) (first last : Nat) : Octets :=
  let tab := s.tabSize
  let tabs := if s.expandsTabs then 0 else last / tab - first / tab
  let column := if tabs == 0 then first else last / tab * tab
  List.replicate tabs '\t' ++ List.replicate (last - column) ' '

/-- As much of a line as fits, and the column that it leads to. -/
def halfLine (s : DiffStyle) (indent bound : Nat) : (position shown : Nat) → Octets → Octets × Nat
  | _, shown, [] => ([], shown)
  | position, shown, c :: rest =>
    let add (text : Octets) (position shown : Nat) : Octets × Nat :=
      let (more, column) := s.halfLine indent bound position shown rest
      (text ++ more, column)
    match c with
    | '\t' =>
      let width := s.tabSize - position % s.tabSize
      let stop := shown + width
      if position != shown then add [] (position + width) shown
      else if s.expandsTabs then
        let stop := min stop bound
        add (List.replicate (stop - shown) ' ') (position + width) (max stop shown)
      else if stop < bound then add ['\t'] (position + width) stop
      else add [] (position + width) shown
    | '\r' => add ('\r' :: s.gap 0 indent) 0 0
    | '\x08' =>
      if position == 0 || bound < position then add [] (position - 1) shown
      else if shown ≤ position - 1 then
        add (List.replicate (position - 1 - shown) ' ') (position - 1) (position - 1)
      else add ['\x08'] (position - 1) (position - 1)
    | c =>
      if c < ' ' || c == '\x7f' then add (if position < bound then [c] else []) position shown
      else if position < bound then add [c] (position + 1) (position + 1)
      else add [] (position + 1) shown

/-- A line with what stands on both sides and a mark between them. -/
def besideLine (s : DiffStyle) (c : Comparison) (left : Option Nat) (mark : Char)
    (right : Option Nat) : Octets :=
  let (half, column) := s.columns
  let ends (f : LineFile) (i : Nat) : Bool := !f.opens i
  let (shown, place) : Octets × Nat := match left with
    | some i => s.halfLine 0 half 0 0 (c.left.line i)
    | none => ([], 0)
  let leftEnds := left.any (ends c.left)
  let rightEnds := right.any (ends c.right)
  let mark := if mark == '|' && leftEnds != rightEnds then (if leftEnds then '/' else '\\')
    else mark
  let middle := (half + column - 1) / 2
  let (between, place) : Octets × Nat :=
    if mark == ' ' then ([], place) else (s.gap place middle ++ [mark], max place middle + 1)
  let behind := match right with
    | some i =>
      let text := c.right.line i
      if text.isEmpty then []
      else s.gap place column ++ (s.halfLine (max place column) half 0 0 text).1
    | none => []
  shown ++ between ++ behind ++ if leftEnds || rightEnds then ['\n'] else []

/-- The lines that both files have between two hunks. -/
def besideCommon (s : DiffStyle) (c : Comparison) (i j count : Nat) : Octets :=
  if s.dropsCommon then []
  else (List.range count).flatMap fun n =>
    if s.leftOnly then s.besideLine c (some (i + n)) '(' none
    else s.besideLine c (some (i + n)) ' ' (some (j + n))

def beside (s : DiffStyle) (c : Comparison) (i j : Nat) : List Hunk → Octets
  | [] => s.besideCommon c i j (c.left.lines.size - i)
  | h :: rest =>
    let both := min h.deleted h.inserted
    s.besideCommon c i j (h.left - i) ++
      ((List.range both).flatMap fun n =>
        s.besideLine c (some (h.left + n)) '|' (some (h.right + n))) ++
      ((List.range' (h.right + both) (h.inserted - both)).flatMap fun n =>
        s.besideLine c none '>' (some n)) ++
      ((List.range' (h.left + both) (h.deleted - both)).flatMap fun n =>
        s.besideLine c (some n) '<' none) ++
      s.beside c (h.left + h.deleted) (h.right + h.inserted) rest

/-- What is different in two files, behind a header if the form has one. -/
def render (s : DiffStyle) (c : Comparison) (header : Octets) : Octets :=
  let active := c.hunks.filter (!c.isIdle ·)
  let grouped (shown : List Hunk → Octets) : Octets :=
    let groups := (s.groups c c.hunks).filter (·.any (!c.isIdle ·))
    if groups.isEmpty then [] else header ++ groups.flatMap shown
  match s.form with
  | .plain => active.flatMap (s.plainHunk c)
  | .edit => active.reverse.flatMap (s.editHunk c)
  | .forwardEdit => active.flatMap (s.forwardHunk c)
  | .numbered => active.flatMap (s.numberedHunk c)
  | .context => grouped (s.contextGroup c)
  | .unified => grouped (s.unifiedGroup c)
  | .beside => s.beside c 0 0 active

end DiffStyle

end NotebookKernel.Shell.Tool
