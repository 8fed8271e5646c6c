import NotebookKernel.Shell.Regex.Reader
import NotebookKernel.Shell.Tool.Flow

/-! # Searching lines for expressions

Lines in which an expression is found are shown, with lines around them if that is asked for. -/

namespace NotebookKernel.Shell.Tool

open Run

/-- What makes a line one of those that are looked for. -/
structure Wanted where
  regexes : List (Regex Probe)
  folds : Bool
  /-- The match has to be a whole line, or a whole word. -/
  wholeLine : Bool
  wholeWord : Bool

namespace Wanted

/-- The place behind which a match ends, out of those that are possible. -/
def stopOf (w : Wanted) (text : Octets) (i : Nat) (stops : Places) : Option Nat :=
  let isWordAt (n : Nat) : Bool := text[n]?.any isWordByte
  let fits (j : Nat) : Bool := (!w.wholeLine || (i == 0 && j == text.length)) &&
    (!w.wholeWord || (!isWordAt j && (i == 0 || !isWordAt (i - 1))))
  (Regex.descending (text.length + 1) stops).find? fits

/-- The first match behind a place, and the longest of those that begin there. -/
def search? (w : Wanted) (placed : List Placed) (line : Octets) (low : Nat) : Option (Nat × Nat) :=
  if w.wholeLine || w.wholeWord then
    (List.range' low (line.length + 1 - low)).findSome? fun i =>
      let stops := placed.foldl (fun s p => Nat.lor s (p.endsFrom i)) 0
      (w.stopOf line i stops).map (i, ·)
  else
    let found := placed.filterMap fun p => (p.search? low).map fun m => (m.start, m.stop)
    found.foldl (fun best (i, j) => match best with
      | none => some (i, j)
      | some (a, b) => if i < a || (i == a && b < j) then some (i, j) else some (a, b)) none

def place (w : Wanted) (line : Octets) : List Placed :=
  w.regexes.map fun r => Placed.of w.folds false r line

def accepts (w : Wanted) (line : Octets) : Bool :=
  let placed := w.place line
  if w.wholeLine || w.wholeWord then (w.search? placed line 0).isSome else placed.any Placed.occurs

/-- The parts of a line that match, none of them empty, with where they begin. The fuel bounds the
length of the line. -/
def parts (w : Wanted) (placed : List Placed) (line : Octets) : Nat → Nat → List (Nat × Octets)
  | 0, _ => []
  | fuel + 1, low =>
    match w.search? placed line low with
    | none => []
    | some (i, j) =>
      if i == j then parts w placed line fuel (i + 1)
      else (i, (line.take j).drop i) :: parts w placed line fuel j

end Wanted

/-- What is shown of the files. -/
inductive Shown where
  | lines
  | parts
  | count
  | filesWith
  | filesWithout
  | nothing
  deriving BEq

/-- How found lines are shown. -/
structure Finding where
  wanted : Wanted
  inverted : Bool
  shown : Shown
  limit : Option Nat
  before : Nat
  after : Nat
  /-- What stands between lines that are not neighbours. -/
  separator : Option Octets
  named : Bool
  numbered : Bool
  offsets : Bool
  /-- Whether a tab separates the line from what stands in front of it. -/
  aligned : Bool
  nameEnd : Option Char
  zeros : Bool
  asText : Bool
  skipsBinary : Bool
  colored : Bool
  /-- How wide numbers are, if they are aligned. -/
  width : Nat := 19

/-- A line with its number and the offset of its start. -/
structure PlacedLine where
  number : Nat
  offset : Nat
  text : Octets
  chosen : Bool := false

namespace Finding

/-- The lines of a text, of which no more than the limit are chosen. Once the limit is reached, only
lines up to the next match are left. -/
def choose (f : Finding) (zeros : Bool) : (count number offset : Nat) → List Octets → List PlacedLine
  | _, _, _, [] => []
  | count, number, offset, line :: rest =>
    let chosen := f.wanted.accepts line != f.inverted
    if chosen && f.limit.any (· ≤ count) then []
    else if !chosen && f.limit.any (· ≤ count) && f.after == 0 then []
    else ⟨number, offset, line, chosen⟩ ::
      choose f zeros (if chosen then count + 1 else count) (number + 1) (offset + line.length + 1) rest

/-- Keeps the lines that are near chosen ones, of which the last one is some lines away. -/
def near (f : Finding) (since : Option Nat) : List PlacedLine → List PlacedLine
  | [] => []
  | line :: rest =>
    if line.chosen then line :: near f (some 1) rest
    else if since.any (· ≤ f.after) || (rest.take f.before).any (·.chosen) then
      line :: near f (since.map (· + 1)) rest
    else near f (since.map (· + 1)) rest

def paint (f : Finding) (code : String) (text : Octets) : Octets :=
  if f.colored then ("\x1b[" ++ code ++ "m\x1b[K").toList ++ text ++ "\x1b[m\x1b[K".toList else text

/-- What stands in front of a line. -/
def front (f : Finding) (title : Octets) (line : PlacedLine) (offset : Nat) : Octets :=
  let mark := if line.chosen then ':' else '-'
  let sign (c : Char) : Octets := f.paint "36" [c]
  let width := if f.aligned then f.width else 0
  (if f.named then f.paint "35" title ++ (match f.nameEnd with
    | some c => [c]
    | none => sign mark) else []) ++
  (if f.numbered then f.paint "32" (padLeft width (Octets.ofNat line.number)) ++ sign mark
    else []) ++
  (if f.offsets then f.paint "32" (padLeft width (Octets.ofNat offset)) ++ sign mark else []) ++
  if f.aligned && (f.named || f.numbered || f.offsets) then ['\t'] else []

/-- A line with its matches in color. -/
def painted (f : Finding) (line : PlacedLine) : Octets :=
  if !f.colored || (line.chosen == f.inverted) then line.text
  else
    let parts := f.wanted.parts (f.wanted.place line.text) line.text (line.text.length + 1) 0
    let (out, last) := parts.foldl (fun (out, last) (i, part) =>
      (out ++ (line.text.take i).drop last ++ f.paint "01;31" part, i + part.length))
      (([] : Octets), 0)
    out ++ line.text.drop last

def showLine (f : Finding) (title : Octets) (line : PlacedLine) : Octets :=
  let stop := [lineEnd f.zeros]
  if f.shown == .parts then
    if !line.chosen || f.inverted then []
    else (f.wanted.parts (f.wanted.place line.text) line.text (line.text.length + 1) 0).flatMap
      fun (i, part) => f.front title line (line.offset + i) ++ f.paint "01;31" part ++ stop
  else f.front title line line.offset ++ f.painted line ++ stop

/-- Shows lines, with separators between those that are not neighbours. -/
def showLines (f : Finding) (title : Octets) (last : Option Nat) : List PlacedLine → Octets
  | [] => []
  | line :: rest =>
    let gap := match f.separator, last with
      | some text, some n =>
        if line.number == n + 1 && n != 0 then [] else f.paint "36" text ++ ['\n']
      | _, _ => []
    gap ++ f.showLine title line ++ showLines f title (some line.number) rest

/-- Shows what is found in a text. Says how many lines were chosen, and whether lines were shown. -/
def searchText (f : Finding) (title text : Octets) (any : Bool) : Run (Nat × Bool) := do
  let isBinary := !f.asText && !f.zeros && text.contains (Char.ofNat 0)
  if isBinary && f.skipsBinary then return (0, any)
  let chosen := f.choose f.zeros 0 1 0 (linesOf f.zeros text)
  let count := (chosen.filter (·.chosen)).length
  let ending (c : Char) : Char := f.nameEnd.getD c
  match f.shown with
  | .nothing => return (count, any)
  | .count =>
    put ((if f.named then f.paint "35" title ++
      (if f.nameEnd.isSome then [ending ':'] else f.paint "36" [':']) else []) ++
      Octets.ofNat count ++ ['\n'])
    return (count, any)
  | .filesWith =>
    if count != 0 then put (f.paint "35" title ++ [ending '\n'])
    return (count, any)
  | .filesWithout =>
    if count == 0 then put (f.paint "35" title ++ [ending '\n'])
    return (count, any)
  | _ =>
    if isBinary then
      if count != 0 then complainOf (title ++ ": binary file matches".toList)
      return (count, any)
    let lines := f.near none chosen
    put (f.showLines title (if any then some 0 else none) lines)
    return (count, any || !lines.isEmpty)

end Finding

/-- The files under a place with the paths that lead to them, in the order of their names. The fuel
bounds the depth. -/
def filesUnder (fuel : Nat) (path : Octets) (place : Location) : Run (List Octets) := do
  match fuel with
  | 0 => return []
  | fuel + 1 =>
    let t ← tree
    let names := ((t.children place).map Octets.ofString).mergeSort Octets.le
    let found ← names.mapM fun name => do
      let inner := place ++ [Octets.decode name]
      let path := if path.isEmpty then name else join path name
      match t.get? inner with
      | some (.directory mode) =>
        if mode.mayRead && mode.mayRun then filesUnder fuel path inner else return [path]
      | some (.file _ _) => return [path]
      | _ => return []
    return found.flatten

def grepUsage : String := "Usage: grep [OPTION]... PATTERNS [FILE]..."

def directoryNames : List (List String) := [["read"], ["recurse"], ["skip"]]

def checkGrepOption (c : Choice) : Option Refusal :=
  match c.key with
  | "A" | "B" | "C" =>
    if (Octets.digitsValue? c.text).isSome then none
    else some ⟨c.text ++ ": invalid context length argument".toList, false, 2⟩
  | "m" =>
    let digits := if c.text.head? == some '-' then c.text.tail else c.text
    if (Octets.digitsValue? digits).isSome then none
    else some ⟨"invalid max count".toList, false, 2⟩
  | "d" =>
    if (wordOf? directoryNames c.text).isSome then none
    else
      let r := wrongWord c.text "--directories" directoryNames
      some { r with text := r.text ++ ('\n' :: grepUsage.toList) }
  | "binary-files" =>
    if ["binary", "text", "without-match"].any (·.toList == c.text) then none
    else some ⟨"unknown binary-files type".toList, false, 2⟩
  | "D" =>
    if ["read", "skip"].any (·.toList == c.text) then none
    else some ⟨"unknown devices method".toList, false, 2⟩
  | _ => none

/-- The expressions that patterns stand for, with warnings. -/
def readPatterns (method : String) (patterns : List Octets) :
    Except String (List (Regex Probe) × List String) := do
  if method == "F" then return (patterns.map Regex.literal, [])
  let mut regexes : List (Regex Probe) := []
  let mut warnings : List String := []
  for pattern in patterns do
    let start := pattern.dropWhile (· != '[')
    if "[:".toList.isPrefixOf start && (start.drop 2).length > 1 &&
        Text.Chars.contains ":]".toList ((start.drop 2).takeWhile (· != ']') ++ [']']) then
      throw "character class syntax is [[:space:]], not [:space:]"
    match Regex.read ⟨method != "G", true, false⟩ pattern with
    | .ok e =>
      regexes := regexes ++ [e.regex]
      warnings := warnings ++ e.warnings
    | .error fault => throw fault.message
  return (regexes, warnings)

def grep (arguments : List Octets) : Run Nat := usingLastName do
  withOptions "A,after-context= B,before-context= C,context= D,devices= E,extended-regexp
    F,fixed-strings,fixed-regexp G,basic-regexp H,with-filename I L,files-without-match P,perl-regexp
    R,dereference-recursive T,initial-tab U,binary V,version X= Z,null a,text b,byte-offset c,count
    d,directories= e,regexp= f,file= h,no-filename i,y,ignore-case l,files-with-matches m,max-count=
    n,line-number o,only-matching q,quiet,silent r,recursive s,no-messages u,unix-byte-offsets
    v,invert-match w,word-regexp x,line-regexp z,null-data binary-files= color,colour? exclude=
    exclude-dir= exclude-from= group-separator= include= label= line-buffered no-group-separator
    no-ignore-case 0 1 2 3 4 5 6 7 8 9" arguments
    (fun o => do
      let methods := (o.choices.filter fun c => ["E", "F", "G", "P"].contains c.key).map (·.key)
      if methods.any (· != methods.headD "") then
        return ← refuseCall ⟨"conflicting matchers specified".toList, false, 2⟩
      let method := methods.headD "G"
      let silent := o.has "s"
      -- The patterns come from options, or else from the first operand.
      let mut patterns : List Octets := []
      for c in o.choices do
        if c.key == "e" then patterns := patterns ++ Text.Chars.splitOn (· == '\n') c.text
        if c.key == "f" then
          match ← readWhole c.text with
          | .ok text => patterns := patterns ++ Octets.lines text
          | .error e =>
            complainAbout c.text e
            return 2
      let fromOperand := !o.has "e" && !o.has "f"
      if fromOperand && o.operands.isEmpty then
        complain grepUsage.toList
        hint
        return 2
      if fromOperand then
        patterns := Text.Chars.splitOn (· == '\n') (o.operands.headD [])
      let operands := if fromOperand then o.operands.tail else o.operands
      match readPatterns method patterns with
      | .error why =>
        complainOf why.toList
        return 2
      | .ok (regexes, warnings) =>
        if o.has "u" then complainOf "warning: --unix-byte-offsets (-u) is obsolete".toList
        for w in warnings do complainOf ("warning: " ++ w).toList
        let number (key : String) : Option Nat := (o.value? key).bind Octets.digitsValue?
        let isDigit (c : Choice) : Bool := c.key.toList.all Char.isDigit
        let context := match (o.choices.filter fun c => isDigit c || c.key == "C").getLast? with
          | none => none
          | some c =>
            if isDigit c then Octets.digitsValue? ((o.choices.filter isDigit).flatMap (·.key.toList))
            else number "C"
        let before := (number "B").or context
        let after := (number "A").or context
        let recursive := o.has "r" || o.has "R" ||
          (o.value? "d").bind (wordOf? directoryNames) == some "recurse"
        let skipsDirectories := (o.value? "d").bind (wordOf? directoryNames) == some "skip"
        let limit : Option Nat := (o.value? "m").bind Octets.digitsValue?
        let shown : Shown :=
          if o.has "q" then .nothing
          else match o.last? ["l", "L"] with
            | some c => if c.key == "l" then .filesWith else .filesWithout
            | none => if o.has "c" then .count else if o.has "o" then .parts else .lines
        let entersDirectory ← if !recursive then pure false
          else if operands.isEmpty then pure true
          else operands.anyM fun root => return match ← find root true with
            | .ok (_, .directory _) => true
            | _ => false
        let named := match o.last? ["H", "h"] with
          | some c => c.key == "H"
          | none => 1 < operands.length || entersDirectory
        let binary : Option Octets := (o.last? ["a", "I", "binary-files"]).map fun c =>
          if c.key == "a" then "text".toList else if c.key == "I" then "without-match".toList else c.text
        let f : Finding := {
          wanted := {
            regexes, folds := o.prevails "i" ["no-ignore-case"], wholeLine := o.has "x"
            wholeWord := o.has "w" }
          inverted := o.has "v", shown
          limit := if shown == .filesWith || shown == .filesWithout || shown == .nothing then
            some (min 1 (limit.getD 1)) else limit
          before := before.getD 0, after := after.getD 0
          separator := if (before.isNone && after.isNone) || o.has "no-group-separator" then none
            else some ((o.value? "group-separator").getD "--".toList)
          named, numbered := o.has "n", offsets := o.has "b", aligned := o.has "T"
          nameEnd := if o.has "Z" then some (Char.ofNat 0) else none
          zeros := o.has "z"
          asText := binary == some "text".toList
          skipsBinary := binary == some "without-match".toList
          colored := (o.choices.filter (·.key == "color")).getLast?.any fun c =>
            c.value == some "always".toList }
        if limit == some 0 then return 1
        let glob (text : Octets) : Pattern := Pattern.ofGlyphs (text.map fun c => ⟨c, false⟩)
        let matchesAny (key : String) (name : Octets) : Bool :=
          (o.values key).any fun text => Pattern.matchesText (glob text) name
        let excluded (path : Octets) : Bool :=
          let name := lastName path
          let dirs := (Text.Chars.splitOn (· == '/') path).dropLast
          matchesAny "exclude" name || (o.has "include" && !matchesAny "include" name) ||
            dirs.any (matchesAny "exclude-dir")
        let mut files : List Octets := []
        if recursive then
          for root in (if operands.isEmpty then [[]] else operands) do
            match ← find (if root.isEmpty then ['.'] else root) true with
            | .ok (place, .directory _) =>
              let under ← filesUnder 4096 root place
              files := files ++ under.filter (!excluded ·)
            | _ => files := files ++ [root]
        else files := orInput operands
        let mut found := false
        let mut failed := false
        let mut any := false
        for file in files do
          let title := if file == ['-'] then (o.value? "label").getD "(standard input)".toList
            else file
          let isOutput : Bool ← match ← outputPlace?, ← find file true with
            | some (output, _), .ok (input, .file _ _) =>
              pure (output == input && file != ['-'] && limit != some 1 &&
                (shown == .lines || shown == .parts || shown == .count))
            | _, _ => pure false
          if isOutput then
            if !silent then complainOf (title ++ ": input file is also the output".toList)
            failed := true
          else
            match ← readInput file with
            | .error e =>
              if !(e == .isADirectory && skipsDirectories) then
                if !silent then complainAbout title e
                failed := true
            | .ok s =>
              let text ← if f.limit.isSome then pure (firstBytes s (s.content.length + 65536))
                else wholeOf s
              let input ← stream? 0
              let isRegular := file != ['-'] || match input with
                | some (.file _) => true
                | _ => false
              let width := if isRegular then (Octets.ofNat s.content.length).length else 19
              let (count, shownAny) ← { f with width }.searchText title text any
              any := shownAny
              if (if shown == .filesWithout then count == 0 else count != 0) then found := true
        if o.has "q" && found then return 0
        return if failed then 2 else if found then 0 else 1)
    checkGrepOption false 2 grepUsage

/-- Searches under an older name, which stands for an option. -/
def grepAs (method : String) (arguments : List Octets) : Run Nat := do
  modifyProcess fun p => { p with name := "grep".toList }
  grep (method.toList :: arguments)

end NotebookKernel.Shell.Tool
