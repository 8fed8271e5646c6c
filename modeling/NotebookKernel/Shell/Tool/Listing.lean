import NotebookKernel.Shell.Tool.Files
import NotebookKernel.Shell.Tool.Sort
import NotebookKernel.Shell.Pattern
import NotebookKernel.Shell.Printing

/-! # Programs that tell about files

They list directories, follow links and tell what is known of a file. -/

namespace NotebookKernel.Shell.Tool

open Run

/-! ## Lists -/

/-- How names are laid out. -/
inductive Arrangement where
  | lines
  | columns
  | rows
  | commas
  | long
  deriving BEq

/-- How directories are listed. -/
structure Listing where
  arrangement : Arrangement
  /-- All names, or all but the two that lead back and up. -/
  all : Option Bool
  itself : Bool
  marksDirectories : Bool
  marksAll : Bool
  marksPrograms : Bool
  recursive : Bool
  reversed : Bool
  order : Char
  /-- How names are quoted. -/
  quoting : String
  hidden : List Pattern
  /-- How wide lines may be, unless there is no bound. -/
  width : Option Nat
  followsAll : Bool
  groupsDirectories : Bool
  colored : Bool
  /-- Whether it is told how many blocks a file takes. -/
  blocks : Bool
  stop : Octets

/-- A name in a list, with what it names. -/
structure Listed where
  name : Octets
  place : Location
  entry : Entry

namespace Listing

/-- The mark that tells the kind of an entry. -/
def mark (l : Listing) (e : Entry) : Octets :=
  match e with
  | .directory _ => if l.marksDirectories || l.marksAll then ['/'] else []
  | .link _ => if l.marksAll then ['@'] else []
  | .file _ mode => if l.marksPrograms && mode &&& 0o111 != 0 then ['*'] else []
  | .tool => if l.marksPrograms then ['*'] else []
  | .device _ => []

def size : Entry → Nat
  | .file content _ => content.length
  | .directory _ => 4096
  | .link target => target.utf8ByteSize
  | .tool => FileTree.programHeader.length
  | .device _ => 0

/-- The blocks of 1024 bytes that an entry takes. -/
def blocksOf : Entry → Nat
  | .file content _ => (content.length + 4095) / 4096 * 4
  | .directory _ => 4
  | .tool => 4
  | .link _ | .device _ => 0

/-- A name between marks, with backslashes before what would not be clear. -/
def marked (mark : Char) (name : Octets) : Octets :=
  mark :: name.flatMap (fun c =>
    if c == mark || c == '\\' then ['\\', c] else if isPrintable c then [c] else escapeOf c) ++ [mark]

/-- A name as it is shown. -/
def shown (l : Listing) (name : Octets) : Octets :=
  match l.quoting with
  | "c" | "clocale" => marked '"' name
  | "c-maybe" => if name.all fun c => isPrintable c && c != '"' && c != '\\' then name
      else marked '"' name
  | "locale" => marked '\'' name
  | "escape" => name.flatMap fun c =>
      if c == ' ' || c == '\\' then ['\\', c] else if isPrintable c then [c] else escapeOf c
  | "shell" => if name.all isPrintable then quoteIfNeeded name else '\'' :: name ++ ['\'']
  | "shell-always" => if name.all isPrintable then quoteAlways name else '\'' :: name ++ ['\'']
  | "shell-escape" => quoteIfNeeded name
  | "shell-escape-always" => quoteAlways name
  | _ => name

/-- The terminals that are known to show colors. -/
def colorTerminals : List String := ["Eterm", "ansi", "*color*", "con[0-9]*x[0-9]*", "cons25",
  "console", "cygwin", "*direct*", "dtterm", "gnome", "hurd", "jfbterm", "konsole", "kterm", "linux",
  "linux-c", "mlterm", "putty", "rxvt*", "screen*", "st", "terminator", "tmux*", "vt100", "vt220",
  "xterm*"]

/-- Whether names may be colored, as far as the environment tells. -/
def mayColor : Run Bool := do
  if !(← valueOf "LS_COLORS").isEmpty || !(← valueOf "COLORTERM").isEmpty then return true
  let terminal ← valueOf "TERM"
  return colorTerminals.any fun name =>
    Pattern.matchesText (Pattern.ofGlyphs (name.toList.map fun c => ⟨c, false⟩)) terminal

/-- The color that an entry is shown in. -/
def color? (e : Entry) : Option String :=
  match e with
  | .directory mode =>
    some (if mode.testBit 9 && mode.testBit 1 then "30;42" else if mode.testBit 1 then "34;42"
      else if mode.testBit 9 then "37;44" else "01;34")
  | .link _ => some "01;36"
  | .file _ mode =>
    if mode.testBit 11 then some "37;41" else if mode.testBit 10 then some "30;43"
    else if mode &&& 0o111 != 0 then some "01;32" else none
  | .tool => some "01;32"
  | .device _ => some "40;33;01"

/-- A text, and how wide it looks. -/
structure Label where
  text : Octets
  width : Nat

/-- The label of an item in a list. -/
def label (l : Listing) (blockWidth : Nat) (i : Listed) : Label :=
  let name := l.shown i.name
  let blocks := if l.blocks then padLeft blockWidth (Octets.ofNat (blocksOf i.entry)) ++ [' '] else []
  let painted := match if l.colored then color? i.entry else none with
    | some code => ("\x1b[" ++ code ++ "m").toList ++ name ++ "\x1b[0m".toList
    | none => name
  let mark := l.mark i.entry
  ⟨blocks ++ painted ++ mark, blocks.length + name.length + mark.length⟩

/-- Puts names in order. -/
def sort (l : Listing) (items : List Listed) : List Listed :=
  let ending (name : Octets) : Octets :=
    let tail := name.reverse.takeWhile (· != '.')
    if tail.length == name.length then [] else '.' :: tail.reverse
  let byName (a b : Listed) : Ordering := Order.bytes a.name b.name
  let order (a b : Listed) : Ordering :=
    match l.order with
    | 'S' => (compare (size b.entry) (size a.entry)).then (byName a b)
    | 'X' => (Order.bytes (ending a.name) (ending b.name)).then (byName a b)
    | 'v' => (Order.version a.name b.name).then (byName a b)
    | 'w' => (compare a.name.length b.name.length).then (byName a b)
    | _ => byName a b
  let sorted := items.mergeSort fun a b =>
    (if l.reversed then order b a else order a b) != .gt
  if l.groupsDirectories then
    sorted.filter (·.entry.isDirectory) ++ sorted.filter (!·.entry.isDirectory)
  else sorted

/-- Blanks and tabs from one column to another. -/
def gap : Nat → (low high : Nat) → Octets
  | 0, _, _ => []
  | fuel + 1, low, high =>
    if high ≤ low then []
    else if (low + 1) / 8 < high / 8 then '\t' :: gap fuel (low + (8 - low % 8)) high
    else ' ' :: gap fuel (low + 1) high

/-- The widths of columns if there are so many of them. -/
def columnWidths (byColumns : Bool) (lengths : List Nat) (count : Nat) : List Nat :=
  let rows := (lengths.length + count - 1) / count
  (List.range count).map fun c =>
    let own := lengths.zipIdx.filter fun (_, n) =>
      if byColumns then n / rows == c else n % count == c
    let gap := if c + 1 == count then 0 else 2
    own.foldl (fun width (n, _) => max width (n + gap)) (min 3 (3 : Nat))

/-- Lays names out in as many columns as fit. -/
def inColumns (l : Listing) (byColumns : Bool) (names : List Label) : Octets :=
  let lengths := names.map Label.width
  let whole := l.width.getD (lengths.foldl (· + · + 3) 3)
  let most := max 1 (min (whole / 3) names.length)
  let fits (count : Nat) : Bool := (columnWidths byColumns lengths count).foldl (· + ·) 0 < whole
  let count := ((List.range most).reverse.map (· + 1)).find? fits |>.getD 1
  let widths := columnWidths byColumns lengths count
  let rows := (names.length + count - 1) / count
  (List.range rows).flatMap fun r =>
    let inRow := (List.range count).filterMap fun c =>
      let n := if byColumns then c * rows + r else r * count + c
      (names[n]?).map fun name => (c, name)
    let line := inRow.zipIdx.foldl (fun (out : Octets × Nat) ((c, name), n) =>
      let start := (widths.take c).foldl (· + ·) 0
      let blank := if n == 0 then []
        else if l.width.isNone then List.replicate (start - out.2) ' '
        else gap (whole + 1) out.2 start
      (out.1 ++ blank ++ name.text, start + name.width)) ([], 0)
    line.1 ++ ['\n']

/-- Lays names out one after another, with commas between them. -/
def withCommas (l : Listing) (names : List Label) : Octets :=
  let fits (width : Nat) : Bool := match l.width with
    | some most => width < most
    | none => true
  let (text, _) := names.zipIdx.foldl (fun (out : Octets × Nat) (name, n) =>
    if n == 0 then (name.text, name.width)
    else if fits (out.2 + 2 + name.width) then
      (out.1 ++ ", ".toList ++ name.text, out.2 + 2 + name.width)
    else (out.1 ++ ",\n".toList ++ name.text, name.width)) ([], 0)
  if names.isEmpty then [] else text ++ ['\n']

/-- Everything about a file in a line. -/
def longLine (l : Listing) (width : Nat) (item : Listed) : Octets :=
  let kind := match item.entry with
    | .directory _ => 'd'
    | .link _ => 'l'
    | .device _ => 'c'
    | _ => '-'
  let target := match item.entry with
    | .link target => " -> ".toList ++ Octets.ofString target
    | _ => []
  kind :: modeLetters item.entry.mode ++ " 1 1000 1000 ".toList ++
    padLeft width (Octets.ofNat (size item.entry)) ++ " Jan  1 00:00 ".toList ++
    (label { l with blocks := false, marksAll := l.marksAll && target.isEmpty } 0 item).text ++ target

/-- Lays out a list of names. -/
def layOut (l : Listing) (items : List Listed) : Octets :=
  let blockWidth := items.foldl (fun n i => max n (Octets.ofNat (blocksOf i.entry)).length) 0
  let names := items.map (l.label blockWidth)
  match l.arrangement with
  | .lines => names.flatMap (·.text ++ l.stop)
  | .columns => l.inColumns true names
  | .rows => l.inColumns false names
  | .commas => l.withCommas names
  | .long =>
    let width := items.foldl (fun n i => max n (Octets.ofNat (size i.entry)).length) 0
    items.flatMap fun i => l.longLine width i ++ ['\n']

/-- What is in a directory, in order. -/
def itemsIn (l : Listing) (place : Location) : Run (List Listed) := do
  let t ← tree
  let names ← namesIn place
  let isHidden (name : Octets) : Bool := l.hidden.any fun p => Pattern.matchesText p name
  let names := names.filter fun name =>
    (l.all.isSome || name.head? != some '.') && !isHidden name
  let items := names.filterMap fun name =>
    let inner := place ++ [Octets.decode name]
    (t.get? inner).map fun e => ⟨name, inner, e⟩
  let self (name : String) (place : Location) : Listed :=
    ⟨name.toList, place, (t.get? place).getD .plainDirectory⟩
  return l.sort (if l.all == some true then self "." place :: self ".." place.dropLast :: items
    else items)

/-- What was shown so far. -/
structure Progress where
  /-- Whether nothing was listed yet. -/
  first : Bool
  /-- Whether colors were used. -/
  painted : Bool := false

/-- Shows a text. The first color is preceded by a sign that takes back all others. -/
def emit (p : Progress) (text : Octets) : Run Progress := do
  if p.painted || !text.contains '\x1b' then
    put text
    return p
  let before := text.takeWhile (· != '\x1b')
  put (before ++ "\x1b[0m".toList ++ text.drop before.length)
  return { p with painted := true }

/-- Lists directories under headings, and those in them if that is asked for. The fuel bounds the
depth. -/
def putDirectories (l : Listing) : Nat → (headed top : Bool) → Progress →
    List (Octets × Location) → Run (Nat × Progress)
  | 0, _, _, p, _ => return (0, p)
  | _, _, _, p, [] => return (0, p)
  | fuel + 1, headed, top, p, (path, place) :: rest => do
    let mode := ((← tree).get? place).map Entry.mode
    if !(mode.getD 0).mayRead then
      complainAbout ("cannot open directory ".toList ++ quoteAlways path) .permissionDenied
      let (status, p) ← putDirectories l fuel headed top p rest
      return (max status (if top then 2 else 1), p)
    let items ← l.itemsIn place
    let heading := if headed then (if p.first then [] else ['\n']) ++ l.shown path ++ [':', '\n']
      else []
    let total := items.foldl (fun n i => n + blocksOf i.entry) 0
    let p ← emit p (heading ++ (if l.arrangement == .long || l.blocks then
      "total ".toList ++ Octets.ofNat total ++ ['\n'] else []) ++ l.layOut items)
    let inner := if !l.recursive then [] else items.filterMap fun i =>
      if i.entry.isDirectory && i.name != ['.'] && i.name != ['.', '.'] then
        some (join path i.name, i.place)
      else none
    let (s, p) ← putDirectories l fuel true false { p with first := false } inner
    let (s', p) ← putDirectories l fuel headed top p rest
    return (max s s', p)

end Listing

namespace Listing

def times : List (List String) := [["always", "yes", "force"], ["never", "no", "none"],
  ["auto", "tty", "if-tty"]]

def quotingStyles : List (List String) := [["literal"], ["shell"], ["shell-always"], ["shell-escape"],
  ["shell-escape-always"], ["c"], ["c-maybe"], ["escape"], ["locale"], ["clocale"]]

/-- The words that an option takes. -/
def wordsFor? (key : String) : Option (List (List String)) :=
  match key with
  | "color" | "hyperlink" | "classify" => some times
  | "sort" => some [["none"], ["time"], ["size"], ["extension"], ["version"], ["width"]]
  | "format" => some [["verbose", "long"], ["commas"], ["horizontal", "across"], ["vertical"],
      ["single-column"]]
  | "indicator-style" => some [["none"], ["slash"], ["file-type"], ["classify"]]
  | "time" => some [["atime", "access", "use"], ["ctime", "status"], ["mtime", "modification"],
      ["birth", "creation"]]
  | "quoting-style" => some quotingStyles
  | _ => none

def check (c : Choice) : Option Refusal :=
  match c.key, c.value, wordsFor? c.key with
  | key, some word, some groups =>
    if (wordOf? groups word).isSome then none else some (wrongWord word ("--" ++ key) groups)
  | "w", some text, _ =>
    if (Octets.digitsValue? text).isSome then none
    else some ⟨"invalid line width: ".toList ++ quote text, false, 2⟩
  | "T", some text, _ =>
    if (Octets.digitsValue? text).isSome then none
    else some ⟨"invalid tab size: ".toList ++ quote text, false, 2⟩
  | "block-size", some text, _ =>
    match Amount.ofText true text with
    | .value _ => none
    | _ => some ⟨"invalid --block-size argument ".toList ++ quote text, false, 2⟩
  | _, _, _ => none

/-- The word that was last given to an option, in full. -/
def chosen (o : Called) (key : String) : Option String :=
  (o.value? key).bind fun word => (wordsFor? key).bind fun groups => wordOf? groups word

end Listing

def ls (arguments : List Octets) : Run Nat :=
  withOptions "a,all A,almost-all author b,escape B,ignore-backups c C color? d,directory D,dired f
    F classify? file-type full-time format= g group-directories-first G,no-group h,human-readable
    H,dereference-command-line hide= hyperlink? i,inode I,ignore= indicator-style= k,kibibytes l
    L,dereference m n,numeric-uid-gid N,literal o p q,hide-control-chars Q,quote-name quoting-style=
    r,reverse R,recursive s,size S sort= t T,tabsize= time= time-style= u U v w,width= x X Z 1
    zero show-control-chars si block-size=" arguments (fun o => do
      let glob (text : Octets) : Pattern := Pattern.ofGlyphs (text.map fun c => ⟨c, false⟩)
      let format := o.last? ["l", "1", "C", "x", "m", "g", "n", "o", "format", "full-time"]
      let arrangement : Arrangement := match format with
        | none => .lines
        | some c => match c.key with
          | "C" => .columns
          | "x" => .rows
          | "m" => .commas
          | "1" => if ["l", "g", "n", "o"].any o.has then .long else .lines
          | "format" => match (Listing.chosen o "format").getD "" with
            | "vertical" => .columns
            | "horizontal" => .rows
            | "commas" => .commas
            | "verbose" => .long
            | _ => .lines
          | _ => .long
      let order := match o.last? ["S", "X", "v", "U", "t", "f", "sort"] with
        | some c => match c.key, (Listing.chosen o "sort").getD "" with
          | "sort", "size" => 'S'
          | "sort", "extension" => 'X'
          | "sort", "version" => 'v'
          | "sort", "width" => 'w'
          | "sort", _ => 'n'
          | key, _ => (key.toList.headD 'n')
        | none => 'n'
      let style := Listing.chosen o "indicator-style"
      if let some text := o.value? "time-style" then
        let bare := (Text.Chars.stripStart? "posix-".toList text).getD text
        if arrangement == .long && text.head? != some '+' &&
            (wordOf? [["full-iso"], ["long-iso"], ["iso"], ["locale"]] bare).isNone then
          return ← refuseCall ⟨"invalid argument ".toList ++ quote text ++ (" for 'time style'\n" ++
            "Valid arguments are:\n  - [posix-]full-iso\n  - [posix-]long-iso\n  - [posix-]iso\n" ++
            "  - [posix-]locale\n  - +FORMAT (e.g., +%H:%M) for a 'date'-style format").toList, true, 2⟩
      let classify := o.has "F" || o.has "classify" || style == some "classify"
      let mayColor ← Listing.mayColor
      let l : Listing := {
        arrangement
        all := (o.last? ["a", "A", "f"]).map fun c => c.key != "A"
        itself := o.has "d"
        marksDirectories := o.has "p" || style == some "slash"
        marksAll := classify || o.has "file-type" || style == some "file-type"
        marksPrograms := classify
        recursive := o.has "R" && !o.has "d"
        reversed := o.has "r", order
        quoting := match o.last? ["Q", "b", "N", "quoting-style"] with
          | some c => if c.key == "Q" then "c" else if c.key == "b" then "escape"
              else if c.key == "N" then "literal" else (Listing.chosen o "quoting-style").getD ""
          | none => "literal"
        hidden := ((o.values "I" ++ (if o.has "a" || o.has "A" then [] else o.values "hide")) ++
          if o.has "B" then ["*~".toList] else []).map glob
        width := match (o.value? "w").bind Octets.digitsValue? with
          | some 0 => none
          | n => some (n.getD 80)
        colored := mayColor && o.has "color" && (Listing.chosen o "color").getD "always" == "always"
        blocks := o.has "s"
        followsAll := o.has "L"
        groupsDirectories := o.has "group-directories-first"
        stop := if o.has "zero" then [Char.ofNat 0] else ['\n'] }
      let follows := !l.itself && arrangement != .long && !classify || l.followsAll || o.has "H"
      let mut missing := false
      let mut plain : List Listed := []
      let mut directories : List Listed := []
      for path in (if o.operands.isEmpty then [['.']] else o.operands) do
        let followed ← find path follows
        let found ← if followed.isOk || l.followsAll || o.has "H" then pure followed
          else find path false
        match found with
        | .error e =>
          complainAbout ("cannot access ".toList ++ quoteAlways path) e
          missing := true
        | .ok (place, e) =>
          if e.isDirectory && !l.itself then directories := directories ++ [⟨path, place, e⟩]
          else plain := plain ++ [⟨path, place, e⟩]
      let p ← Listing.emit { first := plain.isEmpty } (l.layOut (l.sort plain))
      let sorted := (l.sort directories).map fun i => (i.name, i.place)
      let headed := 1 < o.operands.length || l.recursive
      let (status, _) ← l.putDirectories 4096 headed true p sorted
      return if missing then 2 else status) Listing.check false 2

/-! ## Links and real paths -/

/-- Whether the last name of a path, or any, may be missing. -/
inductive Missing where
  | none
  | last
  | any

/-- Where a path leads without links on the way. The fuel bounds the number of links and names. -/
def realPath (t : FileTree) (missing : Missing) : Nat → (links : Nat) → Location → List String →
    Except OsError Location
  | 0, _, _, _ => .error .tooManyLinks
  | _, _, place, [] => .ok place
  | fuel + 1, links, place, name :: rest =>
    if name == "." || name.isEmpty then realPath t missing fuel links place rest
    else if name == ".." then realPath t missing fuel links place.dropLast rest
    else
      let next := place ++ [name]
      let isBelowFile := match t.get? place with
        | some (.directory mode) => !mode.mayRun
        | some _ => true
        | none => false
      match missing, isBelowFile, t.get? next with
      | .any, true, _ => realPath t missing fuel links next rest
      | _, true, _ => .error (if (t.get? place).any Entry.isDirectory then .permissionDenied
          else .notADirectory)
      | _, _, some (.link target) =>
        if links == 0 then .error .tooManyLinks
        else
          let path : Path := ⟨target⟩
          realPath t missing fuel (links - 1) (if path.isAbsolute then [] else place)
            (path.names ++ rest)
      | _, _, some _ => realPath t missing fuel links next rest
      | .none, _, none => .error .notFound
      | .last, _, none => if rest.all (fun n => n.isEmpty || n == ".") then .ok next
          else .error .notFound
      | .any, _, none => realPath t missing fuel links next rest

/-- The real path of a text, seen from the present directory. -/
def resolve (missing : Missing) (text : Octets) : Run (Except OsError Octets) := do
  let path := pathOf text
  if text.isEmpty then return .error .notFound
  let p ← process
  let start := if path.isAbsolute then [] else p.directory
  let t ← tree
  let found := realPath t missing 20000 40 start path.names
  return match found with
    | .error e => .error e
    | .ok place =>
      if text.getLast? == some '/' && (t.get? place).any fun e => !e.isDirectory then
        match missing with
        | .any => .ok (Octets.ofString (Location.path place).text)
        | _ => .error .notADirectory
      else .ok (Octets.ofString (Location.path place).text)

/-- How much may be missing, as options say. -/
def missingOf (o : Called) (keys : List (String × Missing)) : Option Missing :=
  (o.last? (keys.map (·.1))).bind fun c => keys.lookup c.key

def readlink (arguments : List Octets) : Run Nat :=
  withOptions "f,canonicalize e,canonicalize-existing m,canonicalize-missing n,no-newline q,quiet
    s,silent v,verbose z,zero" arguments fun o => do
    if o.operands.isEmpty then return ← missingOperand
    let missing := missingOf o [("f", .last), ("e", .none), ("m", .any)]
    let stop : Octets := if o.has "n" && o.operands.length == 1 then []
      else [lineEnd (o.has "z")]
    if o.has "n" && 1 < o.operands.length then
      complainOf "ignoring --no-newline with multiple arguments".toList
    forEach o.operands fun path => do
      let found : Except OsError Octets ← match missing with
        | some missing => resolve missing path
        | none => do
          match ← find path false with
          | .ok (_, .link target) => pure (.ok (Octets.ofString target))
          | .ok _ => pure (.error .invalidArgument)
          | .error e => pure (.error e)
      match found with
      | .ok text =>
        put (text ++ stop)
        return true
      | .error e =>
        if o.has "v" then complainAbout (quoteName path) e
        return false

/-- A path as it is seen from another one. -/
def relativePath (base path : Octets) : Octets :=
  let names (p : Octets) : List Octets := (Text.Chars.splitOn (· == '/') p).filter (!·.isEmpty)
  let (a, b) := (names base, names path)
  let common := ((a.zip b).takeWhile fun (x, y) => x == y).length
  let parts := List.replicate (a.length - common) ['.', '.'] ++ b.drop common
  if parts.isEmpty then ['.'] else List.intercalate ['/'] parts

def realpath (arguments : List Octets) : Run Nat :=
  withOptions "e,canonicalize-existing m,canonicalize-missing L,logical P,physical q,quiet
    s,strip,no-symlinks z,zero relative-to= relative-base=" arguments fun o => do
    if o.operands.isEmpty then return ← missingOperand
    let missing := (missingOf o [("e", .none), ("m", .any)]).getD .last
    let mut base : Option Octets := none
    let mut limit : Option Octets := none
    for key in ["relative-to", "relative-base"] do
      if let some text := o.value? key then
        match ← resolve missing text with
        | .ok path =>
          if key == "relative-to" then base := some path else limit := some path
        | .error e =>
          complainAbout (quoteName text) e
          return 1
    let isBelow (directory path : Octets) : Bool :=
      directory == ['/'] || directory == path || (directory ++ ['/']).isPrefixOf path
    let outside := match base, limit with
      | some base, some limit => !isBelow limit base
      | _, _ => false
    let start := base.or limit
    forEach o.operands fun path => do
      let found ← if o.has "s" then do
          let p ← process
          let start := if path.head? == some '/' then [] else p.directory
          let place := (pathOf path).names.foldl (fun (l : Location) name =>
            if name == "." then l else if name == ".." then l.dropLast else l ++ [name]) start
          pure (.ok (Octets.ofString (Location.path place).text))
        else resolve missing path
      match found with
      | .ok text =>
        put ((match start with
          | some start => if outside || limit.any (!isBelow · text) then text
              else relativePath start text
          | none => text) ++ [lineEnd (o.has "z")])
        return true
      | .error e =>
        if !o.has "q" then complainAbout (quoteName path) e
        return false

/-! ## Facts -/

/-- What a letter of a format tells about a file, if it is known. -/
def statFact? (path : Octets) (e : Entry) (letter : Char) : Option Octets :=
  let size := Octets.ofNat (Listing.size e)
  let kind : Nat := match e with
    | .directory _ => 0o040000
    | .link _ => 0o120000
    | .device _ => 0o020000
    | _ => 0o100000
  let kindLetter := match e with
    | .directory _ => 'd'
    | .link _ => 'l'
    | .device _ => 'c'
    | _ => '-'
  match letter with
  | 'a' => some (Nat.toDigits 8 e.mode)
  | 'A' => some (kindLetter :: modeLetters e.mode)
  | 'f' => some (Nat.toDigits 16 (kind ||| e.mode))
  | 'F' => some (kindName e)
  | 'h' => some ['1']
  | 'n' => some path
  | 'N' => some (quoteAlways path ++ match e with
    | .link target => " -> ".toList ++ quoteAlways (Octets.ofString target)
    | _ => [])
  | 's' => some size
  | 'b' => some (Octets.ofNat (2 * Listing.blocksOf e))
  | 'B' => some "512".toList
  | 'o' => some "4096".toList
  | 't' | 'T' => some ['0']
  | _ => none

/-- A format of facts with its directives replaced. -/
def statText (escapes : Bool) (path : Octets) (e : Entry) (fuel : Nat) (format : Octets) : Octets :=
  match fuel, format with
  | 0, _ => []
  | _, [] => []
  | fuel + 1, '%' :: rest =>
    let flags := rest.takeWhile "#-+ 0".toList.contains
    let rest := rest.drop flags.length
    let digits := rest.takeWhile Char.isDigit
    match rest.drop digits.length with
    | [] => ['%']
    | '%' :: rest => '%' :: statText escapes path e fuel rest
    | letter :: rest =>
      let width := (Octets.digitsValue? digits).getD 0
      let fact := (statFact? path e letter).getD ['?']
      let fact := if flags.contains '#' && letter == 'a' then '0' :: fact else fact
      let fact := if flags.contains '-' then padRight width fact
        else if flags.contains '0' then List.replicate (width - fact.length) '0' ++ fact
        else padLeft width fact
      fact ++ statText escapes path e fuel rest
  | fuel + 1, '\\' :: rest =>
    if escapes then
      let (c, rest) := Escape.read rest
      c :: statText escapes path e fuel rest
    else '\\' :: statText escapes path e fuel rest
  | fuel + 1, c :: rest => c :: statText escapes path e fuel rest

def cachedNames : List (List String) := [["default"], ["never"], ["always"]]

def stat (arguments : List Octets) : Run Nat :=
  withOptions "L,dereference f,file-system c,format= printf= t,terse cached=" arguments (fun o => do
    if o.operands.isEmpty then return ← missingOperand
    let (format, escapes) := match o.last? ["c", "printf"] with
      | some c => (c.text, c.key == "printf")
      | none => ("%n %s %a".toList, false)
    forEach o.operands fun path => do
      let found : Except OsError (Location × Entry) ← if path == ['-'] && !o.has "f" then do
          match ← stream? 0 with
          | none => pure (.error .badDescriptor)
          | some (.file n) =>
            match ← openFile? n with
            | some f => do
              let e := (← tree).get? f.place
              pure (.ok (f.place, e.getD (.file [] 0o600)))
            | none => pure (.error .badDescriptor)
          | some _ => pure (.ok ([], .device .null))
        else find path (o.has "L" || o.has "f")
      match found with
      | .error e =>
        complainAbout ((if o.has "f" then "cannot read file system information for "
          else "cannot statx ").toList ++ quoteAlways path) e
        return false
      | .ok (_, e) =>
        put (statText escapes path e (format.length + 1) format ++
          if escapes then [] else ['\n'])
        return true)
    fun c =>
      if c.key == "cached" && (wordOf? cachedNames c.text).isNone then
        some (wrongWord c.text "--cached" cachedNames)
      else none

end NotebookKernel.Shell.Tool
