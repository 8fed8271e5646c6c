import NotebookKernel.Shell.Regex.Reader
import NotebookKernel.Shell.Tool.Listing

/-! # Searching directories

`find` goes through directories and asks of every file whether an expression holds. Some conditions
do something when they are asked, such as showing the path or running a program. -/

namespace NotebookKernel.Shell.Tool

open Run

/-- A number as a condition gives it: exactly, or more, or less than that. -/
structure Bounded where
  sign : Option Char
  number : Nat

def Bounded.holds (b : Bounded) (n : Nat) : Bool :=
  match b.sign with
  | some '+' => b.number < n
  | some _ => n < b.number
  | none => n == b.number

def Bounded.read? (text : Octets) : Option Bounded :=
  let (sign, digits) : Option Char × Octets := match text with
    | '+' :: rest => (some '+', rest)
    | '-' :: rest => (some '-', rest)
    | rest => (none, rest)
  (Octets.digitsValue? digits).map (⟨sign, ·⟩)

/-- What is asked of a file. -/
inductive Criterion where
  | always (holds : Bool)
  | all (a b : Criterion)
  | any (a b : Criterion)
  /-- Both are asked, and the second counts. -/
  | both (a b : Criterion)
  | unless (a : Criterion)
  | name (folds : Bool) (p : Pattern)
  | path (folds : Bool) (p : Pattern)
  | target (folds : Bool) (p : Pattern)
  | regex (folds : Bool) (r : Regex Probe)
  | kinds (letters : List Char)
  /-- What a link leads to is of one of these kinds. -/
  | targetKinds (letters : List Char)
  /-- The file lies at this place. -/
  | at (place : Location)
  | size (unit : Nat) (b : Bounded)
  | links (b : Bounded)
  | empty
  | mode (sign : Option Char) (m : Mode)
  | may (bit : Mode → Bool)
  | print (stop : Char)
  | printf (format : Octets)
  | printInto (file : Octets) (stop : Char)
  | printfInto (file format : Octets)
  | prune
  | quit
  | delete
  /-- Runs a program with the path in the place of braces, and asks before if that is wanted. -/
  | run (asks inPlace : Bool) (words : List Octets)
  /-- Runs a program with many paths at once, all of which are collected under a number. -/
  | runAll (number : Nat) (inPlace : Bool) (words : List Octets)

/-- Whether a condition does something that takes the place of showing the path. -/
def Criterion.acts : Criterion → Bool
  | .all a b | .any a b | .both a b => a.acts || b.acts
  | .unless a => a.acts
  | .print _ | .printf _ | .printInto _ _ | .printfInto _ _ | .delete | .run _ _ _
  | .runAll _ _ _ => true
  | _ => false

/-! ## Reading -/

/-- What an expression says besides its conditions. -/
structure SearchPlan where
  minDepth : Nat := 0
  maxDepth : Option Nat := none
  insideFirst : Bool := false
  follows : Option Bool := none
  /-- How many programs are run with collected paths. -/
  collections : Nat := 0
  /-- The files that something is printed into. -/
  outputs : List Octets := []
  warnings : List Octets := []
  dialect : Regex.Dialect := ⟨false, true, true⟩
  /-- Where paths lead. -/
  locate : Octets → Except OsError Location
  prunes : Bool := false
  deletes : Bool := false
  /-- Whether it was asked for that directories come last. -/
  deep : Bool := false

abbrev Reader := EStateM Octets (List Octets × SearchPlan)

namespace Reader

def peek : Reader (Option Octets) := return (← get).1.head?

def skip : Reader Unit := modify fun (words, plan) => (words.tail, plan)

def change (f : SearchPlan → SearchPlan) : Reader Unit := modify fun (words, plan) => (words, f plan)

/-- The argument of a condition. -/
def argument (name : Octets) : Reader Octets := do
  match ← peek with
  | some word =>
    skip
    return word
  | none => throw ("missing argument to `".toList ++ name ++ ['\''])

def glob (text : Octets) : Pattern := Pattern.ofGlyphs (text.map fun c => ⟨c, false⟩)

def foldedGlob (folds : Bool) (text : Octets) : Pattern :=
  glob (if folds then text.map Char.toLower else text)

/-- A count of directories. -/
def depth (name : Octets) : Reader Nat := do
  let text ← argument name
  match Octets.digitsValue? text with
  | some n => return n
  | none => throw ("Expected a positive decimal integer argument to ".toList ++ name ++
      ", but got ".toList ++ quote text)

def bounded (name : Octets) : Reader Bounded := do
  let text ← argument name
  match Bounded.read? text with
  | some b => return b
  | none => throw ("invalid argument `".toList ++ text ++ "' to `".toList ++ name ++ ['\''])

/-- Where a file lies that others are compared with. -/
def placeOf (name : Octets) : Reader Location := do
  let path ← argument name
  match (← get).2.locate path with
  | .ok place => return place
  | .error e => throw (quoteAlways path ++ ": ".toList ++ reason e)

/-- The letters that stand for something in formats. -/
def formatLetters : List Char := "abBcCdDfFgGhHiklmMnpPsStTuUyYZ".toList

/-- Notes what is wrong with a format. The fuel bounds its length. -/
def checkFormat : Nat → Octets → Reader Unit
  | 0, _ => return
  | fuel + 1, text => do
    let warn (what : Octets) : Reader Unit :=
      change fun plan => { plan with warnings := plan.warnings ++ ["warning: ".toList ++ what] }
    match text with
    | [] => return
    | '%' :: rest =>
      let spec := rest.takeWhile "-+ 0#.123456789".toList.contains
      match rest.drop spec.length with
      | [] => throw "error: % at end of format string".toList
      | '%' :: rest => checkFormat fuel rest
      | c :: rest =>
        if c == '(' || c == '[' || c == '\x7b' then
          throw ("error: the format directive `%".toList ++ c :: "' is reserved for future use".toList)
        if !formatLetters.contains c then
          warn ("unrecognized format directive `%".toList ++ [c, '\''])
        checkFormat fuel rest
    | '\\' :: c :: rest =>
      if !"abcfnrtv\\01234567".toList.contains c then
        warn ("unrecognized escape `\\".toList ++ [c, '\''])
      checkFormat fuel rest
    | ['\\'] => warn "escape `\\' followed by nothing at all".toList
    | _ :: rest => checkFormat fuel rest

def readFormat (name : Octets) : Reader Octets := do
  let text ← argument name
  checkFormat (text.length + 1) text
  return text

/-- A file that something is printed into. -/
def output (name : Octets) : Reader Octets := do
  let file ← argument name
  change fun plan => { plan with outputs := plan.outputs ++ [file] }
  return file

def dialects : List (String × Regex.Dialect) :=
  let basic : Regex.Dialect := ⟨false, false, false⟩
  let strict : Regex.Dialect := ⟨true, false, false⟩
  let lenient : Regex.Dialect := ⟨true, true, false⟩
  [("findutils-default", ⟨false, true, true⟩), ("ed", basic), ("emacs", ⟨false, true, true⟩),
    ("gnu-awk", lenient), ("grep", ⟨false, true, false⟩), ("posix-awk", strict), ("awk", lenient),
    ("posix-basic", basic), ("posix-egrep", lenient), ("egrep", lenient),
    ("posix-extended", strict), ("posix-minimal-basic", ⟨false, true, false⟩), ("sed", basic)]

/-- The words up to a semicolon, or up to a plus sign behind braces. -/
def program (name : Octets) : Reader (List Octets × Bool) := do
  let (words, plan) ← get
  let isEnd (n : Nat) (word : Octets) : Bool :=
    word == [';'] || (word == ['+'] && 0 < n && words[n - 1]? == some "{}".toList)
  match words.zipIdx.find? fun (word, n) => isEnd n word with
  | none => throw ("missing argument to `".toList ++ name ++ ['\''])
  | some (stop, n) =>
    if n == 0 then throw ("invalid argument `;' to `".toList ++ name ++ ['\''])
    if stop == ['+'] && 1 < (words.take n).count "{}".toList then
      throw ("Only one instance of \x7b\x7d is supported with ".toList ++ name ++ " ... +".toList)
    set (words.drop (n + 1), plan)
    return (words.take n, stop == ['+'])

def kindLetters (name : Octets) : Reader (List Char) := do
  let text ← argument name
  if text.isEmpty then
    throw ("Arguments to ".toList ++ name ++ " should contain at least one letter".toList)
  let parts := Text.Chars.splitOn (· == ',') text
  for part in parts do
    match part with
    | [] => throw ("Last file type in list argument to ".toList ++ name ++
        " is missing, i.e., list is ending on: ','".toList)
    | c :: more =>
      if !"bcdpflsD".toList.contains c then
        throw ("Unknown argument to ".toList ++ name ++ ": ".toList ++ [c])
      if !more.isEmpty then
        throw ("Must separate multiple arguments to ".toList ++ name ++ " using: ','".toList)
  return parts.flatten

/-- Reads the condition of a name. -/
def condition (name : Octets) : Reader Criterion := do
  let word := String.ofList name
  match word with
  | "-true" => return .always true
  | "-false" => return .always false
  | "-name" => return .name false (foldedGlob false (← argument name))
  | "-iname" => return .name true (foldedGlob true (← argument name))
  | "-path" | "-wholename" => return .path false (foldedGlob false (← argument name))
  | "-ipath" | "-iwholename" => return .path true (foldedGlob true (← argument name))
  | "-lname" => return .target false (foldedGlob false (← argument name))
  | "-ilname" => return .target true (foldedGlob true (← argument name))
  | "-regex" | "-iregex" =>
    let text ← argument name
    match Regex.read (← get).2.dialect text with
    | .ok e => return .regex (word == "-iregex") e.regex
    | .error fault => throw ("failed to compile regular expression '".toList ++ text ++ "': ".toList
        ++ fault.message.toList)
  | "-regextype" =>
    let text ← argument name
    match dialects.find? fun (known, _) => known.toList == text with
    | some (_, dialect) =>
      change fun plan => { plan with dialect }
      return .always true
    | none => throw ("Unknown regular expression type ".toList ++ quote text ++
        "; valid types are ".toList ++
        (Text.join ", " (dialects.map fun (known, _) => "'" ++ known ++ "'")).toList ++ ['.'])
  | "-type" => return .kinds (← kindLetters name)
  | "-xtype" => return .targetKinds (← kindLetters name)
  | "-size" =>
    let text ← argument name
    let unit? : Option Nat := match text.getLast? with
      | some 'c' => some 1
      | some 'w' => some 2
      | some 'b' => some 512
      | some 'k' => some 1024
      | some 'M' => some 1048576
      | some 'G' => some 1073741824
      | _ => none
    match unit?, text.getLast? with
    | none, some c =>
      if !c.isDigit then throw ("invalid -size type `".toList ++ [c, '\''])
    | _, _ => pure ()
    match Bounded.read? (if unit?.isSome then text.dropLast else text) with
    | some b => return .size (unit?.getD 512) b
    | none => throw ("Invalid argument `".toList ++ text ++ "' to -size".toList)
  | "-links" => return .links (← bounded name)
  | "-inum" | "-uid" | "-gid" =>
    let _ ← bounded name
    return .always false
  | "-user" =>
    let user ← argument name
    if user != "root".toList && !user.all Char.isDigit then
      throw (quote user ++ " is not the name of a known user".toList)
    return .always false
  | "-group" =>
    let group ← argument name
    if group != "root".toList && !group.all Char.isDigit then
      throw (quote group ++ " is not the name of an existing group".toList)
    return .always false
  | "-samefile" => return .at (← placeOf name)
  | "-newer" | "-anewer" | "-cnewer" =>
    let _ ← placeOf name
    return .always false
  | "-empty" => return .empty
  | "-perm" =>
    let text ← argument name
    let (sign, mode) : Option Char × Octets := match text with
      | '-' :: rest => (some '-', rest)
      | '/' :: rest => (some '/', rest)
      | rest => (none, rest)
    match readMode? mode with
    | some f => return .mode sign (f 0 false 0)
    | none => throw ("invalid mode ".toList ++ quote text)
  | "-executable" => return .may Mode.mayRun
  | "-readable" => return .may Mode.mayRead
  | "-writable" => return .may Mode.mayWrite
  | "-print" => return .print '\n'
  | "-print0" => return .print (Char.ofNat 0)
  | "-ls" => return .print '\n'
  | "-printf" => return .printf (← readFormat name)
  | "-fprint" => return .printInto (← output name) '\n'
  | "-fprint0" => return .printInto (← output name) (Char.ofNat 0)
  | "-fprintf" =>
    let (words, _) ← get
    if words.length == 1 then
      throw ("invalid argument `".toList ++ words.headD [] ++ "' to `-fprintf'".toList)
    let file ← output name
    return .printfInto file (← readFormat name)
  | "-prune" =>
    change fun plan => { plan with prunes := true }
    return .prune
  | "-quit" => return .quit
  | "-delete" =>
    change fun plan => { plan with insideFirst := true, deletes := true }
    return .delete
  | "-exec" | "-execdir" | "-ok" | "-okdir" =>
    let inPlace := word == "-execdir" || word == "-okdir"
    let (words, many) ← program name
    if many then
      let n := (← get).2.collections
      change fun plan => { plan with collections := n + 1 }
      return .runAll n inPlace words
    return .run (word == "-ok" || word == "-okdir") inPlace words
  | "-depth" | "-d" =>
    change fun plan => { plan with insideFirst := true, deep := true }
    return .always true
  | "-follow" =>
    change fun plan => { plan with follows := some true }
    return .always true
  | "-maxdepth" =>
    let n ← depth name
    change fun plan => { plan with maxDepth := some n }
    return .always true
  | "-mindepth" =>
    let n ← depth name
    change fun plan => { plan with minDepth := n }
    return .always true
  | "-mount" | "-xdev" | "-noleaf" | "-warn" | "-nowarn" | "-daystart" | "-ignore_readdir_race" =>
    return .always true
  | "-mtime" | "-atime" | "-ctime" | "-mmin" | "-amin" | "-cmin" =>
    let b ← bounded name
    return .always (b.holds 0)
  | "-nouser" | "-nogroup" => return .always false
  | _ =>
    match Text.Chars.stripStart? "-newer".toList name with
    | some [a, b] =>
      if !"aBcm".toList.contains a || !"aBcmt".toList.contains b then
        throw ("invalid predicate `".toList ++ name ++ ['\''])
      if b == 't' then
        let _ ← argument name
        return .always true
      let _ ← placeOf name
      return .always false
    | _ => throw ("unknown predicate `".toList ++ name ++ ['\''])

mutual

/-- Conditions of which one has to hold, and lists of such. -/
def listed (fuel : Nat) : Reader Criterion := do
  match fuel with
  | 0 => return .always true
  | fuel + 1 =>
    let a ← disjunction fuel
    match ← peek with
    | some [','] =>
      skip
      if (← peek).isNone then throw "expected an expression after ','".toList
      return .both a (← listed fuel)
    | _ => return a

def disjunction (fuel : Nat) : Reader Criterion := do
  match fuel with
  | 0 => return .always true
  | fuel + 1 =>
    let a ← conjunction fuel
    match (← peek).map String.ofList with
    | some "-o" | some "-or" =>
      let word := (← peek).getD []
      skip
      if (← peek).isNone then throw ("expected an expression after ".toList ++ quote word)
      return .any a (← disjunction fuel)
    | _ => return a

def conjunction (fuel : Nat) : Reader Criterion := do
  match fuel with
  | 0 => return .always true
  | fuel + 1 =>
    let a ← single fuel
    match (← peek).map String.ofList with
    | none | some "-o" | some "-or" | some "," | some ")" => return a
    | some "-a" | some "-and" =>
      let word := (← peek).getD []
      skip
      if (← peek).isNone then throw ("expected an expression after ".toList ++ quote word)
      return .all a (← conjunction fuel)
    | some _ => return .all a (← conjunction fuel)

def single (fuel : Nat) : Reader Criterion := do
  match fuel with
  | 0 => return .always true
  | fuel + 1 =>
    match ← peek with
    | none => throw "invalid expression".toList
    | some word =>
      match String.ofList word with
      | "!" | "-not" =>
        skip
        if (← peek).isNone then throw ("expected an expression after ".toList ++ quote word)
        if (← peek) == some [')'] then throw ("expected an expression between ".toList ++ quote word ++
          " and ')'".toList)
        return .unless (← single fuel)
      | "(" =>
        skip
        match ← peek with
        | none => throw ("invalid expression; expected to find a ')' but didn't see one. " ++
            "Perhaps you need an extra predicate after '('").toList
        | some [')'] => throw "invalid expression; empty parentheses are not allowed.".toList
        | some _ =>
          let a ← listed fuel
          match ← peek with
          | some [')'] =>
            skip
            return a
          | _ => throw ("invalid expression; I was expecting to find a ')' somewhere but did not " ++
              "see one.").toList
      | ")" => throw "invalid expression; you have too many ')'".toList
      | "-o" | "-or" | "-a" | "-and" | "," =>
        throw ("invalid expression; you have used a binary operator ".toList ++ quote word ++
          " with nothing before it.".toList)
      | _ =>
        if word.head? != some '-' then
          throw ("paths must precede expression: `".toList ++ word ++ ['\''])
        skip
        condition word

end

end Reader

/-! ## Going through -/

/-- A file that is looked at. -/
structure Visited where
  /-- The operand under which it lies. -/
  root : Octets
  path : Octets
  place : Location
  entry : Entry
  depth : Nat

/-- What goes on during a search. -/
structure SearchState where
  failed : Bool := false
  ended : Bool := false
  pruned : Bool := false
  collected : List (Nat × Octets) := []

namespace Visited

def kindLetter (v : Visited) : Char :=
  match v.entry with
  | .directory _ => 'd'
  | .link _ => 'l'
  | .device _ => 'c'
  | _ => 'f'

/-- What a letter behind a percent sign tells about a file. -/
def fact? (v : Visited) (letter : Char) : Option Octets :=
  match letter with
  | 'p' => some v.path
  | 'f' => some (if v.path.all (· == '/') then v.path.take 1 else lastName v.path)
  | 'h' =>
    let bare := withoutSlashes v.path
    let above := bare.take (bare.length - (lastName bare).length)
    some (if above.isEmpty then ['.'] else if above == ['/'] then [] else above.dropLast)
  | 'P' =>
    let rest := v.path.drop v.root.length
    some (rest.dropWhile (· == '/'))
  | 'H' => some v.root
  | 's' => some (Octets.ofNat (Listing.size v.entry))
  | 'k' => some (Octets.ofNat (Listing.blocksOf v.entry))
  | 'b' => some (Octets.ofNat (2 * Listing.blocksOf v.entry))
  | 'm' => some (Nat.toDigits 8 v.entry.mode)
  | 'M' => some ((if v.kindLetter == 'f' then '-' else v.kindLetter) :: modeLetters v.entry.mode)
  | 'y' | 'Y' => some [v.kindLetter]
  | 'd' => some (Octets.ofNat v.depth)
  | 'n' => some ['1']
  | 'l' => some (match v.entry with
    | .link target => Octets.ofString target
    | _ => [])
  | '%' => some ['%']
  | _ => none

/-- A format with its directives and escapes replaced. The fuel bounds its length. -/
def formatted (v : Visited) : Nat → Octets → Octets
  | 0, _ => []
  | _, [] => []
  | fuel + 1, '%' :: rest =>
    let flags := rest.takeWhile "-+ 0#".toList.contains
    let after := rest.drop flags.length
    let digits := after.takeWhile Char.isDigit
    let after := after.drop digits.length
    let places : Octets := if after.head? == some '.' then after.tail.takeWhile Char.isDigit else []
    let after := if after.head? == some '.' then after.drop (places.length + 1) else after
    match after with
    | [] => ['%']
    | letter :: rest =>
      match if letter == '%' && !(flags.isEmpty && digits.isEmpty) then none else v.fact? letter with
      | none => '%' :: flags ++ digits ++ letter :: formatted v fuel rest
      | some fact =>
        let isNumber := letter == 'd' || letter == 'm'
        let fact := if letter == 'm' && flags.contains '#' then '0' :: fact else fact
        let fact := match Octets.digitsValue? places with
          | some n => if isNumber then fact else fact.take n
          | none => fact
        let width := (Octets.digitsValue? digits).getD 0
        (if flags.contains '-' then padRight width fact
          else if flags.contains '0' && isNumber then List.replicate (width - fact.length) '0' ++ fact
          else padLeft width fact) ++ formatted v fuel rest
  | fuel + 1, '\\' :: rest =>
    match rest with
    | 'c' :: _ => []
    | 'e' :: rest => '\\' :: 'e' :: formatted v fuel rest
    | rest =>
      let (c, rest) := Escape.read rest
      c :: formatted v fuel rest
  | fuel + 1, c :: rest => c :: formatted v fuel rest

end Visited

/-- Puts a path in the place of braces. -/
def putInBraces (path word : Octets) : Octets :=
  match word with
  | [] => []
  | '\x7b' :: '\x7d' :: rest => path ++ putInBraces path rest
  | c :: rest => c :: putInBraces path rest

/-- Runs a program for a search, in the directory of the file if that is asked for. -/
def runFor (runner : Runner) (inPlace : Option Location) (words : List Octets) : Run Bool := do
  let saved ← process
  if let some place := inPlace then modifyProcess fun p => { p with directory := place }
  let result ← runner words
  modifyProcess fun p => { p with directory := saved.directory }
  match result with
  | .ok ended => return ended.status == 0
  | .error e =>
    complainAbout (quoteAlways (words.headD [])) e
    return false

/-- Whether a condition holds of a file. -/
def Criterion.holds (runner : Runner) (v : Visited) :
    Criterion → SearchState → Run (Bool × SearchState)
  | .always holds, s => return (holds, s)
  | .all a b, s => do
    let (holds, s) ← a.holds runner v s
    if !holds || s.ended then return (false, s)
    b.holds runner v s
  | .any a b, s => do
    let (holds, s) ← a.holds runner v s
    if holds || s.ended then return (true, s)
    b.holds runner v s
  | .both a b, s => do
    let (_, s) ← a.holds runner v s
    if s.ended then return (false, s)
    b.holds runner v s
  | .unless a, s => do
    let (holds, s) ← a.holds runner v s
    return (!holds, s)
  | .name folds p, s =>
    let name := lastName v.path
    return (Pattern.matchesText p (if folds then name.map Char.toLower else name), s)
  | .path folds p, s =>
    return (Pattern.matchesText p (if folds then v.path.map Char.toLower else v.path), s)
  | .target folds p, s =>
    match v.entry with
    | .link linked =>
      let text := Octets.ofString linked
      return (Pattern.matchesText p (if folds then text.map Char.toLower else text), s)
    | _ => return (false, s)
  | .regex folds r, s =>
    return (((Placed.of folds false r v.path).endsFrom 0).testBit v.path.length, s)
  | .kinds letters, s => return (letters.contains v.kindLetter, s)
  | .targetKinds letters, s => do
    let t ← tree
    let entry := match v.entry with
      | .link linked => match t.find true v.place.dropLast ⟨linked⟩ with
        | .ok (_, e) => e
        | .error _ => v.entry
      | e => e
    return (letters.contains { v with entry }.kindLetter, s)
  | .at place, s => return (v.place == place, s)
  | .size unit b, s =>
    return (b.holds ((Listing.size v.entry + unit - 1) / unit), s)
  | .links b, s => return (b.holds 1, s)
  | .empty, s => do
    let t ← tree
    return (match v.entry with
      | .file content _ => content.isEmpty
      | .directory _ => (t.children v.place).isEmpty
      | _ => false, s)
  | .mode sign m, s =>
    let bits := v.entry.mode
    return (match sign with
      | some '-' => bits &&& m == m
      | some _ => m == 0 || bits &&& m != 0
      | none => bits == m, s)
  | .may bit, s => return (bit v.entry.mode, s)
  | .print stop, s => do
    put (v.path ++ [stop])
    return (true, s)
  | .printf format, s => do
    put (v.formatted (format.length + 1) format)
    return (true, s)
  | .printInto file stop, s => do
    let _ ← fill file true (v.path ++ [stop])
    return (true, s)
  | .printfInto file format, s => do
    let _ ← fill file true (v.formatted (format.length + 1) format)
    return (true, s)
  | .prune, s => return (true, { s with pruned := true })
  | .quit, s => return (true, { s with ended := true })
  | .delete, s => do
    if v.path == ['.'] then return (true, s)
    let t ← tree
    let result : Except OsError Unit :=
      if v.entry.isDirectory && !(t.children v.place).isEmpty then .error .directoryNotEmpty
      else t.checkParent v.place
    match result with
    | .ok () =>
      setTree (t.erase v.place)
      return (true, s)
    | .error e =>
      complainAbout ("cannot delete ".toList ++ quoteAlways v.path) e
      return (false, { s with failed := true })
  | .run asks inPlace words, s => do
    let path := if inPlace then "./".toList ++ lastName v.path else v.path
    let words := words.map (putInBraces path)
    if asks then
      let _ ← write 2 ("< ".toList ++ List.intercalate [' '] (words.take 1) ++ " ... ".toList ++
        v.path ++ " > ? ".toList)
      match ← readLine 0 with
      | some (c :: _) => if c != 'y' && c != 'Y' then return (false, s)
      | _ => return (false, s)
    let done ← runFor runner (if inPlace then some v.place.dropLast else none) words
    return (done, s)
  | .runAll n inPlace words, s => do
    if inPlace then
      let words := words.dropLast ++ ["./".toList ++ lastName v.path]
      let done ← runFor runner (some v.place.dropLast) words
      return (true, { s with failed := s.failed || !done })
    return (true, { s with collected := s.collected ++ [(n, v.path)] })

/-- The programs that are run with collected paths. -/
def Criterion.collecting : Criterion → List (Nat × List Octets)
  | .all a b | .any a b | .both a b => a.collecting ++ b.collecting
  | .unless a => a.collecting
  | .runAll n _ words => [(n, words)]
  | _ => []

/-- Asks a condition of a file and of what is under it. The fuel bounds the depth. -/
def visit (runner : Runner) (plan : SearchPlan) (c : Criterion) :
    Nat → Visited → SearchState → Run SearchState
  | 0, _, s => return s
  | fuel + 1, v, s => do
    let ask (s : SearchState) : Run SearchState := do
      if v.depth < plan.minDepth then return s
      return (← c.holds runner v s).2
    let descend (s : SearchState) : Run SearchState := do
      if !v.entry.isDirectory || plan.maxDepth.any (· ≤ v.depth) then return s
      match (← tree).get? v.place with
      | some (.directory mode) =>
        if !mode.mayRead then
          complainAbout (quoteAlways v.path) .permissionDenied
          return { s with failed := true }
        let mut s := s
        for name in ← namesIn v.place do
          if !s.ended then
            let place := v.place ++ [Octets.decode name]
            let path := join v.path name
            let t ← tree
            let found : Option (Location × Entry) :=
              match t.get? place with
              | some (.link target) =>
                if plan.follows == some true then
                  (t.find true v.place ⟨target⟩).toOption.orElse fun _ => some (place, .link target)
                else some (place, .link target)
              | some e => some (place, e)
              | none => none
            if !mode.mayRun then
              complainAbout (quoteAlways path) .permissionDenied
              s := { s with failed := true }
            else if let some (place, entry) := found then
              s ← visit runner plan c fuel { v with path, place, entry, depth := v.depth + 1 } s
        return s
      | _ => return s
    if plan.insideFirst then
      let s ← descend s
      if s.ended then return s
      let s ← ask s
      return { s with pruned := false }
    else
      let s ← ask s
      if s.ended then return s
      let pruned := s.pruned
      let s := { s with pruned := false }
      if pruned then return s else descend s

/-- Whether a word begins the expression behind the paths. -/
def beginsExpression (leading : Bool) (word : Octets) : Bool :=
  match word with
  | ['('] | ['!'] => true
  | [')'] | [','] => !leading
  | '-' :: _ :: _ => true
  | _ => false

/-- Searches directories. -/
def search (runner : Runner) (arguments : List Octets) : Run Nat := do
  let isSwitch (word : Octets) : Bool :=
    ["-H", "-L", "-P", "--"].any (·.toList == word) ||
      ("-O".toList.isPrefixOf word && 2 < word.length && (word.drop 2).all Char.isDigit)
  let switches := arguments.takeWhile isSwitch
  let rest := arguments.dropWhile isSwitch
  let paths := rest.takeWhile (!beginsExpression true ·)
  let words := rest.drop paths.length
  let follows := ((switches.filter fun word => word == "-L".toList || word == "-P".toList ||
    word == "-H".toList).getLast?).map (· == "-L".toList)
  let followsRoots := switches.contains "-H".toList || follows == some true
  let reader : Reader Criterion := do
    if words.isEmpty then return .always true
    let c ← Reader.listed (4 * words.length + 8)
    match ← Reader.peek with
    | some [')'] => throw "you have too many ')'".toList
    | some word => throw ("paths must precede expression: `".toList ++ word ++ ['\''])
    | none => return c
  let t ← tree
  let p ← process
  if let some word := words.head? then
    if "-O".toList.isPrefixOf word then
      complainOf (if word.length == 2 then
        "The -O option must be immediately followed by a decimal integer"
        else "Please specify a decimal number immediately after -O").toList
      return 1
  let locate (path : Octets) : Except OsError Location := do
    return (← t.find (followsRoots || follows == some true) p.directory (pathOf path)).1
  match reader.run (words, { follows, locate }) with
  | .error why _ =>
    complainOf why
    return 1
  | .ok c (_, plan) =>
    if plan.deletes && plan.prunes && !plan.deep then
      complainOf ("The -delete action automatically turns on -depth, but -prune does nothing when " ++
        "-depth is in effect.  If you want to carry on anyway, just explicitly use the -depth " ++
        "option.").toList
      return 1
    for w in plan.warnings do complainOf w
    for file in plan.outputs do
      if let .error e := ← fill file false [] then
        complainAbout (quoteAlways file) e
        return 1
    let c := if c.acts then c else .all c (.print '\n')
    let mut s : SearchState := {}
    for path in (if paths.isEmpty then [['.']] else paths) do
      if !s.ended then
        let followed ← find path (followsRoots || plan.follows == some true)
        let found ← if followed.isOk then pure followed else find path false
        match found with
        | .error e =>
          complainAbout (quoteAlways path) e
          s := { s with failed := true }
        | .ok (place, entry) =>
          s ← visit runner plan c 4096 { root := path, path, place, entry, depth := 0 } s
    for (n, words) in c.collecting do
      let paths := (s.collected.filter (·.1 == n)).map (·.2)
      if !paths.isEmpty then
        let done ← runFor runner none (words.dropLast ++ paths)
        if !done then s := { s with failed := true }
    return status (!s.failed)

end NotebookKernel.Shell.Tool
