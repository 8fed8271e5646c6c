import NotebookKernel.Machine.ModeChange
import NotebookKernel.Shell.Tool.Flow

/-! # Programs that change files

They make, remove, copy, move and link files, and change their permissions. Each does the same for
every operand, and says at the end whether all went well. -/

namespace NotebookKernel.Shell.Tool

open Run

/-- Does the same for every operand. -/
def forEach (operands : List Octets) (act : Octets → Run Bool) : Run Nat := do
  let mut fine := true
  for o in operands do
    let done ← act o
    fine := fine && done
  return status fine

/-- Changes the tree, or complains. -/
def change (what : Octets) (r : Except OsError FileTree) : Run Bool := do
  match r with
  | .ok t =>
    setTree t
    return true
  | .error e =>
    complainAbout what e
    return false

/-- The names in a directory, in the order of their bytes. -/
def namesIn (place : Location) : Run (List Octets) := do
  return (((← tree).children place).map Octets.ofString).mergeSort Octets.le

/-- Asks whether to do something. -/
def confirms (question : Octets) : Run Bool := do
  let _ ← write 2 ((← process).name ++ ": ".toList ++ question ++ "? ".toList)
  match ← readLine 0 with
  | some (c :: _) => return c == 'y' || c == 'Y'
  | _ => return false

/-- What a kind of file is called. -/
def kindName (e : Entry) : Octets :=
  match e with
  | .directory _ => "directory".toList
  | .link _ => "symbolic link".toList
  | .file [] _ => "regular empty file".toList
  | .device _ => "character special file".toList
  | _ => "regular file".toList

/-! ## Permissions -/

/-- The change of permission bits that a text asks for, from a mode on. -/
def readMode? (text : Octets) : Option (Mode → Bool → Mode → Mode) :=
  if !text.isEmpty && text.all (fun c => '0' ≤ c && c ≤ '7') then
    let n := text.foldl (fun n c => 8 * n + (c.toNat - '0'.toNat)) 0
    if 0o7777 < n then none
    else some fun _ isDirectory mode =>
      -- The bits for groups of directories are only given up if all digits are there.
      if isDirectory && text.length < 5 then n ||| (mode &&& 0o6000) else n
  else (ModeChange.ofText? text).map fun changes umask isDirectory mode =>
    ModeChange.applyAll umask isDirectory mode changes

/-- Permission bits as letters. -/
def modeLetters (m : Mode) : Octets :=
  let triple (bits : Nat) (special : Bool) (letter : Char) : Octets :=
    [if bits.testBit 2 then 'r' else '-', if bits.testBit 1 then 'w' else '-',
      match bits.testBit 0, special with
      | true, true => letter
      | false, true => letter.toUpper
      | true, false => 'x'
      | false, false => '-']
  triple (m / 64 % 8) (m.testBit 11) 's' ++ triple (m / 8 % 8) (m.testBit 10) 's' ++
    triple (m % 8) (m.testBit 9) 't'

def octalMode (width : Nat) (m : Mode) : Octets :=
  let digits := Nat.toDigits 8 m
  List.replicate (width - digits.length) '0' ++ digits

/-- An entry with other permission bits, unless it belongs to the system. -/
def withMode? (e : Entry) (m : Mode) : Option Entry :=
  match e with
  | .file content _ => some (.file content m)
  | .directory mode => if mode == FileTree.systemMode then none else some (.directory m)
  | _ => none

/-- What is told about permissions that are changed. -/
structure ModeTelling where
  always : Bool
  changes : Bool
  quiet : Bool

/-- Changes the permission bits of a file, and of what is under it. The fuel bounds the depth. -/
def changeMode (telling : ModeTelling) (recursive implicit : Bool)
    (newMode : Mode → Bool → Mode → Mode) : Nat → Octets → Location → Run Bool
  | 0, _, _ => return false
  | fuel + 1, path, place => do
    let umask := (← process).umask
    match (← tree).get? place with
    | none => return true
    | some e =>
      let m := newMode umask e.isDirectory e.mode
      let text (m : Mode) : Octets := octalMode 4 m ++ " (".toList ++ modeLetters m ++ [')']
      let fine ← match withMode? e m with
        | none => do
          complainOf ("changing permissions of ".toList ++ quoteAlways path ++
            ": Operation not permitted".toList)
          pure false
        | some changed => do
          setTree ((← tree).insert place changed)
          if telling.always || (telling.changes && e.mode != m) then
            putLine ("mode of ".toList ++ quoteAlways path ++
              if e.mode == m then " retained as ".toList ++ text m
              else " changed from ".toList ++ text e.mode ++ " to ".toList ++ text m)
          let wanted := newMode 0 e.isDirectory e.mode
          if implicit && m &&& (0o7777 ^^^ wanted) != 0 then
            complainOf (quoteName path ++ ": new permissions are ".toList ++ modeLetters m ++
              ", not ".toList ++ modeLetters wanted)
            pure false
          else pure true
      if !(recursive && e.isDirectory) then return fine
      if !m.mayRead || !m.mayRun then
        if !telling.quiet then
          complainAbout ("cannot read directory ".toList ++ quoteAlways path) .permissionDenied
        return false
      let names ← namesIn place
      let results ← names.mapM fun name => do
        let inner := place ++ [Octets.decode name]
        match (← tree).get? inner with
        | some (.link _) => return true
        | _ => changeMode telling recursive implicit newMode fuel (join path name) inner
      return fine && results.all id

/-- Whether a word is a change of permissions that begins with a dash. -/
def isDashedMode (word : Octets) : Bool :=
  match word with
  | '-' :: c :: more => (c :: more).all "rwxXstugo,=+-".toList.contains
  | _ => false

def chmod (arguments : List Octets) : Run Nat :=
  let dashed := (arguments.takeWhile (· != "--".toList)).find? isDashedMode
  let arguments := match dashed with
    | some word => arguments.erase word
    | none => arguments
  withOptions "R,recursive c,changes f,silent,quiet v,verbose reference= no-preserve-root
    preserve-root" arguments fun o => do
    let given := dashed.isSome || o.has "reference"
    match o.operands, given with
    | [], false => missingOperand
    | [], true => missingOperand
    | [mode], false => missingOperandAfter mode
    | first :: rest, given =>
      let text := dashed.getD first
      let files := if given then first :: rest else rest
      let newMode : Option (Mode → Bool → Mode → Mode) ← match o.value? "reference" with
        | none => pure (readMode? text)
        | some file => do
          match ← find file true with
          | .ok (_, e) => pure (some fun _ _ _ => e.mode)
          | .error e =>
            complainAbout ("failed to get attributes of ".toList ++ quoteAlways file) e
            return 1
      match newMode with
      | none => refuseCall ⟨"invalid mode: ".toList ++ quote text, true, 1⟩
      | some newMode =>
        let telling : ModeTelling := ⟨o.has "v", o.has "c", o.has "f"⟩
        forEach files fun file => do
          match ← find file true with
          | .ok (place, _) => changeMode telling (o.has "R") dashed.isSome newMode 4096 file place
          | .error e =>
            if !o.has "f" then
              if e == .notFound && (← find file false).isOk then
                complainOf ("cannot operate on dangling symlink ".toList ++ quoteAlways file)
              else complainAbout ("cannot access ".toList ++ quoteAlways file) e
            return false

/-! ## Directories -/

/-- The paths above a path that it leads through, the shortest first, and the path itself. -/
def pathsAlong (path : Octets) : List Octets :=
  let names := (Text.Chars.splitOn (· == '/') path).filter (!·.isEmpty)
  let start : Octets := if path.head? == some '/' then ['/'] else []
  (List.range names.length).map fun n => start ++ List.intercalate ['/'] (names.take (n + 1))

def mkdir (arguments : List Octets) : Run Nat :=
  withOptions "p,parents v,verbose m,mode= Z context?" arguments fun o => do
    if o.operands.isEmpty then return ← missingOperand
    let umask := (← process).umask
    match (o.value? "m").map readMode? with
    | some none =>
      refuseCall ⟨"invalid mode ".toList ++ quote ((o.value? "m").getD []), false, 1⟩
    | mode =>
      let plain := Mode.masked 0o777 umask
      let last : Mode := match mode with
        | some (some f) => f umask true 0o777
        | _ => plain
      let tell (path : Octets) : Run Unit :=
        if o.has "v" then
          complainOnOutput ("created directory ".toList ++ quoteAlways path)
        else pure ()
      let make (path : Octets) (m : Mode) : Run (Except OsError Unit) := do
        let p ← process
        match (← tree).makeDirectory p.directory (pathOf path) m with
        | .ok t =>
          setTree t
          tell path
          return .ok ()
        | .error e => return .error e
      let cannot (path : Octets) (e : OsError) : Run Bool := do
        complainAbout ("cannot create directory ".toList ++ quoteAlways path) e
        return false
      forEach o.operands fun path => do
        if !o.has "p" then
          match ← make path last with
          | .ok () => return true
          | .error e => cannot path e
        else
          let along := pathsAlong path
          for step in along do
            let isLast := step.length == (along.getLast?.getD []).length
            let shown := if isLast then path else step
            match ← make step (if isLast then last else plain ||| 0o300) with
            | .ok () => pure ()
            | .error e =>
              match ← find step true with
              | .ok (_, .directory _) => pure ()
              | .ok _ => return ← cannot shown (if isLast then .alreadyExists else .notADirectory)
              | .error _ => return ← cannot shown e
          return true
where
  /-- Tells on the standard output what was done. -/
  complainOnOutput (text : Octets) : Run Unit := do
    putLine ((← process).name ++ ": ".toList ++ text)

def rmdir (arguments : List Octets) : Run Nat :=
  withOptions "p,parents v,verbose ignore-fail-on-non-empty" arguments fun o => do
    if o.operands.isEmpty then return ← missingOperand
    let remove (path : Octets) : Run Bool := do
      if o.has "v" then
        putLine ((← process).name ++ ": removing directory, ".toList ++ quoteAlways path)
      let result : Except OsError Location ← do
        match ← find path false with
        | .error e => pure (.error e)
        | .ok (place, .directory _) =>
          let t ← tree
          if lastName path == ['.'] then pure (.error .invalidArgument)
          else if !(t.children place).isEmpty then pure (.error .directoryNotEmpty)
          else pure ((t.checkParent place).map fun _ => place)
        | .ok _ => pure (.error .notADirectory)
      match result with
      | .ok place =>
        setTree ((← tree).erase place)
        return true
      | .error e =>
        if e == .directoryNotEmpty && o.has "ignore-fail-on-non-empty" then return true
        complainAbout ("failed to remove ".toList ++ quoteAlways path) e
        return false
    forEach o.operands fun path => do
      if !o.has "p" then remove path
      else
        let paths := (pathsAlong (withoutSlashes path)).reverse
        let mut fine := true
        for p in paths do
          if fine then fine ← remove p
        return fine

/-! ## Removing -/

/-- How files are removed. -/
structure Removing where
  recursive : Bool
  directories : Bool
  force : Bool
  asks : Bool
  tells : Bool

/-- Removes a file and what is under it. The fuel bounds the depth. -/
def removeUnder (r : Removing) : Nat → Octets → Location → Run Bool
  | 0, _, _ => return false
  | fuel + 1, path, place => do
    let cannot (e : OsError) : Run Bool := do
      complainAbout ("cannot remove ".toList ++ quoteAlways path) e
      return false
    let t ← tree
    match t.get? place with
    | none => return true
    | some e =>
      let isFull := e.isDirectory && !(t.children place).isEmpty
      if e.isDirectory && !r.recursive && !(r.directories && !isFull) then
        return ← cannot (if r.directories then .directoryNotEmpty else .isADirectory)
      let mut fine := true
      if isFull then
        if r.asks then
          if !(← confirms ("descend into directory ".toList ++ quoteAlways path)) then return true
        if !e.mode.mayRead || !e.mode.mayRun then return ← cannot .permissionDenied
        for name in ← namesIn place do
          let done ← removeUnder r fuel (join path name) (place ++ [Octets.decode name])
          fine := fine && done
        if !fine then return false
        if !((← tree).children place).isEmpty then return true
      if r.asks then
        if !(← confirms ("remove ".toList ++ kindName e ++ [' '] ++ quoteAlways path)) then
          return true
      match (← tree).checkParent place with
      | .error e => cannot e
      | .ok () =>
        setTree ((← tree).erase place)
        if r.tells then
          putLine ((if e.isDirectory then "removed directory " else "removed ").toList ++
            quoteAlways path)
        return true

/-- When `rm` may be asked to ask. -/
def askingTimes : List (List String) := [["never", "no", "none"], ["once"], ["always", "yes"]]

def checkRmOption (c : Choice) : Option Refusal :=
  match c.key, c.value with
  | "interactive", some word =>
    if (wordOf? askingTimes word).isSome then none
    else some (wrongWord word "--interactive" askingTimes)
  | "preserve-root", some word =>
    if word == "all".toList then none
    else some ⟨"unrecognized --preserve-root argument: ".toList ++ quoteAlways word, false, 1⟩
  | _, _ => none

/-- Says how a file is removed whose name was taken for options. -/
def hintAtDashes (arguments : List Octets) : Run Unit := do
  for word in arguments do
    if word.head? == some '-' && (← find word false).isOk then
      complain ("Try '".toList ++ (← process).name ++ " ./".toList ++ quoteIfNeeded word ++
        "' to remove the file ".toList ++ quoteAlways word ++ ['.'])
      return

def rm (arguments : List Octets) : Run Nat := do
  let table := "d,dir f,force i I interactive? r,R,recursive v,verbose one-file-system
    no-preserve-root preserve-root?"
  let called := Called.read (OptionForm.tableOf table) false arguments
  if let some fault := called.fault then
    if (called.choices.findSome? checkRmOption).isNone then
      complainOf fault.message
      hintAtDashes (arguments.takeWhile (· != "--".toList))
      hint
      return 1
  withOptions table arguments (fun o => do
    let time (c : Choice) : String := match c.key with
      | "i" => "always"
      | "I" => "once"
      | "f" => "force"
      | _ => (c.value.bind (wordOf? askingTimes)).getD "always"
    let time := ((o.last? ["f", "i", "I", "interactive"]).map time).getD ""
    let force := time == "force"
    let asks := time == "always"
    if o.operands.isEmpty then
      return ← if o.has "f" then pure 0 else missingOperand
    if time == "once" && (o.has "r" || 3 < o.operands.length) then
      let n := o.operands.length
      let what := Octets.ofNat n ++ (if n == 1 then " argument" else " arguments").toList ++
        if o.has "r" then " recursively".toList else []
      if !(← confirms ("remove ".toList ++ what)) then return 0
    let r : Removing := ⟨o.has "r", o.has "d", force, asks, o.has "v"⟩
    forEach o.operands fun path => do
      let last := lastName path
      if r.recursive && (last == ['.'] || last == ['.', '.']) then
        complainOf ("refusing to remove '.' or '..' directory: skipping ".toList ++ quoteAlways path)
        return false
      match ← find path false with
      | .error e =>
        if r.force && (e == .notFound || e == .notADirectory) then return true
        complainAbout ("cannot remove ".toList ++ quoteAlways path) e
        return false
      | .ok (place, _) =>
        if place.isEmpty && r.recursive then
          complainOf "it is dangerous to operate recursively on '/'".toList
          complainOf "use --no-preserve-root to override this failsafe".toList
          return false
        removeUnder r 4096 path place)
    checkRmOption

/-! ## Making -/

/-- Whether digits are a moment such as `202001311200.59`. The year may be left out, or its century. -/
def isStamp (text : Octets) : Bool :=
  let digits := text.takeWhile Char.isDigit
  let seconds := text.drop digits.length
  let part (from' : Nat) (word : Octets) : Nat := (Octets.digitsValue? ((word.drop from').take 2)).getD 0
  let rest := digits.drop (digits.length - 8)
  [8, 10, 12].contains digits.length &&
    (seconds.isEmpty || (seconds.length == 3 && seconds.head? == some '.' &&
      seconds.tail.all Char.isDigit && part 1 seconds < 61)) &&
    0 < part 0 rest && part 0 rest < 13 && 0 < part 2 rest && part 2 rest < 32 &&
    part 4 rest < 24 && part 6 rest < 60

def timeNames : List (List String) := [["atime", "access", "use"], ["mtime", "modify"]]

def touch (arguments : List Octets) : Run Nat :=
  withOptions "a c,no-create d,date= f h,no-dereference m r,reference= t= time=" arguments (fun o => do
    if let some file := o.value? "r" then
      if let .error e := ← find file true then
        complainAbout ("failed to get attributes of ".toList ++ quoteAlways file) e
        return 1
    if o.operands.isEmpty then return ← missingOperand "file operand"
    forEach o.operands fun path => do
      let p ← process
      match ← find path true with
      | .ok _ => return true
      | .error .notFound =>
        if o.has "c" then return true
        if path.getLast? == some '/' then
          return ← change ("setting times of ".toList ++ quoteAlways path) (.error .notFound)
        let t ← tree
        change ("cannot touch ".toList ++ quoteAlways path)
          (t.writeFile p.directory (pathOf path) [] (Mode.masked 0o666 p.umask))
      | .error e =>
        if o.has "c" && e == .notADirectory then return true
        change ("cannot touch ".toList ++ quoteAlways path) (.error e))
    fun c =>
      if c.key == "t" && !isStamp c.text then
        some ⟨"invalid date format ".toList ++ quote c.text, false, 1⟩
      else if c.key == "time" && (wordOf? timeNames c.text).isNone then
        some (wrongWord c.text "--time" timeNames)
      else none

/-- A size as it is asked for: how the number is meant, and the number. -/
def readSize? (text : Octets) : Option (Option Char × Nat) :=
  let (sign, text) : Option Char × Octets := match text with
    | c :: rest => if "+-<>/%".toList.contains c then (some c, rest) else (none, text)
    | [] => (none, [])
  match Amount.ofText true text with
  | .value n => some (sign, n)
  | _ => none

def truncate (arguments : List Octets) : Run Nat :=
  withOptions "c,no-create o,io-blocks r,reference= s,size=" arguments (fun o => do
    if !o.has "s" && !o.has "r" then
      return ← refuseCall ⟨"you must specify either '--size' or '--reference'".toList, true, 1⟩
    if o.operands.isEmpty then return ← missingOperand "file operand"
    let base : Nat ← match o.value? "r" with
      | none => pure 0
      | some file =>
        match ← find file true with
        | .ok (_, .file content _) => pure content.length
        | .ok _ => pure 0
        | .error e =>
          complainAbout ("cannot stat ".toList ++ quoteAlways file) e
          return 1
    let (sign, n) := ((o.value? "s").bind readSize?).getD (none, base)
    forEach o.operands fun path => do
      let p ← process
      let old ← find path true
      if o.has "c" && !old.isOk then return true
      let content := match old with
        | .ok (_, .file content _) => content
        | _ => []
      let size := content.length
      let wanted := match sign with
        | some '+' => size + n
        | some '-' => size - n
        | some '<' => min size n
        | some '>' => max size n
        | some '/' => if n == 0 then size else size / n * n
        | some '%' => if n == 0 then size else (size + n - 1) / n * n
        | _ => n
      let bytes := content.take wanted ++ List.replicate (wanted - size) 0
      match (← tree).writeFile p.directory (pathOf path) bytes (Mode.masked 0o666 p.umask) with
      | .ok t =>
        setTree t
        return true
      | .error e =>
        complainAbout ("cannot open ".toList ++ quoteAlways path ++ " for writing".toList) e
        return false)
    fun c =>
      if c.key == "s" && (readSize? c.text).isNone then
        some ⟨"Invalid number: ".toList ++ quote c.text, false, 1⟩
      else none

/-- Makes a file or directory with a name that was not there before. -/
def mktemp (arguments : List Octets) : Run Nat :=
  withOptions "d,directory q,quiet suffix= p= tmpdir? t u,dry-run" arguments fun o => do
    match o.operands with
    | _ :: _ :: _ => refuseCall ⟨"too many templates".toList, true, 1⟩
    | operands =>
      let template := operands.headD "tmp.XXXXXXXXXX".toList
      let inTemporary := operands.isEmpty || o.has "p" || o.has "tmpdir" || o.has "t"
      let ending := (o.value? "suffix").getD (template.reverse.takeWhile (· != 'X')).reverse
      let stem := if o.has "suffix" then template
        else template.take (template.length - ending.length)
      let marks := (stem.reverse.takeWhile (· == 'X')).length
      if o.has "suffix" && template.getLast? != some 'X' then
        return ← refuseCall ⟨"with --suffix, template ".toList ++ quote template ++
          " must end in X".toList, false, 1⟩
      if ending.contains '/' then
        return ← refuseCall ⟨"invalid suffix ".toList ++ quote ending ++
          ", contains directory separator".toList, false, 1⟩
      if o.has "t" && template.contains '/' then
        return ← refuseCall ⟨"invalid template, ".toList ++ quote template ++
          ", contains directory separator".toList, false, 1⟩
      if marks < 3 then
        return ← refuseCall ⟨"too few X's in template ".toList ++ quote template, false, 1⟩
      let temporary ← valueOf "TMPDIR"
      let directory := (o.value? "p").getD (((o.choices.filter (·.key == "tmpdir")).getLast?.bind
        (·.value)).getD (if temporary.isEmpty then "/tmp".toList else temporary))
      let seed ← freshNumber
      let time ← now
      let letters := "abcdefghijklmnopqrstuvwxyzABCDEFGHIJKLMNOPQRSTUVWXYZ0123456789".toList
      let letter (n : Nat) : Char := letters.getD (n % 62) 'a'
      let mixed := (seed * 2654435761 + time * 40503) % 1000000007
      let filled := (List.range marks).map fun n => letter ((mixed + 1) * (n + 3) * (n + 7) + seed)
      let name := stem.take (stem.length - marks) ++ filled ++ ending
      let path := if inTemporary then join directory name else name
      let p ← process
      let t ← tree
      let made : Except OsError FileTree := if o.has "u" then .ok t
        else if o.has "d" then t.makeDirectory p.directory (pathOf path) 0o700
        else t.writeFile p.directory (pathOf path) [] 0o600
      match made with
      | .ok t =>
        setTree t
        putLine path
        return 0
      | .error e =>
        if !o.has "q" then
          let template := if inTemporary then join directory template else template
          complainAbout ((if o.has "d" then "failed to create directory via template "
            else "failed to create file via template ").toList ++ quoteAlways template) e
        return 1

/-! ## Copying and moving -/

/-- Under what names old files are kept. -/
structure Backup where
  ending : Octets
  /-- Whether the names are numbered, and whether only if there are such names. -/
  numbered : Option Bool

/-- How files are copied. -/
structure Transfer where
  moves : Bool
  recursive : Bool
  force : Bool
  asks : Bool
  /-- What is there is left alone. -/
  keeps : Bool
  /-- It is said what is left alone. -/
  tellsKept : Bool := false
  tells : Bool
  preserves : Bool
  /-- Links are followed, below the operands too. -/
  follows : Bool
  links : Option Bool
  backup : Option Backup
  /-- Operands that are links are followed. -/
  followsOperands : Bool := true
  /-- The directories that lead to operands are made too. -/
  withParents : Bool := false
  emptied : Bool := false

/-- Takes a place and everything under it out of the tree. -/
def eraseUnder (t : FileTree) (place : Location) : FileTree :=
  let start := (place.key ++ "/").toList
  let doomed := t.entries.keys.filter fun key => start.isPrefixOf key.toList
  doomed.foldl (fun t key => ⟨t.entries.erase key⟩) (t.erase place)

/-- Puts what lies at a place and under it somewhere else. -/
def moveUnder (t : FileTree) (source target : Location) : FileTree :=
  let start := (source.key ++ "/").toList
  let moved := t.entries.keys.filterMap fun key =>
    (Text.Chars.stripStart? start key.toList).bind fun rest =>
      (t.entries.get? key).map fun e => (target.key ++ "/" ++ String.ofList rest, e)
  let t' := eraseUnder t source
  let t' := match t.get? source with
    | some e => t'.insert target e
    | none => t'
  moved.foldl (fun t' (key, e) => ⟨t'.entries.insert key e⟩) t'

/-- Keeps what is there under another name, if that is asked for. -/
def backUp (backup : Option Backup) (place : Location) : Run Unit := do
  match backup with
  | none => pure ()
  | some b =>
    let t ← tree
    match t.get? place with
    | some e =>
      if !e.isDirectory then
        let name := place.getLast?.getD ""
        let numberOf? (other : String) : Option Nat :=
          (Text.Chars.stripStart? (name ++ ".~").toList other.toList).bind fun rest =>
            if rest.getLast? == some '~' then Octets.digitsValue? rest.dropLast else none
        let numbers := (t.children place.dropLast).filterMap numberOf?
        let isNumbered := match b.numbered with
          | some always => always || !numbers.isEmpty
          | none => false
        let ending := if isNumbered then
            ".~".toList ++ Octets.ofNat (numbers.foldl max 0 + 1) ++ ['~']
          else b.ending
        setTree ((t.erase place).insert (place.dropLast ++ [name ++ Octets.decode ending]) e)
    | none => pure ()

/-- Copies a file to a path, and what is under it. The fuel bounds the depth. -/
def copyTo (x : Transfer) : Nat → (top : Bool) → Octets → Octets → Run Bool
  | 0, _, _, _ => return false
  | fuel + 1, top, source, target => do
    let fail (text : Octets) : Run Bool := do
      complainOf text
      return false
    let about (text : Octets) (e : OsError) : Run Bool := do
      complainAbout text e
      return false
    let p ← process
    match ← find source (x.follows || (top && x.followsOperands && !x.recursive && x.links.isNone)) with
    | .error e => about ("cannot stat ".toList ++ quoteAlways source) e
    | .ok (origin, entry) =>
      if entry.isDirectory && !x.recursive then
        return ← fail ("-r not specified; omitting directory ".toList ++ quoteAlways source)
      let there ← find target true
      let old ← find target false
      if let .ok (place, e) := there then
        if place == origin && !(x.force && x.links.isSome) && x.backup.isNone then
          return ← fail (quoteAlways source ++ " and ".toList ++ quoteAlways target ++
            " are the same file".toList)
        if e.isDirectory && !entry.isDirectory then
          return ← fail ("cannot overwrite directory ".toList ++ quoteAlways target ++
            " with non-directory".toList)
        if !e.isDirectory && entry.isDirectory then
          return ← fail ("cannot overwrite non-directory ".toList ++ quoteAlways target ++
            " with directory ".toList ++ quoteAlways source)
        if !e.isDirectory then
          if x.keeps then return true
          if x.asks then
            if !(← confirms ("overwrite ".toList ++ quoteAlways target)) then return true
      else if old.isOk && !entry.isDirectory && x.links.isNone then
        match entry with
        | .link _ => pure ()
        | _ =>
          if !x.force then
            return ← fail ("not writing through dangling symlink ".toList ++ quoteAlways target)
      let tell : Run Unit :=
        if x.tells then putLine (quoteAlways source ++ " -> ".toList ++ quoteAlways target)
        else pure ()
      let newMode (m : Mode) : Mode := if x.preserves then m else Mode.masked m p.umask
      match entry with
      | .directory mode =>
        let into ← match (← tree).locate true p.directory (pathOf target) with
          | .ok place => pure place
          | .error _ => pure []
        if origin.isPrefixOf into && (into != origin || !there.isOk) then
          return ← fail ("cannot copy a directory, ".toList ++ quoteAlways source ++
            ", into itself, ".toList ++ quoteAlways target)
        if !mode.mayRead then
          return ← about ("cannot access ".toList ++ quoteAlways source) .permissionDenied
        if !there.isOk then
          match (← tree).makeDirectory p.directory (pathOf target) (newMode mode ||| 0o700) with
          | .ok t =>
            setTree t
            tell
          | .error e => return ← about ("cannot create directory ".toList ++ quoteAlways target) e
        let mut fine := true
        for name in ← namesIn origin do
          let done ← copyTo x fuel false (join source name) (join target name)
          fine := fine && done
        if !there.isOk then
          if let .ok (place, _) := ← find target true then
            setTree ((← tree).insert place (.directory (newMode mode)))
        return fine
      | entry =>
        if let .ok (place, _) := old then backUp x.backup place
        let t ← tree
        let made : Except OsError FileTree := do
          let place ← t.locate false p.directory (pathOf target)
          match x.links, entry with
          | some true, _ =>
            if (t.get? place).isSome && !x.force then throw .alreadyExists
            let t ← t.create place (.link (Octets.decode source))
            return t
          | some false, entry =>
            if (t.get? place).isSome && !x.force then throw .alreadyExists
            t.create place entry
          | none, .link linked =>
            let t ← t.create place (.link linked)
            return t
          | none, entry =>
            let (content, mode) := match entry with
              | .file content mode => (if x.emptied then [] else content, mode)
              | .tool => (FileTree.programHeader, 0o755)
              | _ => ([], 0o666)
            let result := t.writeFile p.directory (pathOf target) content (newMode mode)
            match result with
            | .error .permissionDenied =>
              if x.force && (t.get? place).isSome then
                (t.erase place).create place (.file content (newMode mode))
              else result
            | .ok t =>
              if x.preserves then
                match t.find true p.directory (pathOf target) with
                | .ok (place, .file content _) => return t.insert place (.file content mode)
                | _ => return t
              else return t
            | result => result
        if !entry.mode.mayRead && x.links.isNone then
          return ← about ("cannot open ".toList ++ quoteAlways source ++ " for reading".toList)
            .permissionDenied
        match made with
        | .ok t =>
          setTree t
          tell
          return true
        | .error e =>
          let e := if e == .notFound && target.getLast? == some '/' then .notADirectory else e
          let e := if e == .isADirectory && target.getLast? == some '/' then .notADirectory else e
          match x.links with
          | some true => about ("cannot create symbolic link ".toList ++ quoteAlways target ++
              " to ".toList ++ quoteAlways source) e
          | some false => about ("cannot create hard link ".toList ++ quoteAlways target ++
              " to ".toList ++ quoteAlways source) e
          | none =>
            match entry with
            | .link _ => about ("cannot create symbolic link ".toList ++ quoteAlways target) e
            | _ => about ("cannot create regular file ".toList ++ quoteAlways target) e

/-- Gives a file another path. -/
def moveTo (x : Transfer) (source target : Octets) : Run Bool := do
  let fail (text : Octets) : Run Bool := do
    complainOf text
    return false
  let p ← process
  match ← find source false with
  | .error e =>
    complainAbout ("cannot stat ".toList ++ quoteAlways source) e
    return false
  | .ok (origin, entry) =>
    let cannot (e : OsError) : Run Bool := do
      complainAbout ("cannot move ".toList ++ quoteAlways source ++ " to ".toList ++
        quoteAlways target) e
      return false
    if let .ok (place, e) := ← find target false then
      if place == origin then
        return ← fail (quoteAlways source ++ " and ".toList ++ quoteAlways target ++
          " are the same file".toList)
      if x.keeps then
        if x.tellsKept then complainOf ("not replacing ".toList ++ quoteAlways target)
        return true
      if e.isDirectory && !entry.isDirectory then
        return ← fail ("cannot overwrite directory ".toList ++ quoteAlways target ++
          " with non-directory".toList)
      if !e.isDirectory && entry.isDirectory then
        return ← fail ("cannot overwrite non-directory ".toList ++ quoteAlways target ++
          " with directory ".toList ++ quoteAlways source)
      if x.asks then
        if !(← confirms ("overwrite ".toList ++ quoteAlways target)) then return true
      if e.isDirectory && !((← tree).children place).isEmpty then
        complainAbout ("cannot overwrite ".toList ++ quoteAlways target) .directoryNotEmpty
        return false
      backUp x.backup place
    let bare := if entry.isDirectory then withoutSlashes target else target
    match (← tree).locate false p.directory (pathOf bare) with
    | .error e =>
      cannot (if e == .notFound && target.getLast? == some '/' then .notADirectory else e)
    | .ok place =>
      let last := lastName source
      if last == ['.'] || last == ['.', '.'] then return ← cannot .busy
      if entry.isDirectory && origin.isPrefixOf place then
        return ← fail ("cannot move ".toList ++ quoteAlways source ++
          " to a subdirectory of itself, ".toList ++ quoteAlways target)
      let t ← tree
      match t.checkParent origin, t.checkParent place with
      | .error e, _ => cannot e
      | _, .error e => cannot e
      | .ok (), .ok () =>
        setTree (moveUnder t origin place)
        if x.tells then
          putLine ("renamed ".toList ++ quoteAlways source ++ " -> ".toList ++ quoteAlways target)
        return true

/-- Makes the directories that lead to a source, below another directory. -/
def makeParents (directory source : Octets) : Run Bool := do
  let p ← process
  let mut fine := true
  for path in (pathsAlong (withoutSlashes (source.dropWhile (· == '/')))).dropLast do
    let target := join directory path
    if fine && !(← find target true).isOk then
      fine ← change ("cannot make directory ".toList ++ quoteAlways target)
        ((← tree).makeDirectory p.directory (pathOf target) (Mode.masked 0o777 p.umask))
  return fine

/-- Copies or moves operands to a new path, or into a directory. -/
def transfer (x : Transfer) (o : Called) : Run Nat := do
  let act (source target : Octets) : Run Bool :=
    if x.moves then moveTo x source target else copyTo x 4096 true source target
  let isDirectory (path : Octets) : Run Bool := do
    match ← find path true with
    | .ok (_, .directory _) => return true
    | _ => return false
  let into (directory : Octets) (sources : List Octets) : Run Nat := do
    let mut seen : List Octets := []
    let mut fine := true
    for source in sources do
      if !x.moves && seen.contains source then
        complainOf ("warning: source file ".toList ++ quoteAlways source ++
          " specified more than once".toList)
      else if x.withParents then
        let done ← makeParents directory source
        let copied ← act source (join directory (source.dropWhile (· == '/')))
        fine := fine && done && copied
      else
        let done ← act source (join directory (lastName source))
        fine := fine && done
      seen := source :: seen
    return status fine
  match o.value? "t" with
  | some directory =>
    if o.operands.isEmpty then return ← missingOperand "file operand"
    match ← find directory true with
    | .ok (_, .directory _) => into directory o.operands
    | .ok _ => refuseCall ⟨"target directory ".toList ++ quoteAlways directory ++
        ": Not a directory".toList, false, 1⟩
    | .error e => refuseCall ⟨"target directory ".toList ++ quoteAlways directory ++ ": ".toList ++
        reason e, false, 1⟩
  | none =>
    match o.operands.reverse with
    | [] => missingOperand "file operand"
    | [only] => missingOperandAfter' only
    | target :: reversed =>
      let sources := reversed.reverse
      if o.has "T" then
        match sources with
        | [source] => return status (← act source target)
        | _ :: extra :: _ => return ← extraOperand' extra
        | [] => return 0
      if ← isDirectory target then into target sources
      else if x.withParents then
        refuseCall ⟨"with --parents, the destination must be a directory".toList, true, 1⟩
      else match sources with
        | [source] => return status (← act source target)
        | _ =>
          match ← find target true with
          | .ok _ => refuseCall ⟨"target ".toList ++ quoteAlways target ++
              ": Not a directory".toList, false, 1⟩
          | .error e => refuseCall ⟨"target ".toList ++ quoteAlways target ++ ": ".toList ++
              reason e, false, 1⟩
where
  missingOperandAfter' (word : Octets) : Run Nat :=
    refuseCall ⟨"missing destination file operand after ".toList ++ quoteAlways word, true, 1⟩
  extraOperand' (word : Octets) : Run Nat :=
    refuseCall ⟨"extra operand ".toList ++ quoteAlways word, true, 1⟩

def backupNames : List (List String) :=
  [["none", "off"], ["simple", "never"], ["existing", "nil"], ["numbered", "t"]]

/-- Under what names old files are kept, if they are kept. -/
def backupOf (o : Called) : Option Backup :=
  let kind := match (o.last? ["b", "backup"]).bind (·.value) with
    | some word => (wordOf? backupNames word).getD "existing"
    | none => "existing"
  if !(o.has "b" || o.has "backup" || o.has "S") || kind == "none" then none
  else some ⟨(o.value? "S").getD ['~'],
    if kind == "numbered" then some true else if kind == "existing" then some false else none⟩

/-- Checks the words behind options of programs that put files somewhere else. -/
def checkTransferOption (c : Choice) : Option Refusal :=
  let among (groups : List (List String)) (option : String) (several : Bool := false) :
      Option Refusal :=
    match c.value with
    | none => none
    | some text =>
      let words := if several then Text.Chars.splitOn (· == ',') text else [text]
      (words.find? fun word => (wordOf? groups word).isNone).map fun word =>
        let r := wrongWord word option groups
        if option == "backup type" then { r with
          text := "invalid argument ".toList ++ quote word ++ " for 'backup type'".toList ++
            r.text.dropWhile (· != '\n') }
        else r
  let attributes := [["mode"], ["timestamps"], ["ownership"], ["links"], ["context"], ["xattr"], ["all"]]
  match c.key with
  | "backup" => among backupNames "backup type"
  | "update" => among [["all"], ["none"], ["older"]] "--update"
  | "preserve" => among attributes "--preserve" true
  | "no-preserve" => among attributes "--no-preserve" true
  | "reflink" => among [["auto"], ["always"], ["never"]] "--reflink"
  | "sparse" => among [["never"], ["auto"], ["always"]] "--sparse"
  | _ => none

/-- Whether files that are there are left alone because they are not older. -/
def updates (o : Called) : Bool :=
  match o.last? ["u", "update"] with
  | some c => (c.value.bind (wordOf? [["all"], ["none"], ["older"]])) != some "all"
  | none => false

def cp (arguments : List Octets) : Run Nat :=
  withOptions "a,archive b backup? d f,force H i,interactive L,dereference l,link n,no-clobber
    P,no-dereference p preserve? no-preserve= parents R,r,recursive s,symbolic-link S,suffix=
    t,target-directory= T,no-target-directory u update? v,verbose x,one-file-system reflink? sparse=
    remove-destination strip-trailing-slashes attributes-only Z" arguments (fun o => do
    if o.has "n" then complainOf ("warning: behavior of -n is non-portable and may change in " ++
      "future; use --update=none instead").toList
    transfer {
      moves := false, recursive := o.has "R" || o.has "a", force := o.has "f" ||
        o.has "remove-destination"
      asks := o.prevails "i" ["n", "f"], keeps := o.prevails "n" ["i"] || updates o
      tells := o.has "v", preserves := o.has "p" || o.has "a" || o.has "preserve"
      follows := o.has "L"
      links := if o.has "s" then some true else if o.has "l" then some false else none
      followsOperands := !o.has "P" && !o.has "d" && !o.has "a", withParents := o.has "parents"
      emptied := o.has "attributes-only", backup := backupOf o } o) checkTransferOption

def mv (arguments : List Octets) : Run Nat :=
  withOptions "b backup? f,force i,interactive n,no-clobber S,suffix= t,target-directory=
    T,no-target-directory u update? v,verbose strip-trailing-slashes Z" arguments (fun o =>
    transfer {
      moves := true, recursive := true, force := o.has "f", asks := o.prevails "i" ["n", "f"]
      keeps := o.prevails "n" ["i", "f"] || updates o, tellsKept := o.prevails "n" ["i", "f"]
      tells := o.has "v", preserves := true, follows := false
      links := none, backup := backupOf o } o) checkTransferOption

/-! ## Linking -/

/-- Makes one link. -/
def linkTo (symbolic force asks tells : Bool) (keep : Location → Run Unit)
    (target path : Octets) : Run Bool := do
  let p ← process
  let kind := (if symbolic then "symbolic link " else "hard link ").toList
  let failed (e : OsError) : Run Bool := do
    -- A long target is named too when the link itself could not be made.
    complainAbout ("failed to create ".toList ++ kind ++ quoteAlways path ++
      if symbolic || e == .alreadyExists then [] else " => ".toList ++ quoteAlways target) e
    return false
  let entry : Except OsError Entry ← if symbolic then pure (.ok (.link (Octets.decode target)))
    else do pure ((← find target false).map (·.2))
  match entry with
  | .error e =>
    complainAbout ("failed to access ".toList ++ quoteAlways target) e
    return false
  | .ok entry =>
    if symbolic && target.isEmpty then
      complainAbout ("failed to create symbolic link ".toList ++ quoteAlways path ++ " -> ".toList ++
        quoteAlways target) .notFound
      return false
    if entry.isDirectory then
      complainOf (quoteName target ++ ": hard link not allowed for directory".toList)
      return false
    let t ← tree
    match t.locate false p.directory (pathOf path) with
    | .error e => failed e
    | .ok place =>
      let t ← match t.get? place with
        | none => pure t
        | some (.directory _) => return ← failed .alreadyExists
        | some _ =>
          if asks then
            if !(← confirms ("replace ".toList ++ quoteAlways path)) then return false
          keep place
          let t ← tree
          if !force && !asks && (t.get? place).isSome then return ← failed .alreadyExists
          pure (t.erase place)
      match t.create place entry with
      | .error e => failed e
      | .ok t =>
        setTree t
        if tells then
          putLine (quoteAlways path ++ (if symbolic then " -> " else " => ").toList ++
            quoteAlways target)
        return true

def ln (arguments : List Octets) : Run Nat :=
  withOptions "b backup? d,F,directory f,force i,interactive L,logical n,no-dereference P,physical
    r,relative s,symbolic S,suffix= t,target-directory= T,no-target-directory v,verbose" arguments
    (fun o => do
      let link (target path : Octets) : Run Bool :=
        linkTo (o.has "s") (o.has "f") (o.prevails "i" ["f"]) (o.has "v") (backUp (backupOf o))
          target path
      let isDirectory (path : Octets) : Run Bool := do
        match ← find path (!o.has "n") with
        | .ok (_, .directory _) => return true
        | _ => return false
      let into (directory : Octets) (targets : List Octets) : Run Nat :=
        forEach targets fun target => link target (join directory (lastName target))
      match o.value? "t" with
      | some directory => into directory o.operands
      | none =>
        match o.operands with
        | [] => missingOperand "file operand"
        | [target] => into ['.'] [target]
        | [target, path] =>
          if !o.has "T" && (← isDirectory path) then into path [target]
          else return status (← link target path)
        | targets =>
          let directory := targets.getLast?.getD []
          if ← isDirectory directory then into directory targets.dropLast
          else match ← find directory true with
            | .ok _ => refuseCall ⟨"target ".toList ++ quoteAlways directory ++
                ": Not a directory".toList, false, 1⟩
            | .error e => refuseCall ⟨"target ".toList ++ quoteAlways directory ++ ": ".toList ++
                reason e, false, 1⟩)
    checkTransferOption

end NotebookKernel.Shell.Tool
