import NotebookKernel.Shell.Printing
import NotebookKernel.Number.FloatText
import NotebookKernel.Shell.Tool.Basic

/-! # Programs about words

They work on their arguments and on the environment, and read nothing. -/

namespace NotebookKernel.Shell.Tool

open Run

/-- The plain `echo`, to which a backslash is nothing special unless it is asked for. -/
def echo (arguments : List Octets) : Run Nat := do
  let isOption (word : Octets) : Bool :=
    word.head? == some '-' && word.length > 1 && word.tail.all ['n', 'e', 'E'].contains
  let options := (arguments.takeWhile isOption).flatMap (·.tail)
  let text := List.intercalate [' '] (arguments.dropWhile isOption)
  let escapes := (options.filter (· != 'n')).getLast? == some 'e'
  let (text, ended) := if escapes then Escape.expand (text.length + 1) text true else (text, false)
  put (if ended || options.contains 'n' then text else text ++ ['\n'])
  return 0

/-! ## Paths -/

/-- The last name of a path, without an ending. -/
def baseName (path ending : Octets) : Octets :=
  let last := lastName path
  if !ending.isEmpty && ending != last && ending.isSuffixOf last && last != ['/'] then
    last.take (last.length - ending.length)
  else last

def basename (arguments : List Octets) : Run Nat :=
  withOptions "a,multiple s,suffix= z,zero" arguments (fun o => do
    let stop := [lineEnd (o.has "z")]
    let many := o.has "a" || o.has "s"
    match o.operands with
    | [] => missingOperand
    | path :: more =>
      if many then
        put (o.operands.flatMap fun path => baseName path ((o.value? "s").getD []) ++ stop)
        return 0
      match more with
      | _ :: extra :: _ => extraOperand extra
      | more =>
        put (baseName path (more.headD []) ++ stop)
        return 0) (fun _ => none) true

def dirname (arguments : List Octets) : Run Nat :=
  withOptions "z,zero" arguments (fun o => do
    if o.operands.isEmpty then return ← missingOperand
    put (o.operands.flatMap fun path => parentOf path ++ [lineEnd (o.has "z")])
    return 0) (fun _ => none) true

/-- The path of the directory that the process is in. -/
def pwd (arguments : List Octets) : Run Nat :=
  withOptions "L,logical P,physical" arguments fun o => do
    if !o.operands.isEmpty then complainOf "ignoring non-option arguments".toList
    putLine (Octets.ofString (Location.path (← process).directory).text)
    return 0

/-- The paths of the programs of a name, in the order in which they are looked for. -/
def pathsOf (name : Octets) : Run (List Octets) := do
  let p ← process
  let t ← tree
  let dirs := Text.Chars.splitOn (· == ':') (← valueOf "PATH")
  let all := if name.contains '/' then [name]
    else dirs.map fun dir => join (if dir.isEmpty then ['.'] else dir) name
  return all.filter fun path => t.isExecutable p.directory (pathOf path)

def which (arguments : List Octets) : Run Nat :=
  let isOption (word : Octets) : Bool := word.head? == some '-' && 1 < word.length
  let options := (arguments.takeWhile isOption).flatMap (·.tail)
  match options.find? (fun c => !(c == 'a' || c == 's')) with
  | some c => do
    complain ("Illegal option -".toList ++ [c])
    let own ← pathsOf (← process).name
    putLine ("Usage: ".toList ++ own.headD (← process).name ++ " [-as] args".toList)
    return 2
  | none => do
    let names := arguments.dropWhile isOption
    let all ← names.mapM pathsOf
    let found := if options.contains 'a' then all else all.map (·.take 1)
    if !options.contains 's' then put (Octets.ofLines found.flatten)
    return status (!names.isEmpty && found.all (!·.isEmpty))

/-! ## The environment -/

def printenv (arguments : List Octets) : Run Nat :=
  withOptions "0,null" arguments (fun o => do
    let all ← exports
    let stop := [lineEnd (o.has "0")]
    if o.operands.isEmpty then
      put (all.flatMap fun (name, value) => name ++ '=' :: value ++ stop)
      return 0
    let found := o.operands.map fun name => all.lookup name
    put ((found.filterMap id).flatMap (· ++ stop))
    return status (found.all Option.isSome)) (fun _ => none) true 2

/-- Says what system this is. -/
def uname (arguments : List Octets) : Run Nat :=
  withOptions "a,all s,kernel-name n,nodename r,release,kernel-release v,kernel-version m,machine
    p,processor i,hardware-platform o,operating-system" arguments fun o => do
    match o.operands with
    | extra :: _ => extraOperand extra
    | [] =>
      let parts := [("s", "Linux"), ("m", "x86_64"), ("o", "GNU/Linux")]
      let chosen := parts.filter fun (key, _) =>
        o.has "a" || o.has key || (key == "s" && o.choices.isEmpty)
      putLine (List.intercalate [' '] (chosen.map (·.2.toList)))
      return 0

/-- Says which terminal is read from, which is none. -/
def tty (arguments : List Octets) : Run Nat :=
  withOptions "s,silent,quiet" arguments (fun o => do
    match o.operands with
    | extra :: _ => extraOperand extra 2
    | [] =>
      if !o.has "s" then putLine "not a tty".toList
      return 1) (fun _ => none) false 2

/-! ## Time -/

/-- The nanoseconds of a time in seconds, minutes, hours or days, rounded up. -/
def duration? (text : Octets) : Option Nat :=
  match Floating.read? text with
  | some (.ratio negative n d, unit) =>
    let seconds : Option Nat := match unit with
      | [] | ['s'] => some 1
      | ['m'] => some 60
      | ['h'] => some 3600
      | ['d'] => some 86400
      | _ => none
    if negative && n != 0 then none
    else seconds.map fun s => (n * s * 1000000000 + d - 1) / d
  | some (.infinite false, []) => some (Nat.pow 10 18)
  | _ => none

def sleep (arguments : List Octets) : Run Nat :=
  withOptions "" arguments fun o => do
    if o.operands.isEmpty then return ← missingOperand
    match o.operands.filter fun text => (duration? text).isNone with
    | [] =>
      spend ((o.operands.filterMap duration?).foldl (· + ·) 0)
      return 0
    | wrong =>
      for text in wrong do complainOf ("invalid time interval ".toList ++ quote text)
      hint
      return 1

/-! ## Factors -/

/-- The prime factors of a number from a divisor on, as far as they are small. The fuel bounds the
number of divisors. -/
def factorsFrom : Nat → (divisor n : Nat) → List Nat
  | 0, _, n => if n < 2 then [] else [n]
  | fuel + 1, d, n =>
    if n < 2 then []
    else if n < d * d then [n]
    else if n % d == 0 then d :: factorsFrom fuel d (n / d)
    else factorsFrom fuel (if d == 2 then 3 else d + 2) n

def factor (arguments : List Octets) : Run Nat :=
  withOptions "h,exponents" arguments fun o => do
    let mut fine := true
    let mut shown : List Octets := []
    let mut words := o.operands
    if o.operands.isEmpty then
      match ← readWhole ['-'] with
      | .ok text => words := (Text.Chars.splitOn isSpace text).filter (!·.isEmpty)
      | .error e =>
        complainAbout "error reading input".toList e
        return 1
    for word in words do
      let digits := word.dropWhile isSpace
      let digits := if digits.head? == some '+' then digits.tail else digits
      match Octets.digitsValue? digits with
      | none =>
        complainOf (quote word ++ " is not a valid positive integer".toList)
        fine := false
      | some n =>
        let factors := factorsFrom 2000000 2 n
        let written : List Octets :=
          if o.has "h" then factors.eraseDups.map fun p =>
            let k := factors.count p
            if k == 1 then Octets.ofNat p else Octets.ofNat p ++ '^' :: Octets.ofNat k
          else factors.map Octets.ofNat
        shown := (Octets.ofNat n ++ ':' :: written.flatMap (' ' :: ·)) :: shown
    put (Octets.ofLines shown.reverse)
    return status fine

end NotebookKernel.Shell.Tool
