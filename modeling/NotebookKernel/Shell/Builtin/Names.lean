import NotebookKernel.Machine.ModeChange
import NotebookKernel.Shell.Builtin.Basic

/-! # Commands about names and limits

Aliases and the programs that were found on the search path are listed by buckets. -/

namespace NotebookKernel.Shell.Builtin

open Run

/-! ## Aliases -/

def aliasLine (entry : Octets × Octets) : Octets := entry.1 ++ '=' :: quote entry.2

/-- Sets and lists aliases. -/
def nameAliases (arguments : List Octets) : Run Nat := do
  if arguments.isEmpty then
    let all := inBuckets 39 Prod.fst (← process).aliases
    return ← put (Octets.ofLines (all.map aliasLine))
  let mut result := 0
  for a in arguments do
    -- The first byte belongs to the name in any case.
    match Text.Chars.splitOnce? '=' a.tail with
    | some (name, value) =>
      let name := a.take 1 ++ name
      modifyProcess fun p => { p with
        aliases :=
          if p.aliases.any (·.1 == name) then
            p.aliases.map fun e => if e.1 == name then (name, value) else e
          else p.aliases ++ [(name, value)] }
    | none =>
      match (← process).aliases.lookup a with
      | some value => result := max result (← put (aliasLine (a, value) ++ ['\n']))
      | none =>
        complain ("alias: ".toList ++ a ++ " not found".toList)
        result := 1
  return result

def removeAliases (arguments : List Octets) : Run Nat := do
  let (options, names) ← readOptions "a" "" arguments
  if !options.isEmpty then
    modifyProcess fun p => { p with aliases := [] }
    return 0
  let mut result := 0
  for name in names do
    if ((← process).aliases.lookup name).isNone then
      complain ("unalias: ".toList ++ name ++ " not found".toList)
      result := 1
    modifyProcess fun p => { p with aliases := p.aliases.filter (·.1 != name) }
  return result

/-! ## Programs -/

/-- Remembers where a program was found. -/
def remember (name path : Octets) : Run Unit := modifyProcess fun p =>
  if (p.found.lookup name).isSome then p else { p with found := p.found ++ [(name, path)] }

/-- Looks programs up, or lists those that were found. `isKnown` tells the names that are no programs
of their own. -/
def hash (isKnown : Octets → Bool) (arguments : List Octets) : Run Nat := do
  let (options, names) ← readOptions "r" "" arguments
  if !options.isEmpty then
    modifyProcess fun p => { p with found := [] }
    return 0
  if names.isEmpty then
    let all := inBuckets 31 Prod.fst (← process).found
    return ← put (Octets.ofLines (all.map Prod.snd))
  let mut result := 0
  for name in names do
    modifyProcess fun p => { p with found := p.found.filter (·.1 != name) }
    let p ← process
    let path := (← valueOf? "PATH".toList).map Octets.decode
    if !(isKnown name || (p.functions.lookup name).isSome) then
      match (← tree).findProgram p.directory path (Octets.decode name) with
      | .ok (path, _) =>
        if !name.contains '/' then remember name (Octets.ofString path.text)
      | .error _ =>
        complainHere (name ++ ": not found".toList)
        result := 1
  return result

/-! ## Permissions and limits -/

/-- The permissions that new files get, as a change that would give them. -/
def symbolicMode (mode : Mode) : Octets :=
  let part (name : Char) (bits : Nat) : Octets :=
    [name, '='] ++ (if bits.testBit 2 then ['r'] else []) ++ (if bits.testBit 1 then ['w'] else [])
      ++ (if bits.testBit 0 then ['x'] else [])
  part 'u' (mode / 64 % 8) ++ ',' :: part 'g' (mode / 8 % 8) ++ ',' :: part 'o' (mode % 8)

def umask (arguments : List Octets) : Run Nat := do
  let (options, operands) ← readOptions "S" "" arguments
  let old := (← process).umask
  match operands with
  | [] =>
    if !options.isEmpty then return ← put (symbolicMode (0o777 ^^^ old) ++ ['\n'])
    let digits := Nat.toDigits 8 old
    put (List.replicate (4 - digits.length) '0' ++ digits ++ ['\n'])
  | text :: _ =>
    if (text.head?.map Char.isDigit) == some true then
      if !text.all fun c => '0' ≤ c && c ≤ '7' then refuseNumber text
      let n := text.foldl (fun n c => 8 * n + (c.toNat - '0'.toNat)) 0
      modifyProcess fun p => { p with umask := n % 512 }
      return 0
    match ModeChange.ofText? text with
    | none => refuse ("Illegal mode: ".toList ++ text)
    | some changes =>
      let mode := ModeChange.applyAll old false (0o777 ^^^ old) changes
      modifyProcess fun p => { p with umask := 0o777 ^^^ (mode % 512) }
      return 0

/-- A limit on what a process may use, with the unit that it is counted in. -/
structure Limit where
  letter : Char
  title : String
  value : Option Nat

/-- The limits that every process starts with. -/
def initialLimits : List Limit := [
  ⟨'t', "time(seconds)", none⟩, ⟨'f', "file(blocks)", none⟩, ⟨'d', "data(kbytes)", none⟩,
  ⟨'s', "stack(kbytes)", some 8192⟩, ⟨'c', "coredump(blocks)", none⟩,
  ⟨'m', "memory(kbytes)", none⟩, ⟨'l', "locked memory(kbytes)", some 8192⟩,
  ⟨'p', "process", none⟩, ⟨'n', "nofiles", some 1048576⟩, ⟨'v', "vmemory(kbytes)", none⟩,
  ⟨'w', "locks", none⟩, ⟨'r', "rtprio", some 0⟩]

def limitText : Option Nat → Octets
  | some n => Octets.ofNat n
  | none => "unlimited".toList

/-- The limit of a letter for a process. -/
def limitOf (p : Process) (l : Limit) : Option Nat := (p.limits.lookup l.letter).getD l.value

def ulimit (arguments : List Octets) : Run Nat := do
  let (options, operands) ← readOptions "HSatfdscmlpnvwr" "" arguments
  let letters := (options.map (·.1)).filter fun c => c != 'H' && c != 'S'
  let p ← process
  let all := letters.contains 'a'
  let letter := ((letters.filter (· != 'a')).getLast?).getD 'f'
  match operands with
  | [] =>
    if all then
      return ← put (Octets.ofLines (initialLimits.map fun l =>
        l.title.toList ++ List.replicate (20 - l.title.length) ' ' ++ ' ' :: limitText (limitOf p l)))
    match initialLimits.find? (·.letter == letter) with
    | some l => put (limitText (limitOf p l) ++ ['\n'])
    | none => return 0
  | [text] =>
    if all then refuse "too many arguments".toList
    let value ← if text == "unlimited".toList then pure none
      else match Octets.digitsValue? text with
        | some n => pure (some n)
        | none => refuse "bad number".toList
    modifyProcess fun p => { p with
      limits := (letter, value) :: p.limits.filter (·.1 != letter) }
    return 0
  | _ => refuse "too many arguments".toList

end NotebookKernel.Shell.Builtin
