import NotebookKernel.Shell.Tool.Records.Token

/-! # The state of reading programs over records

A program is read from its tokens with one token of foresight, and faults are said as they are found.
What the names stand for shows as the reading goes on: a name is a variable, an array or a function by
its first use, and an argument that is a mere name is what the parameter is. -/

namespace NotebookKernel.Shell.Tool.Records

/-- What a name is used for, as far as is known. -/
inductive Use where
  | unknown
  | variable
  | array
  | function (index : Nat)

/-- A function, as far as it is known. -/
structure Function where
  name : Octets
  parameters : Array (Octets × Use) := #[]
  body : Option Statement := none

/-- A call of a function. Its arguments are numbered, the last one is first, and one that is a mere
name may be an array. -/
structure Call where
  /-- The function that it stands in. -/
  caller : Option Nat
  callee : Nat
  line : Nat
  arguments : List (Nat × Option Place)

/-- What is being read. -/
inductive Scope where
  | start
  | finish
  | main
  | definition (index : Nat)

/-- Why the reading is broken off. -/
inductive Halt where
  | unexpected
  /-- What is wrong has been said, and nothing further is read. -/
  | over

structure Reading where
  scanner : Scanner
  ahead : Option Token := none
  shared : Array (Octets × Use)
  functions : Array Function := #[]
  calls : List Call := []
  scope : Scope := .main
  /-- How many loops there are around a statement. -/
  loops : Nat := 0
  /-- How many tokens have to be read before a fault is said again. -/
  recovering : Nat := 0

abbrev Read := EStateM Halt Reading

/-- More faults are not looked for. -/
def maxFaults : Nat := 5

namespace Read

/-! ## Faults -/

def modifyScanner (f : Scanner → Scanner) : Read Unit :=
  modify fun r => { r with scanner := f r.scanner }

/-- Says what is wrong, and gives up if it is too much. -/
def blameAt (line : Nat) (text : Octets) : Read Unit := do
  modifyScanner (·.blame line text)
  if maxFaults ≤ (← get).scanner.faults.length then throw .over

/-- Says what is wrong with what is being read. -/
def blame (text : Octets) : Read Unit := do blameAt (← get).scanner.tokenLine text

/-- An unknown byte as it is shown. -/
def shownByte (c : Char) : Octets :=
  if ' ' ≤ c && c ≤ '~' then ['\'', c, '\'']
  else "0x".toList ++ Layout.unsigned { precision := some 2 } 'x' c.toNat

/-! ## Tokens -/

/-- The token that comes next. -/
def peek : Read Token := do
  match (← get).ahead with
  | some t => return t
  | none =>
    let s := (← get).scanner
    match s.scan s.bound with
    | .ok (t, scanner) =>
      modify fun r => { r with scanner, ahead := some t }
      if maxFaults ≤ scanner.faults.length then throw .over
      return t
    | .error text =>
      blameAt s.line text
      throw .over

def advance : Read Unit := modify fun r => { r with ahead := none, recovering := r.recovering - 1 }

def take : Read Token := do
  let t ← peek
  advance
  return t

/-- Complains of the token that comes next. A parenthesis or a brace that is still open may be the
cause. -/
def unexpected {α : Type} : Read α := do
  let t ← peek
  let s := (← get).scanner
  let isEnd := match t with
    | .ending | .newline | .semicolon | .madeSemicolon => true
    | t => t.isMark "\x7d"
  let beginsRule := match t with
    | .ending => true
    | t => t.isKeyword "BEGIN" || t.isKeyword "END"
  if (← get).recovering == 0 then
    match t with
    | .unknown c =>
      let text := Octets.ofNat s.tokenLine ++ ": unexpected character ".toList ++ shownByte c
      modifyScanner fun s => { s with faults := text :: s.faults }
      if maxFaults ≤ (← get).scanner.faults.length then throw .over
    | t =>
      if s.parentheses != 0 && isEnd then
        modifyScanner fun s => { s with parentheses := 0 }
        blame ("missing ) near ".toList ++ t.shown)
      else if s.braces != 0 && beginsRule then
        modifyScanner fun s => { s with braces := 0 }
        blame ("missing \x7d near ".toList ++ t.shown)
      else blame ("syntax error at or near ".toList ++ t.shown)
  modify fun r => { r with recovering := 3 }
  throw .unexpected

def isAhead (text : String) : Read Bool := return (← peek).isMark text

def isWordAhead (text : String) : Read Bool := return (← peek).isKeyword text

def expect (text : String) : Read Unit := do
  if ← isAhead text then advance else unexpected

/-- Takes a mark if it comes next. -/
def takeIf (text : String) : Read Bool := do
  if ← isAhead text then
    advance
    return true
  return false

/-- Leaves out line feeds, which have no meaning here. -/
def overLines : Read Unit := do
  match (← get).ahead with
  | none => modifyScanner Scanner.overLines
  | some .newline => advance
  | some _ => pure ()

/-- The end of a statement. -/
def separator : Read Unit := do
  match ← peek with
  | .newline | .semicolon | .madeSemicolon => advance
  | _ => unexpected

/-! ## Names -/

/-- The index of a parameter of the function that is being read. -/
def parameterIndex? (r : Reading) (name : Octets) : Option Nat :=
  match r.scope with
  | .definition i =>
    match r.functions[i]? with
    | some f => f.parameters.findIdx? fun p => p.1 == name
    | none => none
  | _ => none

def sharedIndex? (r : Reading) (name : Octets) : Option Nat :=
  r.shared.findIdx? fun p => p.1 == name

/-- The place of a name. -/
def placeOf (name : Octets) : Read Place := do
  let r ← get
  match parameterIndex? r name, sharedIndex? r name with
  | some i, _ => return .own i
  | none, some i => return .shared i
  | none, none =>
    set { r with shared := r.shared.push (name, .unknown) }
    return .shared r.shared.size

def useOf (caller : Option Nat) (p : Place) : Read Use := do
  let r ← get
  return match p with
    | .shared i => (r.shared[i]?.map (·.2)).getD .unknown
    | .own i =>
      ((caller.bind fun f => r.functions[f]?.bind fun f => f.parameters[i]?).map (·.2)).getD .unknown

def setUse (caller : Option Nat) (p : Place) (use : Use) : Read Unit := modify fun r =>
  match p, caller with
  | .shared i, _ => { r with shared := r.shared.modify i fun (name, _) => (name, use) }
  | .own i, some f => { r with functions := r.functions.modify f fun f =>
      { f with parameters := f.parameters.modify i fun (name, _) => (name, use) } }
  | .own _, none => r

/-- The function that is being read. -/
def presentFunction : Read (Option Nat) := do
  match (← get).scope with
  | .definition i => return some i
  | _ => return none

/-- Notes that a name is used in some way, which has to agree with how it was used before. -/
def useAs (name : Octets) (isArray : Bool) : Read Place := do
  let p ← placeOf name
  let caller ← presentFunction
  let local_ : String := match p with
    | .own _ => "local "
    | .shared _ => ""
  let refuse (what : String) : Read Unit :=
    blame (("illegal reference to " ++ local_ ++ what ++ " ").toList ++ name)
  match ← useOf caller p, isArray with
  | .unknown, _ => setUse caller p (if isArray then .array else .variable)
  | .variable, true => refuse "variable"
  | .array, false => refuse "array"
  | .function _, _ => refuse "function"
  | _, _ => pure ()
  return p

def asVariable (name : Octets) : Read Target := return .variable (← useAs name false)

/-- The number of the function of a name. A new name gets a new number. -/
def functionNumber (name : Octets) : Read Nat := do
  match (← placeOf name) with
  | .own _ => return 0
  | p =>
    match ← useOf none p with
    | .function i => return i
    | _ =>
      let i := (← get).functions.size
      modify fun r => { r with functions := r.functions.push { name } }
      setUse none p (.function i)
      return i

/-- Whether a name is that of a function. One that is not known yet is if a parenthesis follows at
once. -/
def isFunction (name : Octets) (opens : Bool) : Read Bool := do
  let r ← get
  match parameterIndex? r name, (sharedIndex? r name).bind (r.shared[·]?) with
  | some _, _ => return false
  | none, some (_, .function _) => return true
  | none, some (_, .unknown) | none, none => return opens
  | none, some _ => return false

/-! ## Calls -/

/-- Whether a call has no more arguments than its function has parameters, which is said if not. -/
def isFilled (c : Call) : Read Bool := do
  match (← get).functions[c.callee]? with
  | some f =>
    if c.arguments.any fun (i, _) => f.parameters.size ≤ i then
      blameAt c.line ("too many arguments in call to ".toList ++ f.name)
      return false
    return true
  | none => return false

/-- What an argument is known to be: an expression that is no mere name is no array. -/
def useOfArgument (caller : Option Nat) : Option Place → Read Use
  | some place => useOf caller place
  | none => return .variable

/-- Gives each argument the use of the parameter it is for, or the parameter that of the argument,
whichever is known, and says where they do not agree. What remains are the arguments of which nothing
is known. The last argument comes first. -/
def settle (c : Call) : Read (List (Nat × Option Place)) := do
  let name := ((← get).functions[c.callee]?.map (·.name)).getD []
  let mut unsettled := []
  for (i, argument) in c.arguments do
    let parameter ← useOf (some c.callee) (.own i)
    let said (text : String) : Read Unit :=
      blameAt c.line (("type error in arg(" ++ toString (i + 1) ++ ") in call to ").toList ++
        name ++ text.toList)
    match ← useOfArgument c.caller argument, parameter with
    | .unknown, .unknown => unsettled := (i, argument) :: unsettled
    | .unknown, use => if let some place := argument then setUse c.caller place use
    | use, .unknown => setUse (some c.callee) (.own i) use
    | .variable, .array => said " (actual local variable vs local array)"
    | .array, .variable => said " (actual local array vs local variable)"
    | _, _ => pure ()
  return unsettled

/-- Keeps a call until all is known. If the function is known its arguments are looked at at once. -/
def noteCall (c : Call) : Read Unit := do
  let known := match (← get).functions[c.callee]? with
    | some f => f.body.isSome
    | none => false
  if known then
    if ← isFilled c then
      let arguments ← settle c
      if !arguments.isEmpty then modify fun r => { r with calls := { c with arguments } :: r.calls }
  else modify fun r => { r with calls := c :: r.calls }

/-- Settles calls until nothing is new. -/
def settleAll (calls : List Call) : Nat → Read Unit
  | 0 => pure ()
  | fuel + 1 => do
    let mut changed := false
    let mut more := []
    for c in calls do
      let arguments ← settle c
      changed := changed || arguments.length < c.arguments.length
      if !arguments.isEmpty then more := { c with arguments } :: more
    if changed then settleAll more fuel

/-- Says of which functions there are none, and settles the calls of the others. -/
def checkCalls (line : Nat) (calls : List Call) : Read Unit := do
  let mut more := []
  for c in calls do
    match (← get).functions[c.callee]? with
    | some { name, body := none, .. } =>
      blameAt line ("function ".toList ++ name ++ " never defined".toList)
    | _ => if ← isFilled c then more := c :: more
  settleAll more.reverse ((more.map (·.arguments.length)).foldl (· + ·) 1)

/-- Gives the parameters of a function the uses that a call makes of them. -/
def inherit (c : Call) : Read Unit := do
  for (i, argument) in c.arguments do
    match ← useOfArgument c.caller argument, ← useOf (some c.callee) (.own i) with
    | use, .unknown => setUse (some c.callee) (.own i) use
    | _, _ => pure ()

end Read

end NotebookKernel.Shell.Tool.Records
