import NotebookKernel.Number.FloatText
import NotebookKernel.Shell.Tool.Flow

/-! # Sorting lines

A line is compared by keys, each of which is a part of it under an order of its own. Lines that agree
in all keys are compared as a whole, unless they are to stay as they came. -/

namespace NotebookKernel.Shell.Tool

open Run

/-! ## Orders of texts -/

namespace Order

def bytes : Octets → Octets → Ordering
  | [], [] => .eq
  | [], _ :: _ => .lt
  | _ :: _, [] => .gt
  | a :: as, b :: bs => if a < b then .lt else if b < a then .gt else bytes as bs

/-- A decimal number at the start of a text: its sign, its whole part and its places without the zeros
at the end. -/
structure Decimal where
  negative : Bool
  whole : Nat
  places : Octets

def Decimal.isZero (d : Decimal) : Bool := d.whole == 0 && d.places.isEmpty

def Decimal.ofText (text : Octets) : Decimal :=
  let text := text.dropWhile isBlank
  let negative := text.head? == some '-'
  let text := if negative then text.tail else text
  let digits := text.takeWhile Char.isDigit
  let places := match text.drop digits.length with
    | '.' :: rest => ((rest.takeWhile Char.isDigit).reverse.dropWhile (· == '0')).reverse
    | _ => []
  ⟨negative, digits.foldl (fun n c => 10 * n + (c.toNat - '0'.toNat)) 0, places⟩

def Decimal.compare (a b : Decimal) : Ordering :=
  let size (a b : Decimal) : Ordering :=
    if a.whole != b.whole then Ord.compare a.whole b.whole else bytes a.places b.places
  if a.isZero && b.isZero then .eq
  else match a.negative && !a.isZero, b.negative && !b.isZero with
    | true, false => .lt
    | false, true => .gt
    | false, false => size a b
    | true, true => size b a

def numeric (a b : Octets) : Ordering := (Decimal.ofText a).compare (.ofText b)

/-- The rank of the unit behind a number, which counts more than the number. -/
def unitRank (text : Octets) : Int :=
  let d := Decimal.ofText text
  let body := text.dropWhile isBlank
  let body := if body.head? == some '-' then body.tail else body
  let body := body.dropWhile Char.isDigit
  let body := if body.head? == some '.' then body.tail.dropWhile Char.isDigit else body
  let rank : Nat := match body.head? with
    | some 'k' => 1
    | some c => (("KMGTPEZYRQ".toList.idxOf? c).map (· + 1)).getD 0
    | none => 0
  if d.isZero then 0 else if d.negative then -(rank : Int) else rank

def withUnits (a b : Octets) : Ordering :=
  (compare (unitRank a) (unitRank b)).then (numeric a b)

/-- Numbers in all their written forms. What is no number comes first, and then what is none by name. -/
def general (a b : Octets) : Ordering :=
  let value (text : Octets) : Option Floating :=
    (Floating.read? (text.dropWhile isSpace)).map fun w => (w.1.toFloating .extended).1
  match value a, value b with
  | none, none => .eq
  | none, some _ => .lt
  | some _, none => .gt
  | some x, some y =>
    match x.isUndefined, y.isUndefined with
    | true, true => .eq
    | true, false => .lt
    | false, true => .gt
    | false, false => if x.lt y then .lt else if y.lt x then .gt else .eq

def monthNames : List String :=
  ["JAN", "FEB", "MAR", "APR", "MAY", "JUN", "JUL", "AUG", "SEP", "OCT", "NOV", "DEC"]

/-- The number of the month that a text begins with, or zero. -/
def month (text : Octets) : Nat :=
  let start := ((text.dropWhile isBlank).take 3).map Char.toUpper
  ((monthNames.idxOf? (String.ofList start)).map (· + 1)).getD 0

/-! ### Versions -/

/-- The rank of the first byte of what is left of a version, for the parts that are no numbers. -/
def versionRank : Octets → Int
  | [] => -1
  | c :: _ =>
    if c.isDigit then 0 else if c.isAlpha then (c.toNat : Int)
    else if c == '~' then -2 else (c.toNat : Int) + 256

/-- Compares versions part by part: numbers by value, and what is between them by rank. The fuel bounds
the number of steps. -/
def versionParts : Nat → Octets → Octets → Ordering
  | 0, _, _ => .eq
  | fuel + 1, a, b =>
    let isDigitNext (text : Octets) : Bool := text.isEmpty || text.head?.any Char.isDigit
    if a.isEmpty && b.isEmpty then .eq
    else if !isDigitNext a || !isDigitNext b then
      (compare (versionRank a) (versionRank b)).then (versionParts fuel a.tail b.tail)
    else
      let number (text : Octets) : Octets :=
        (text.dropWhile (· == '0')).takeWhile Char.isDigit
      let rest (text : Octets) : Octets := text.dropWhile Char.isDigit
      let (m, n) := (number a, number b)
      (compare m.length n.length).then ((bytes m n).then (versionParts fuel (rest a) (rest b)))

/-- Whether a text consists of endings of file names, each of which is a point and letters. -/
def isEndings : Octets → Bool
  | [] => true
  | '.' :: c :: rest =>
    (c.isAlpha || c == '~') && isEndings (rest.dropWhile fun c => c.isAlphanum || c == '~')
  | _ => false
  termination_by text => text.length
  decreasing_by
    have := (List.dropWhile_suffix (l := rest) fun c => c.isAlphanum || c == '~').length_le
    simp only [List.length_cons]
    omega

/-- A file name without the endings that are not numbers. -/
def stem (text : Octets) : Octets :=
  let length := (List.range text.length).find? fun n => isEndings (text.drop (n + 1))
  text.take ((length.map (· + 1)).getD text.length)

def version (a b : Octets) : Ordering :=
  let special (text : Octets) : Nat :=
    if text.isEmpty then 0 else if text == ['.'] then 1 else if text == ['.', '.'] then 2
    else if text.head? == some '.' then 3 else 4
  if special a < 3 || special b < 3 || special a != special b then compare (special a) (special b)
  else
    let parts (a b : Octets) : Ordering := versionParts (a.length + b.length + 1) a b
    (parts (stem a) (stem b)).then (parts a b)

end Order

/-! ## Keys -/

/-- How a key is ordered. -/
structure KeyOrder where
  letters : List Char := []
  deriving BEq

namespace KeyOrder

def has (o : KeyOrder) (c : Char) : Bool := o.letters.contains c

def isPlain (o : KeyOrder) : Bool := o.letters.all (· == 'r')

/-- What counts of a text. -/
def prepare (o : KeyOrder) (text : Octets) : Octets :=
  let text := if o.has 'd' then text.filter fun c => isBlank c || c.isAlphanum
    else if o.has 'i' then text.filter isPrintable else text
  if o.has 'f' then text.map Char.toUpper else text

def compare (o : KeyOrder) (a b : Octets) : Ordering :=
  let (a, b) := (o.prepare a, o.prepare b)
  let result :=
    if o.has 'n' then Order.numeric a b
    else if o.has 'g' then Order.general a b
    else if o.has 'h' then Order.withUnits a b
    else if o.has 'M' then Ord.compare (Order.month a) (Order.month b)
    else if o.has 'V' then Order.version a b
    else Order.bytes a b
  if o.has 'r' then result.swap else result

/-- The letters that do not go together, if there are such. -/
def conflict? (o : KeyOrder) : Option Octets :=
  let count := (['n', 'g', 'h', 'M'].filter o.has).length +
    (if o.has 'V' || o.has 'R' || o.has 'd' || o.has 'i' then 1 else 0)
  let shown := "dfghiMnRV".toList.filter fun c => o.has c && !(c == 'i' && o.has 'd')
  if 1 < count then some shown else none

end KeyOrder

/-- Where a key starts or ends: the fields and the bytes that come before. -/
structure KeyPlace where
  fields : Nat
  bytes : Nat
  skipsBlanks : Bool

/-- A part of a line that is compared. -/
structure Key where
  start : KeyPlace
  /-- Without an end, the key goes on to the end of the line. -/
  stop : Option KeyPlace
  order : KeyOrder

/-- What is left of a line behind a number of fields, each with the blanks before it, or up to a
separator. With `whole` the separator of the last field goes too. -/
def dropFields (separator : Option Char) (whole : Bool) : Nat → Octets → Octets
  | 0, text => text
  | n + 1, text =>
    let rest := match separator with
      | some c =>
        let rest := text.dropWhile (· != c)
        if whole || n != 0 then rest.tail else rest
      | none =>
        let isBreak (c : Char) : Bool := isBlank c || c == '\n'
        (text.dropWhile isBreak).dropWhile (!isBreak ·)
    dropFields separator whole n rest

namespace Key

/-- The part of a line that the key names. -/
def text (k : Key) (separator : Option Char) (line : Octets) : Octets :=
  let isBreak (c : Char) : Bool := isBlank c || c == '\n'
  let start := dropFields separator true k.start.fields line
  let start := if k.start.skipsBlanks then start.dropWhile isBreak else start
  let start := start.drop k.start.bytes
  match k.stop with
  | none => start
  | some stop =>
    let rest :=
      if stop.bytes == 0 then dropFields separator false (stop.fields + 1) line
      else
        let rest := dropFields separator true stop.fields line
        (if stop.skipsBlanks then rest.dropWhile isBreak else rest).drop stop.bytes
    start.take (start.length - rest.length)

/-- Reads digits, which there have to be. -/
def readCount (what : String) (text : Octets) : Except Octets (Nat × Octets) :=
  let digits := text.takeWhile Char.isDigit
  match Octets.digitsValue? digits with
  | some n => .ok (n, text.drop digits.length)
  | none => .error ((what ++ ": invalid count at start of ").toList ++ quote text)

/-- Reads the letters of an order. -/
def readLetters (text : Octets) : List Char × Octets :=
  let letters := text.takeWhile "bdfghiMnRrV".toList.contains
  (letters, text.drop letters.length)

/-- Reads a key such as `2.3,4n`. -/
def read (spec : Octets) : Except Octets Key := do
  let wrong {α : Type} (what : String) : Except Octets α :=
    .error ((what ++ ": invalid field specification ").toList ++ quote spec)
  let (field, rest) ← readCount "invalid number at field start" spec
  if field == 0 then wrong "field number is zero"
  let (bytes, rest) ← match rest with
    | '.' :: rest => do
      let (n, rest) ← readCount "invalid number after '.'" rest
      if n == 0 then wrong "character offset is zero" else pure (n - 1, rest)
    | rest => pure (0, rest)
  let (letters, rest) := readLetters rest
  let start : KeyPlace := ⟨field - 1, bytes, letters.contains 'b'⟩
  match rest with
  | ',' :: rest =>
    let (field, rest) ← readCount "invalid number after ','" rest
    if field == 0 then wrong "field number is zero"
    let (bytes, rest) ← match rest with
      | '.' :: rest => readCount "invalid number after '.'" rest
      | rest => pure (0, rest)
    let (more, rest) := readLetters rest
    if !rest.isEmpty then wrong "stray character in field spec"
    let order := ⟨(letters ++ more).filter (· != 'b')⟩
    return ⟨start, some ⟨field - 1, bytes, more.contains 'b'⟩, order⟩
  | rest =>
    if !rest.isEmpty then wrong "stray character in field spec"
    return ⟨start, none, ⟨letters.filter (· != 'b')⟩⟩

/-- Gives a key without an order of its own the common one. -/
def inherit (common : KeyOrder) (skipping : Bool) (k : Key) : Key :=
  if k.order.letters.isEmpty && !k.start.skipsBlanks && !k.stop.any (·.skipsBlanks) then { k with
    order := common
    start := { k.start with skipsBlanks := skipping }
    stop := k.stop.map fun stop => { stop with skipsBlanks := skipping } }
  else k

end Key

/-- How lines are put in order. -/
structure Sorting where
  keys : List Key
  separator : Option Char
  reversed : Bool
  /-- Lines with the same keys are not told apart any more. -/
  keysOnly : Bool

def Sorting.compare (s : Sorting) (a b : Octets) : Ordering :=
  let byKeys := s.keys.foldl (fun result k =>
    result.then (k.order.compare (k.text s.separator a) (k.text s.separator b))) .eq
  if !s.keys.isEmpty && (byKeys != .eq || s.keysOnly) then byKeys
  else
    let whole := Order.bytes a b
    if s.reversed then whole.swap else whole

/-- Leaves out lines that are equal to the one before. -/
def dropEqual (s : Sorting) : List Octets → List Octets
  | a :: b :: rest =>
    if s.compare a b == .eq then dropEqual s (a :: rest) else a :: dropEqual s (b :: rest)
  | lines => lines
  termination_by lines => lines.length

/-- The number of the first line that is out of order. -/
def firstDisorder? (s : Sorting) (strict : Bool) (number : Nat) : List Octets → Option (Nat × Octets)
  | a :: b :: rest =>
    let order := s.compare a b
    if order == .gt || (strict && order == .eq) then some (number + 1, b)
    else firstDisorder? s strict (number + 1) (b :: rest)
  | _ => none

/-- The separator of fields that an option names. -/
def readSeparator (text : Octets) : Except Octets Char :=
  match text with
  | [] => .error "empty tab".toList
  | [c] => .ok c
  | ['\\', '0'] => .ok (Char.ofNat 0)
  | text => .error ("multi-character tab ".toList ++ quote text)

def sortNames : List (List String) :=
  [["general-numeric"], ["human-numeric"], ["month"], ["numeric"], ["random"], ["version"]]

def checkNames : List (List String) := [["quiet", "silent"], ["diagnose-first"]]

def checkSortOption (c : Choice) : Option Refusal :=
  let ofError {α : Type} (r : Except Octets α) : Option Refusal := match r with
    | .error why => some ⟨why, false, 2⟩
    | .ok _ => none
  match c.key with
  | "k" => ofError (Key.read c.text)
  | "t" => ofError (readSeparator c.text)
  | "sort" => if (wordOf? sortNames c.text).isNone then
      some (wrongWord c.text "--sort" sortNames) else none
  | "check" => if c.value.isSome && (wordOf? checkNames c.text).isNone then
      some (wrongWord c.text "--check" checkNames) else none
  | "S" =>
    let digits := c.text.takeWhile Char.isDigit
    let unit := c.text.drop digits.length
    let wrong (why : String) : Option Refusal :=
      some ⟨(why ++ "-S argument ").toList ++ quote c.text, false, 2⟩
    if digits.isEmpty then wrong "invalid "
    else if unit.length < 2 && unit.all "%bKkMmGgTtPEZYRQ".toList.contains then none
    else wrong "invalid suffix in "
  | "parallel" =>
    match Octets.digitsValue? c.text with
    | some 0 => some ⟨"number in parallel must be nonzero".toList, false, 2⟩
    | some _ => none
    | none => some ⟨"invalid --parallel argument ".toList ++ quote c.text, false, 2⟩
  | "batch-size" =>
    match Octets.digitsValue? c.text with
    | some n => if n < 2 then some ⟨"invalid --batch-size argument ".toList ++ quote c.text ++
        "\nsort: minimum --batch-size argument is '2'".toList, false, 2⟩ else none
    | none => some ⟨"invalid --batch-size argument ".toList ++ quote c.text, false, 2⟩
  | _ => none

/-- Reads a place in a line that is counted from zero, with the letters behind it. -/
def oldPlace? (text : Octets) : Option (Nat × Nat × Octets) :=
  let field := text.takeWhile Char.isDigit
  match Octets.digitsValue? field, text.drop field.length with
  | some n, '.' :: rest =>
    let bytes := rest.takeWhile Char.isDigit
    (Octets.digitsValue? bytes).map fun m => (n, m, rest.drop bytes.length)
  | some n, rest => some (n, 0, rest)
  | none, _ => none

def areLetters (text : Octets) : Bool := text.all "bdfghiMnRrV".toList.contains

/-- The start of a key that is given as a word such as `+1.2n`. -/
def oldStart? (word : Octets) : Option Octets :=
  match word with
  | '+' :: text =>
    (oldPlace? text).bind fun (n, m, letters) =>
      if areLetters letters then some (Octets.ofNat (n + 1) ++ '.' :: Octets.ofNat (m + 1) ++ letters)
      else none
  | _ => none

/-- The end of a key that is given as a word such as `-3`, which says what no longer belongs to it. -/
def oldStop? (word : Octets) : Option Octets :=
  match word with
  | '-' :: text =>
    (oldPlace? text).bind fun (n, m, letters) =>
      if !areLetters letters then none
      else if m == 0 then some (',' :: Octets.ofNat n ++ letters)
      else some (',' :: Octets.ofNat (n + 1) ++ '.' :: Octets.ofNat m ++ letters)
  | _ => none

/-- Rewrites keys that are given as words of their own. A key may have begun with the word before. -/
def withOldKeys (begun : Option Octets) : List Octets → List Octets
  | [] => (begun.map fun start => [['-', 'k'], start]).getD []
  | word :: rest =>
    let before := (begun.map fun start => [['-', 'k'], start]).getD []
    match begun, oldStop? word with
    | some start, some stop => ['-', 'k'] :: (start ++ stop) :: withOldKeys none rest
    | _, _ =>
      before ++ match oldStart? word with
        | some start => withOldKeys (some start) rest
        | none => if word == "--".toList then word :: rest else word :: withOldKeys none rest

def sort (arguments : List Octets) : Run Nat :=
  withOptions "b,ignore-leading-blanks C c check? d,dictionary-order f,ignore-case
    g,general-numeric-sort h,human-numeric-sort i,ignore-nonprinting k,key= m,merge M,month-sort
    n,numeric-sort o,output= r,reverse R,random-sort s,stable S,buffer-size= t,field-separator=
    T,temporary-directory= u,unique V,version-sort z,zero-terminated debug files0-from= parallel=
    batch-size= compress-program= random-source= sort=" (withOldKeys none arguments)
    (fun o => do
      let word := ((o.value? "sort").bind (wordOf? sortNames)).getD ""
      let named := match word with
        | "general-numeric" => ['g']
        | "human-numeric" => ['h']
        | "month" => ['M']
        | "numeric" => ['n']
        | "random" => ['R']
        | "version" => ['V']
        | _ => []
      let letters := ("dfghiMnRrV".toList.filter fun c => o.has (String.ofList [c])) ++ named
      let common : KeyOrder := ⟨letters⟩
      let skipping := o.has "b"
      let given := (o.values "k").filterMap fun spec => (Key.read spec).toOption
      let keys := given.map (Key.inherit common skipping)
      let keys := if keys.isEmpty && (!common.isPlain || skipping) then
        [⟨⟨0, 0, skipping⟩, none, common⟩] else keys
      match (if keys.isEmpty then [common] else keys.map (·.order)).findSome? KeyOrder.conflict? with
      | some letters =>
        refuseCall ⟨"options '-".toList ++ letters ++ "' are incompatible".toList, false, 2⟩
      | none =>
        let separator := (o.value? "t").bind fun text => (readSeparator text).toOption
        let s : Sorting := {
          keys, separator, reversed := common.has 'r', keysOnly := o.has "s" || o.has "u" }
        let checking := o.last? ["c", "C", "check"]
        let isQuiet (c : Choice) : Bool := c.key == "C" ||
          (c.value.isSome && wordOf? checkNames c.text == some "quiet")
        let checks := (o.choices.filter fun c => ["c", "C", "check"].contains c.key).map isQuiet
        if checks.contains true && checks.contains false then
          return ← refuseCall ⟨"options '-cC' are incompatible".toList, false, 2⟩
        if checking.isSome && o.has "o" then
          return ← refuseCall ⟨("options '-" ++ (if checks.contains true then "C" else "c") ++
            "o' are incompatible").toList, false, 2⟩
        let mut files := orInput o.operands
        if let some list := o.value? "files0-from" then
          if !o.operands.isEmpty then return ← refuseBesideList (o.operands.headD []) 2
          match ← readWhole list with
          | .error e =>
            complainAbout ("open failed: ".toList ++ quoteName list) e
            return 2
          | .ok text =>
            match (listedNames list text).mapM id with
            | .error why => return ← refuseCall ⟨why, false, 2⟩
            | .ok names => files := names
          if files.isEmpty then
            return ← refuseCall ⟨"no input from ".toList ++ quoteAlways list, false, 2⟩
        if checking.isSome && 1 < files.length then
          return ← refuseCall ⟨"extra operand ".toList ++ quote (files.getD 1 []) ++
            " not allowed with -c".toList, false, 2⟩
        let mut texts : List (List Octets) := []
        for file in files do
          match ← readWhole file with
          | .ok text => texts := texts ++ [linesOf (o.has "z") text]
          | .error e =>
            complainAbout (match e with
              | .isADirectory => "read failed: ".toList ++ quoteName file
              | .badDescriptor => "stat failed: ".toList ++ quoteName file
              | _ => "cannot read: ".toList ++ quoteName file) e
            return 2
        match checking with
        | some c =>
          match firstDisorder? s (o.has "u") 1 texts.flatten with
          | none => return 0
          | some (number, line) =>
            if !isQuiet c then
              complainOf (quoteName (files.headD []) ++ ':' :: Octets.ofNat number ++
                ": disorder: ".toList ++ line)
            return 1
        | none =>
          let le (a b : Octets) : Bool := s.compare a b != .gt
          let sorted := if o.has "m" then texts.foldl (fun all lines => all.merge lines le) []
            else texts.flatten.mergeSort le
          let lines := if o.has "u" then dropEqual s sorted else sorted
          let text := lines.flatMap (· ++ [lineEnd (o.has "z")])
          match o.value? "o" with
          | none =>
            match ← write 1 text with
            | .ok () => return 0
            | .error e =>
              complainAbout "fflush failed: 'standard output'".toList e
              complainOf "write error".toList
              return 2
          | some file =>
            match ← fill file false text with
            | .ok () => return 0
            | .error e =>
              complainAbout ("open failed: ".toList ++ quoteName file) e
              return 2)
    checkSortOption false 2

end NotebookKernel.Shell.Tool
