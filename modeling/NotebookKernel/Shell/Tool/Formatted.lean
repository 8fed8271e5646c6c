import NotebookKernel.Shell.Layout
import NotebookKernel.Shell.Tool.Flow

/-! # Formatted output

`printf` prints its arguments by a format, and `seq` prints numbers in equal steps. -/

namespace NotebookKernel.Shell.Tool

open Run

namespace Formatting

/-- What goes on while a format is printed. -/
inductive Event where
  | output (text : Octets)
  | complaint (text : Octets)

/-- How far printing has come. Events are kept in reverse. -/
structure Progress where
  events : List Event := []
  arguments : List Octets
  failed : Bool := false
  /-- Whether no more is printed. -/
  ended : Bool := false
  consumed : Bool := false

namespace Progress

def put (p : Progress) (text : Octets) : Progress := { p with events := .output text :: p.events }

def warn (p : Progress) (text : Octets) : Progress := { p with events := .complaint text :: p.events }

def fail (p : Progress) (text : Octets) : Progress := { p.warn text with failed := true }

/-- Fails and ends. -/
def die (p : Progress) (text : Octets) : Progress := { p.fail text with ended := true }

def take (p : Progress) : Option Octets × Progress :=
  match p.arguments with
  | [] => (none, p)
  | a :: rest => (some a, { p with arguments := rest, consumed := true })

/-- Complains about an argument that is no number, or not as a whole. -/
def check (p : Progress) (argument rest : Octets) (outOfRange : Bool) : Progress :=
  if outOfRange then p.fail (quote argument ++ ": Numerical result out of range".toList)
  else if rest.isEmpty then p
  else p.fail (quote argument ++ (if rest.length == argument.length then
    ": expected a numeric value" else ": value not completely converted").toList)

/-- The number of the character behind a quote, if an argument is one. -/
def character? (p : Progress) (text : Octets) : Option (Nat × Progress) :=
  match text with
  | q :: c :: rest =>
    if q != '"' && q != '\'' then none
    else some (c.toNat, if rest.isEmpty then p else p.warn ("warning: ".toList ++ rest ++
      ": character(s) following character constant have been ignored".toList))
  | _ => none

def takeInteger (p : Progress) (signed : Bool) : Int × Progress :=
  match p.take with
  | (none, p) => (0, p)
  | (some text, p) =>
    match p.character? text with
    | some (n, p) => (n, p)
    | none =>
      let (n, rest) := (Arithmetic.leading? none text).getD (0, text)
      let size : Int := (Nat.pow 2 64 : Nat)
      let clamped := if signed then max Arithmetic.least (min Arithmetic.greatest n)
        else if n ≤ -size || size ≤ n then size - 1 else n
      (clamped, p.check text rest (clamped != n))

def takeFloating (p : Progress) : Floating × Progress :=
  match p.take with
  | (none, p) => (.zero, p)
  | (some text, p) =>
    match p.character? text with
    | some (n, p) => (Floating.ofInt .extended n, p)
    | none =>
      match Floating.read? (text.dropWhile isSpace) with
      | none => (.zero, p.check text text false)
      | some (written, rest) =>
        let (x, outOfRange) := written.toFloating .extended
        (x, p.check text rest outOfRange)

end Progress

/-- Prints the escape behind a backslash, and gives what follows it. -/
def escape (inArgument : Bool) (text : Octets) (p : Progress) : Octets × Progress :=
  let isOctal (c : Char) : Bool := '0' ≤ c && c ≤ '7'
  match text with
  | [] => ([], p.put ['\\'])
  | c :: rest =>
    let letter? : Option Char := match c with
      | '"' => some '"'
      | '\\' => some '\\'
      | 'a' => some '\x07'
      | 'b' => some '\x08'
      | 'e' => some '\x1b'
      | 'f' => some '\x0c'
      | 'n' => some '\n'
      | 'r' => some '\r'
      | 't' => some '\t'
      | 'v' => some '\x0b'
      | _ => none
    match letter? with
    | some char => (rest, p.put [char])
    | none =>
      if c == 'c' then ([], { p with ended := true })
      else if c == 'x' then
        let digits := (rest.takeWhile fun c => (Hex.value? c).isSome).take 2
        if digits.isEmpty then ([], p.die "missing hexadecimal number in escape".toList)
        else
          let n := digits.foldl (fun n c => 16 * n + (Hex.value? c).getD 0) 0
          (rest.drop digits.length, p.put [Char.ofNat n])
      else if isOctal c then
        let all := if inArgument && c == '0' then rest else c :: rest
        let digits := (all.takeWhile isOctal).take 3
        let n := digits.foldl (fun n d => 8 * n + (d.toNat - '0'.toNat)) 0
        (all.drop digits.length, p.put [Char.ofNat (n % 256)])
      else if c == 'u' || c == 'U' then
        let count := if c == 'u' then 4 else 8
        let digits := (rest.takeWhile fun c => (Hex.value? c).isSome).take count
        if digits.length < count then ([], p.die "missing hexadecimal number in escape".toList)
        else
          let n := digits.foldl (fun n c => 16 * n + (Hex.value? c).getD 0) 0
          let shown (width : Nat) : Octets :=
            let hex := (Nat.toDigits 16 n).map Char.toUpper
            List.replicate (width - hex.length) '0' ++ hex
          if (n < 160 && n != 0x24 && n != 0x40 && n != 0x60) || (0xD800 ≤ n && n ≤ 0xDFFF) then
            ([], p.die ("invalid universal character name \\".toList ++ c ::
              shown (if c == 'u' then 4 else 8)))
          else if n < 128 then (rest.drop count, p.put [Char.ofNat n])
          else (rest.drop count, p.put (if n < 0x10000 then "\\u".toList ++ shown 4
            else "\\U".toList ++ shown 8))
      else (rest, p.put ['\\', c])

/-- Prints an argument with its escapes. The fuel bounds its length. -/
def escapes : Nat → Octets → Progress → Progress
  | 0, _, p => p
  | _, [], p => p
  | fuel + 1, c :: rest, p =>
    if p.ended then p
    else if c == '\\' then
      let (rest, p) := escape true rest p
      escapes fuel rest p
    else escapes fuel rest (p.put [c])

/-- A width or precision, which may be the next argument. -/
def size (text : Octets) (p : Progress) : Option Int × Octets × Progress :=
  match text with
  | '*' :: rest =>
    let (n, p) := p.takeInteger true
    (some n, rest, p)
  | text =>
    let digits := text.takeWhile Char.isDigit
    ((Octets.digitsValue? digits).map Int.ofNat, text.drop digits.length, p)

/-- Whether flags, and a precision, go with the letter of a directive. -/
def allows (flags : Octets) (precise : Bool) (letter : Char) : Bool :=
  let letters := "diouxXfFeEgGaAcs".toList
  letters.contains letter && !(flags.contains '#' && "cdisu".toList.contains letter) &&
    !(flags.contains '0' && "cs".toList.contains letter) && !(precise && letter == 'c') &&
    !(flags.contains '\'' && "aAceEosxX".toList.contains letter)

/-- Prints by the directive behind a percent sign, and gives what follows it. -/
def direct (text : Octets) (p : Progress) : Octets × Progress :=
  match text with
  | '%' :: rest => (rest, p.put ['%'])
  | 'b' :: rest =>
    let (a, p) := p.take
    let text := a.getD []
    (rest, escapes (text.length + 1) text p)
  | 'q' :: rest =>
    let (a, p) := p.take
    (rest, match a with
      | some text => p.put (quoteIfNeeded text)
      | none => p)
  | text =>
    let flags := text.takeWhile "-+ #0'I".toList.contains
    let (width, rest, p) := size (text.drop flags.length) p
    let (precision, rest, p) := match rest with
      | '.' :: rest =>
        let (n, rest, p) := size rest p
        (some (n.getD 0), rest, p)
      | rest => (none, rest, p)
    let rest := rest.dropWhile "hjlLtz".toList.contains
    let invalid : Octets × Progress :=
      let shown := text.take (text.length - rest.length + 1)
      ([], p.die ('%' :: shown ++ ": invalid conversion specification".toList))
    match rest with
    | [] => invalid
    | c :: after =>
      if !allows flags precision.isSome c then invalid
      else
        let layout := Layout.ofParts flags (width.getD 0) precision
        (after, match c with
          | 'd' | 'i' =>
            let (n, p) := p.takeInteger true
            p.put (layout.signed n)
          | 'o' | 'u' | 'x' | 'X' =>
            let (n, p) := p.takeInteger false
            p.put (layout.unsigned c (n.emod (Nat.pow 2 64)).toNat)
          | 'c' =>
            let (a, p) := p.take
            match a with
            | none => p.put (layout.pad [])
            | some text => p.put (layout.pad [(text.head?).getD (Char.ofNat 0)])
          | 's' =>
            let (a, p) := p.take
            p.put (layout.text (a.getD []))
          | _ =>
            let (x, p) := p.takeFloating
            p.put (layout.floating .extended c x))

/-- Goes through a format once. The fuel bounds its length. -/
def pass : Nat → Octets → Progress → Progress
  | 0, _, p => p
  | _, [], p => p
  | fuel + 1, c :: rest, p =>
    if p.ended then p
    else if c == '\\' then
      let (rest, p) := escape false rest p
      pass fuel rest p
    else if c == '%' then
      let (rest, p) := direct rest p
      pass fuel rest p
    else pass fuel rest (p.put [c])

/-- Goes through a format until the arguments are used up. -/
def passes (format : Octets) : Nat → Progress → Progress
  | 0, p => p
  | fuel + 1, p =>
    let p := pass (format.length + 1) format { p with consumed := false }
    if p.ended || p.arguments.isEmpty then p
    else if p.consumed then passes format fuel p
    else p.warn ("warning: ignoring excess arguments, starting with ".toList ++
      quote (p.arguments.headD []))

end Formatting

def printf (arguments : List Octets) : Run Nat := do
  let arguments := if arguments.head? == some "--".toList then arguments.tail else arguments
  match arguments with
  | [] => missingOperand
  | format :: arguments =>
    let printed := Formatting.passes format (arguments.length + 2) { arguments }
    let mut pending : Octets := []
    for event in printed.events.reverse do
      match event with
      | .output text => pending := text.reverse ++ pending
      | .complaint text =>
        put pending.reverse
        pending := []
        complainOf text
    put pending.reverse
    return status (!printed.failed)

/-! ## Sequences -/

/-- A number of a sequence, with the width and the places that it was written with. -/
structure Bound where
  value : Floating
  width : Int
  /-- Unless the number is not written in decimal. -/
  places : Option Int

/-- The width and the places of a number as it was written. -/
def Bound.read (text : Octets) : Option Bound :=
  match Floating.read? (text.dropWhile isSpace) with
  | some (written, []) =>
    let value := (written.toFloating .extended).1
    let text := text.dropWhile fun c => isSpace c || c == '+'
    let isFinite := match value with
      | .finite _ _ _ => true
      | _ => false
    let point := text.idxOf? '.'
    let base : Option Int := if point.isNone && !text.contains 'p' then some 0 else none
    if text.any (fun c => c == 'x' || c == 'X') || !isFinite then some ⟨value, 0, base⟩
    else
      let fraction := match point with
        | some n => ((text.drop (n + 1)).takeWhile fun c => c != 'e' && c != 'E').length
        | none => 0
      let before : Option Char := point.bind fun n => if n == 0 then none else text[n - 1]?
      let width : Int := text.length + match point with
        | some _ => if fraction == 0 then -1 else if before.any Char.isDigit then 0 else 1
        | none => 0
      let places : Int := if point.isSome then fraction else base.getD 0
      match text.findIdx? fun c => c == 'e' || c == 'E' with
      | none => some ⟨value, width, some places⟩
      | some e =>
        let exponent := match text.drop (e + 1) with
          | '-' :: digits => -((Octets.digitsValue? digits).getD 0 : Int)
          | '+' :: digits => ((Octets.digitsValue? digits).getD 0 : Int)
          | digits => ((Octets.digitsValue? digits).getD 0 : Int)
        let newPlaces := places + if exponent < 0 then -exponent else -(min places exponent)
        let width := width - (text.length - e : Nat)
        let width :=
          if exponent < 0 then
            (if point.isSome then if point.any (· + 1 == e) then width + 1 else width else width + 1)
              + -exponent
          else
            (if point.isSome && newPlaces == 0 && fraction != 0 then width - 1 else width) +
              (exponent - min (fraction : Int) exponent)
        some ⟨value, width, some newPlaces⟩
  | _ => none

/-- The directive of a format for a floating-point number: what comes before and behind it, its flags,
width, precision and letter. -/
structure FloatDirective where
  before : Octets := []
  layout : Layout := {}
  letter : Char := 'g'
  after : Octets := []

def FloatDirective.text (d : FloatDirective) (x : Floating) : Octets :=
  d.layout.floating .extended d.letter x

/-- The end of a format behind its directive, with percent signs written twice. -/
def plainFormat? : Octets → Option Octets
  | [] => some []
  | '%' :: '%' :: rest => (plainFormat? rest).map ('%' :: ·)
  | '%' :: _ => none
  | c :: rest => (plainFormat? rest).map (c :: ·)

/-- Reads the start of a format up to its directive. -/
def formatStart : Octets → Octets × Octets
  | [] => ([], [])
  | '%' :: '%' :: rest =>
    let (start, rest) := formatStart rest
    ('%' :: start, rest)
  | '%' :: rest => ([], '%' :: rest)
  | c :: rest =>
    let (start, rest) := formatStart rest
    (c :: start, rest)

def FloatDirective.read (format : Octets) : Except Octets FloatDirective :=
  let (before, rest) := formatStart format
  match rest with
  | [] => .error ("format ".toList ++ quote format ++ " has no % directive".toList)
  | _ :: text =>
    let flags := text.takeWhile "-+#0 '".toList.contains
    let rest := text.drop flags.length
    let width := rest.takeWhile Char.isDigit
    let rest := rest.drop width.length
    let (precision, rest) : Option Int × Octets := match rest with
      | '.' :: rest =>
        let digits := rest.takeWhile Char.isDigit
        (some ((Octets.digitsValue? digits).getD 0 : Nat), rest.drop digits.length)
      | rest => (none, rest)
    let rest := if rest.head? == some 'L' then rest.tail else rest
    match rest with
    | [] => .error ("format ".toList ++ quote format ++ " ends in %".toList)
    | letter :: after =>
      if !"efgaEFGA".toList.contains letter then
        .error ("format ".toList ++ quote format ++ " has unknown %".toList ++ letter ::
          " directive".toList)
      else match plainFormat? after with
        | none => .error ("format ".toList ++ quote format ++ " has too many % directives".toList)
        | some after =>
          .ok { before, letter, after
                layout := Layout.ofParts flags (((Octets.digitsValue? width).getD 0 : Nat)) precision }

/-- The numbers from one to another in steps. The one that comes first is always the product of step
and number, so that errors do not add up. A number just past the last one still counts if it is printed
as the last one is. The fuel bounds how many there are. -/
def sequence (d : FloatDirective) (first step last : Floating) :
    (fuel count : Nat) → (x : Floating) → (past : Bool) → List Octets
  | 0, _, _, _ => []
  | fuel + 1, count, x, past =>
    let text := d.text x
    if past then [text]
    else
      let next := Floating.add .extended first
        (Floating.mul .extended (Floating.ofInt .extended count) step)
      let isPast := if step.lt .zero then next.lt last else last.lt next
      if !isPast then text :: sequence d first step last fuel (count + 1) next false
      else
        let shown := d.text next
        let reads := match Floating.read? shown with
          | some (w, []) => (w.toFloating .extended).1.eq last
          | _ => false
        if reads && shown != text then text :: sequence d first step last fuel (count + 1) next true
        else [text]

/-- Splits options from numbers, the first of which may be negative. -/
def seqArguments : List Octets → List Octets × List Octets
  | [] => ([], [])
  | word :: rest =>
    match word with
    | ['-', '-'] => ([], rest)
    | '-' :: c :: more =>
      if c == '.' || c.isDigit then ([], word :: rest)
      else
        let takesNext := (more.isEmpty && (c == 's' || c == 'f')) ||
          (c == '-' && !more.contains '=' && more.head?.any fun d => d == 's' || d == 'f')
        match rest, takesNext with
        | value :: rest, true =>
          let (options, numbers) := seqArguments rest
          (word :: value :: options, numbers)
        | rest, _ =>
          let (options, numbers) := seqArguments rest
          (word :: options, numbers)
    | _ => ([], word :: rest)

def seq (arguments : List Octets) : Run Nat :=
  let (options, numbers) := seqArguments arguments
  withOptions "f,format= s,separator= w,equal-width" options fun o => do
    match numbers with
    | [] => missingOperand
    | _ :: _ :: _ :: extra :: _ => extraOperand extra
    | numbers =>
      let directive := (o.value? "f").map FloatDirective.read
      match directive with
      | some (.error why) => refuseCall ⟨why, false, 1⟩
      | _ =>
        if o.has "f" && o.has "w" then
          return ← refuseCall ⟨
            "format string may not be specified when printing equal width strings".toList, true, 1⟩
        match numbers.find? fun text => (Bound.read text).isNone with
        | some text => refuseCall ⟨"invalid floating point argument: ".toList ++ quote text, true, 1⟩
        | none =>
          let one : Bound := ⟨Floating.ofInt .extended 1, 1, some 0⟩
          let bounds := numbers.map fun text => (Bound.read text).getD one
          match (bounds.zip numbers).find? (·.1.value.isUndefined) with
          | some (_, text) =>
            return ← refuseCall ⟨"invalid 'not-a-number' argument: ".toList ++ quote text, true, 1⟩
          | none => pure ()
          let (first, step, last) := match bounds with
            | [last] => (one, one, last)
            | [first, last] => (first, one, last)
            | first :: step :: last :: _ => (first, step, last)
            | [] => (one, one, one)
          if step.value.isZero then
            return ← refuseCall ⟨"invalid Zero increment value: ".toList ++
              quote (numbers.getD 1 []), true, 1⟩
          let plain : FloatDirective :=
            match first.places, step.places, last.places with
            | some a, some b, some c =>
              let places := max a b
              let width :=
                if !o.has "w" then 0
                else
                  let firstWidth := first.width + (places - a) + if a == 0 && places != 0 then 1 else 0
                  let lastWidth := last.width + (places - c) -
                    (if c != 0 && places == 0 then 1 else 0) + if c == 0 && places != 0 then 1 else 0
                  max firstWidth lastWidth
              { letter := 'f', layout := { zeros := o.has "w", width := width.toNat
                                           precision := some places.toNat } }
            | _, _, _ => { letter := 'g' }
          let d := match directive with
            | some (.ok d) => d
            | _ => plain
          let outside := if step.value.lt .zero then first.value.lt last.value
            else last.value.lt first.value
          if outside then return 0
          let texts := sequence d first.value step.value last.value 1000000 1 first.value false
          let separator := (o.value? "s").getD ['\n']
          put (List.intercalate separator (texts.map fun text => d.before ++ text ++ d.after) ++ ['\n'])
          return 0

end NotebookKernel.Shell.Tool
