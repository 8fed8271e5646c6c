import NotebookKernel.Number.Binary64
import NotebookKernel.Shell.Layout
import NotebookKernel.Shell.Tool.Basic
import NotebookKernel.Shell.Tool.Records.Program

/-! # Values of programs over records

A value is a number, a text, or text from the input, which counts as a number where it looks like one.
What was never given a value is both nothing and the empty text. -/

namespace NotebookKernel.Shell.Tool.Records

inductive Value where
  | unset
  | number (x : Float)
  | text (t : Octets)
  /-- Text of the input. -/
  | given (t : Octets)

namespace Value

/-! ## Numbers -/

/-- A number as it is read and written. The undefined one that calculations lead to is negative. -/
def floatingOf (x : Float) : Floating :=
  if x.isNaN then .undefined true
  else if x.isInf then .infinite (x < 0)
  else
    let b := Binary64.ofFloat x
    .finite b.negative b.mantissa b.exponent

def floatOf : Floating → Float
  | .finite negative m e =>
    let x := (Float.ofNat m).scaleB e
    if negative then -x else x
  | .infinite negative => if negative then -1 / 0 else 1 / 0
  | .undefined _ => 0 / 0

/-- The number that a text begins with, and what follows it. -/
def numberIn? (text : Octets) : Option (Float × Octets) :=
  (Floating.read? text).map fun (w, rest) => (floatOf (w.toFloating .double).1, rest)

/-- What a text counts as. Short whole numbers, which are common, are read at once. -/
def numberAt (text : Octets) : Float :=
  let body := text.dropWhile isSpace
  let digits := body.takeWhile Char.isDigit
  let isWhole := match body.drop digits.length with
    | [] => true
    | c :: _ => not (['.', 'e', 'E', 'x', 'X'].contains c)
  if !digits.isEmpty && digits.length ≤ 15 && isWhole then
    Float.ofNat ((Octets.digitsValue? digits).getD 0)
  else ((numberIn? body).map (·.1)).getD 0

/-- The number that a text of the input looks like. -/
def likeness? (text : Octets) : Option Float :=
  let body := ((text.dropWhile isSpace).reverse.dropWhile isSpace).reverse
  match body.head?, body.getLast? with
  | some first, some last =>
    if (first.isDigit || first == '+' || first == '-' || first == '.') &&
        (last.isDigit || last == '.') then
      if body.length ≤ 15 && body.all Char.isDigit then
        some (Float.ofNat ((Octets.digitsValue? body).getD 0))
      else match numberIn? body with
        | some (x, []) => some x
        | _ => none
    else none
  | _, _ => none

def toNumber : Value → Float
  | unset => 0
  | number x => x
  | text t | given t => numberAt t

/-- The number that a value is, if it is one. -/
def number? : Value → Option Float
  | unset => some 0
  | number x => some x
  | text _ => none
  | given t => likeness? t

def ofBool (b : Bool) : Value := number (if b then 1 else 0)

def ofNat (n : Nat) : Value := number (Float.ofNat n)

/-- The size of a number without its places, up to the greatest word. -/
def wholePart (x : Float) : Nat := x.abs.toUInt64.toNat

/-- A whole number, as far as words of the machine reach. -/
def toWhole (x : Float) : Int :=
  if x.isNaN then -9223372036854775808
  else if 9223372036854775807 ≤ x then 9223372036854775807
  else if x ≤ -9223372036854775807 then -9223372036854775807
  else if x < 0 then -(wholePart x : Int)
  else wholePart x

/-- A whole number without a sign. Negative ones count from the end of the words. -/
def toWord (x : Float) : Nat :=
  if x.isNaN then 9223372036854775808
  else if 0 ≤ x then wholePart x
  else if x ≤ -18446744073709551615 then 1
  else if x ≤ -9223372036854775808 then 9223372036854775808
  else (18446744073709551616 - wholePart x) % 18446744073709551616

/-- Whether a number is whole and has all its digits in words. -/
def isWhole (x : Float) : Bool :=
  x == x.floor && -9223372036854775808 ≤ x && x ≤ 18446744073709551616

def digitsOf (x : Float) : Octets :=
  if x < 0 && wholePart x != 0 then '-' :: Octets.ofNat (wholePart x) else Octets.ofNat (wholePart x)

/-! ## Escapes -/

/-- The byte of an escape, if there is such an escape, and what follows it. The text starts behind the
backslash. -/
def escape? (text : Octets) : Option (Char × Octets) :=
  let inBase (base : Nat) (digits : Octets) : Char := Char.ofNat (Floating.valueIn base digits % 256)
  match text with
  | 'n' :: rest => some ('\n', rest)
  | 't' :: rest => some ('\t', rest)
  | 'f' :: rest => some ('\x0c', rest)
  | 'b' :: rest => some ('\x08', rest)
  | 'r' :: rest => some ('\r', rest)
  | 'a' :: rest => some ('\x07', rest)
  | 'v' :: rest => some ('\x0b', rest)
  | '\\' :: rest => some ('\\', rest)
  | '"' :: rest => some ('"', rest)
  | 'x' :: rest =>
    let digits := Floating.digitsIn 16 (rest.take 2)
    if digits.isEmpty then none else some (inBase 16 digits, rest.drop digits.length)
  | other =>
    let digits := Floating.digitsIn 8 (other.take 3)
    if digits.isEmpty then none else some (inBase 8 digits, other.drop digits.length)

/-- A text with its escapes replaced. The fuel bounds its length. -/
def expand : Nat → Octets → Octets
  | 0, t => t
  | fuel + 1, t => match t with
    | [] => []
    | '\\' :: rest => match escape? rest with
      | some (c, rest) => c :: expand fuel rest
      | none => '\\' :: expand fuel rest
    | c :: rest => c :: expand fuel rest

def unescaped (text : Octets) : Octets := expand (text.length + 1) text

/-! ## Formats -/

/-- Why a format cannot be followed. -/
inductive FormatFault where
  | tooFew
  /-- There is no directive of this kind. It is known by its number. -/
  | improper (number : Nat)

/-- A value as a directive asks for it. There may be no such directive. -/
def directed? (textOf : Value → Octets) (l : Layout) (letter : Char) (v : Value) : Option Octets :=
  match letter with
  | 's' => some (l.text (textOf v))
  | 'c' =>
    let code (x : Float) : Octets :=
      let n := toWhole x
      [Char.ofNat ((min (max n (-2147483647)) 2147483647) % 256).toNat]
    some (l.pad (match v with
      | .number x => code x
      | .unset => [Char.ofNat 0]
      | .text t => [t.headD (Char.ofNat 0)]
      | .given t => match likeness? t with
        | some x => code x
        | none => [t.headD (Char.ofNat 0)]))
  | 'd' | 'i' =>
    let x := v.toNumber
    some (if 9223372036854775808 < x then l.unsigned 'u' (toWord x) else l.signed (toWhole x))
  | 'o' | 'x' | 'X' | 'u' => some (l.unsigned letter (toWord v.toNumber))
  | 'e' | 'f' | 'g' | 'E' | 'G' => some (l.floating .double letter (floatingOf v.toNumber))
  | _ => none

/-- A width or a precision: a number, or a star for a value. -/
def amountIn (format : Octets) (values : List Value) :
    Except FormatFault (Option Int × Octets × List Value) :=
  match format, values with
  | '*' :: _, [] => .error .tooFew
  | '*' :: rest, v :: values => .ok (some (toWhole v.toNumber), rest, values)
  | format, values =>
    let digits := format.takeWhile Char.isDigit
    .ok ((Octets.digitsValue? digits).map Int.ofNat, format.drop digits.length, values)

/-- A directive behind its percent sign. -/
def directive (textOf : Value → Octets) (number : Nat) (format : Octets) (values : List Value) :
    Except FormatFault (Octets × Octets × List Value) := do
  if values.isEmpty then throw .tooFew
  let flags := format.takeWhile Layout.isFlag
  let (width, format, values) ← amountIn (format.drop flags.length) values
  let (precision, format, values) ← match format with
    | '.' :: rest =>
      let (precision, format, values) ← amountIn rest values
      pure (some (precision.getD 0), format, values)
    | format => pure (none, format, values)
  let format := format.dropWhile fun c => c == 'h' || c == 'l'
  match format, values with
  | _, [] => throw .tooFew
  | [], _ => throw (.improper number)
  | letter :: rest, v :: values =>
    match directed? textOf (Layout.ofParts flags (width.getD 0) precision) letter v with
    | some shown => return (shown, rest, values)
    | none => throw (.improper number)

/-- What a format makes of values, in parts from the last on. The fuel bounds its length. -/
def follow (textOf : Value → Octets) : Nat → Nat → Octets → List Value → List Octets →
    List Octets × Option FormatFault
  | 0, _, _, _, parts => (parts, none)
  | fuel + 1, n, format, values, parts =>
    match format with
    | [] => (parts, none)
    | '%' :: '%' :: rest => follow textOf fuel n rest values (['%'] :: parts)
    | '%' :: rest =>
      match directive textOf n rest values with
      | .ok (shown, rest, values) => follow textOf fuel (n + 1) rest values (shown :: parts)
      | .error fault => (parts, some fault)
    | c :: rest =>
      let plain := rest.takeWhile (· != '%')
      follow textOf fuel n (rest.drop plain.length) values ((c :: plain) :: parts)

/-- What a format makes of values, and what is wrong with it. -/
def formatted (textOf : Value → Octets) (format : Octets) (values : List Value) :
    Octets × Option FormatFault :=
  let (parts, fault) := follow textOf (format.length + 1) 1 format values []
  (parts.reverse.flatten, fault)

/-- The text of a number. A format is for those that are not whole. -/
def numberText (format : Octets) (x : Float) : Octets :=
  if isWhole x then digitsOf x else (formatted (fun _ => []) format [.number x]).1

def toText (format : Octets) : Value → Octets
  | unset => []
  | number x => numberText format x
  | text t | given t => t

/-! ## Tests -/

def isTrue : Value → Bool
  | unset => false
  | number x => x != 0
  | text t => !t.isEmpty
  | given t => match likeness? t with
    | some x => x != 0
    | none => !t.isEmpty

def compareTexts (c : Comparison) (a b : Octets) : Bool :=
  match c with
  | .less => a != b && Octets.le a b
  | .lessOrEqual => Octets.le a b
  | .equal => a == b
  | .unequal => a != b
  | .greater => a != b && Octets.le b a
  | .greaterOrEqual => Octets.le b a

def compareNumbers (c : Comparison) (a b : Float) : Bool :=
  match c with
  | .less => a < b
  | .lessOrEqual => a ≤ b
  | .equal => a == b
  | .unequal => a != b
  | .greater => b < a
  | .greaterOrEqual => b ≤ a

/-- Compares values as numbers if both are numbers, and as texts otherwise. -/
def compare (format : Octets) (c : Comparison) (a b : Value) : Bool :=
  match number? a, number? b with
  | some x, some y => compareNumbers c x y
  | _, _ => compareTexts c (toText format a) (toText format b)

/-! ## Calculations -/

/-- The remainder of a division whose quotient has no places. -/
def remainder (x y : Float) : Float :=
  if x.isNaN || y.isNaN || x.isInf || y == 0 then 0 / 0
  else if y.isInf then x
  else
    let (a, d) := (Binary64.ofFloat x).fraction
    let (b, e) := (Binary64.ofFloat y).fraction
    let rest := (a * e) % (b * d)
    let size := floatOf (Floating.round .double false rest (d * e))
    if x < 0 then -size else size

def calculate (c : Calculation) (x y : Float) : Float :=
  match c with
  | .add => x + y
  | .subtract => x - y
  | .multiply => x * y
  | .divide => x / y
  | .remainder => remainder x y
  | .power => x.pow y

end Value

end NotebookKernel.Shell.Tool.Records
