import NotebookKernel.Number.Floating

/-! # Texts of floating-point numbers

Numbers are read from decimal and hexadecimal texts, and written with a fixed number of places, with an
exponent, in the shorter of both forms or in hexadecimal. Every text is rounded once from the exact
value. -/

namespace NotebookKernel

namespace Floating

/-! ## Reading -/

/-- A number as it is written, which no format has rounded yet. -/
inductive Written where
  | ratio (negative : Bool) (n d : Nat)
  | infinite (negative : Bool)
  | undefined (negative : Bool)

def hexValue (c : Char) : Nat :=
  if c.isDigit then c.toNat - '0'.toNat
  else if 'a' ≤ c && c ≤ 'f' then c.toNat - 'a'.toNat + 10
  else if 'A' ≤ c && c ≤ 'F' then c.toNat - 'A'.toNat + 10
  else 16

def digitsIn (base : Nat) (text : List Char) : List Char :=
  text.takeWhile fun c => hexValue c < base

def valueIn (base : Nat) (digits : List Char) : Nat :=
  digits.foldl (fun n c => base * n + hexValue c) 0

/-- The exponent behind one of two letters, and what follows it. Without digits there is none. -/
def cutExponent (lower upper : Char) (text : List Char) : Int × List Char :=
  match text with
  | c :: rest =>
    if c != lower && c != upper then (0, text)
    else
      let (negative, body) : Bool × List Char := match rest with
        | '-' :: body => (true, body)
        | '+' :: body => (false, body)
        | body => (false, body)
      let digits := digitsIn 10 body
      if digits.isEmpty then (0, text)
      else
        let n : Int := valueIn 10 digits
        (if negative then -n else n, body.drop digits.length)
  | [] => (0, [])

/-- Exponents beyond this one leave every format. -/
def maxExponent : Int := 40000

/-- A number in digits of some base, with a point among them perhaps and an exponent behind. -/
def readDigits? (negative : Bool) (base : Nat) (letters : Char × Char) (power : Nat)
    (text : List Char) : Option (Written × List Char) :=
  let whole := digitsIn base text
  let after := text.drop whole.length
  let places := match after with
    | '.' :: rest => digitsIn base rest
    | _ => []
  if whole.isEmpty && places.isEmpty then none
  else
    let after := match after with
      | '.' :: rest => rest.drop places.length
      | rest => rest
    let (exponent, rest) := cutExponent letters.1 letters.2 after
    let n := valueIn base (whole ++ places)
    let size : Int := whole.length + places.length
    let unit := Nat.pow base places.length
    let value : Written :=
      if n = 0 then .ratio negative 0 1
      else if maxExponent < exponent - size * 4 then .infinite negative
      else if exponent + size * 4 < -maxExponent then .ratio negative 1 (Nat.pow 2 maxExponent.toNat)
      else if 0 ≤ exponent then .ratio negative (n * Nat.pow power exponent.toNat) unit
      else .ratio negative n (unit * Nat.pow power (-exponent).toNat)
    some (value, rest)

/-- Whether a text begins with a word, in small letters or capitals. -/
def startsWith (word : String) (text : List Char) : Bool :=
  (text.take word.length).map Char.toLower == word.toList

/-- The number that a text begins with, and what follows it. -/
def read? (text : List Char) : Option (Written × List Char) :=
  let body := text.dropWhile fun c => c == ' ' || ('\t' ≤ c && c ≤ '\r')
  let (negative, body) : Bool × List Char := match body with
    | '-' :: rest => (true, rest)
    | '+' :: rest => (false, rest)
    | rest => (false, rest)
  if startsWith "infinity" body then some (.infinite negative, body.drop 8)
  else if startsWith "inf" body then some (.infinite negative, body.drop 3)
  else if startsWith "nan" body then
    let rest := body.drop 3
    let inside := (rest.drop 1).takeWhile fun c => c.isAlphanum || c == '_'
    match rest with
    | '(' :: more =>
      if (more.drop inside.length).head? == some ')' then
        some (.undefined negative, more.drop (inside.length + 1))
      else some (.undefined negative, rest)
    | _ => some (.undefined negative, rest)
  else
    let hexadecimal := if startsWith "0x" body then
      readDigits? negative 16 ('p', 'P') 2 (body.drop 2) else none
    hexadecimal.or (readDigits? negative 10 ('e', 'E') 10 body)

namespace Written

/-- The nearest number of a format, and whether the format has nothing near enough. -/
def toFloating (f : FloatFormat) : Written → Floating × Bool
  | .infinite negative => (.infinite negative, false)
  | .undefined negative => (.undefined negative, false)
  | .ratio negative n d =>
    let x := Floating.round f negative n d
    (x, match x with
      | .infinite _ => true
      | _ => Floating.underflows f n d)

end Written

/-! ## Writing -/

/-- How a number is written. -/
structure Style where
  /-- The point stays even if nothing follows it, and so do zeros at the end. -/
  alternate : Bool := false
  upper : Bool := false
  precision : Option Nat := none

/-- A point with places behind it. -/
def withPlaces (s : Style) (whole places : List Char) : List Char :=
  if places.isEmpty && !s.alternate then whole else whole ++ '.' :: places

/-- `n / d` with a fixed number of places. -/
def fixedText (s : Style) (places n d : Nat) : List Char :=
  let digits := Nat.toDigits 10 (roundHalfEven (Nat.pow 10 places * n) d)
  let digits := List.replicate (places + 1 - digits.length) '0' ++ digits
  withPlaces s (digits.take (digits.length - places)) (digits.drop (digits.length - places))

/-- The digits of `n / d`, one before the point and some behind it, and its exponent. -/
def scientific (places n d : Nat) : List Char × Int :=
  if n = 0 then (List.replicate (places + 1) '0', 0)
  else
    let scale (x : Int) : Nat × Nat :=
      if 0 ≤ x then (n * Nat.pow 10 x.toNat, d) else (n, d * Nat.pow 10 (-x).toNat)
    let guess : Int := ((Nat.toDigits 10 n).length : Int) - (Nat.toDigits 10 d).length
    let (a, b) := scale (-guess)
    let exponent := if b ≤ a then guess else guess - 1
    let (a, b) := scale (places - exponent)
    let rounded := roundHalfEven a b
    let digits := Nat.toDigits 10 rounded
    if places + 1 < digits.length then (digits.take (places + 1), exponent + 1)
    else (digits, exponent)

/-- An exponent with its sign and at least two digits. -/
def exponentText (upper : Bool) (exponent : Int) : List Char :=
  let digits := Nat.toDigits 10 exponent.natAbs
  (if upper then 'E' else 'e') :: (if exponent < 0 then '-' else '+') ::
    List.replicate (2 - digits.length) '0' ++ digits

/-- `n / d` with an exponent. -/
def scientificText (s : Style) (places n d : Nat) : List Char :=
  let (digits, exponent) := scientific places n d
  withPlaces s (digits.take 1) (digits.drop 1) ++ exponentText s.upper exponent

/-- Leaves out zeros at the end of places, unless they are to stay. -/
def trimPlaces (s : Style) (text : List Char) : List Char :=
  if s.alternate || !text.contains '.' then text
  else
    let kept := text.reverse.dropWhile (· == '0')
    (if kept.head? == some '.' then kept.tail else kept).reverse

/-- `n / d` with a number of digits, and with an exponent only if it is small or large. -/
def generalText (s : Style) (n d : Nat) : List Char :=
  let digits := max (s.precision.getD 6) 1
  let (_, exponent) := scientific (digits - 1) n d
  if -4 ≤ exponent && exponent < digits then
    trimPlaces s (fixedText s (digits - 1 - exponent).toNat n d)
  else
    let (all, exponent) := scientific (digits - 1) n d
    trimPlaces s (withPlaces s (all.take 1) (all.drop 1)) ++ exponentText s.upper exponent

def hexDigits (upper : Bool) (n : Nat) : List Char :=
  let digits := Nat.toDigits 16 n
  if upper then digits.map Char.toUpper else digits

/-- A number of a format in hexadecimal, with the exponent of two. -/
def hexText (f : FloatFormat) (s : Style) (mantissa : Nat) (exponent : Int) : List Char :=
  -- The digit before the point takes the bits that do not fill whole digits behind it.
  let width := (f.precision - 1) / 4 * 4
  let width := if f.precision % 4 == 0 then f.precision - 4 else width
  -- A number with fewer bits than the format has is shown with its bits at the start, if it can be.
  let missing := f.precision - 1 - mantissa.log2
  let shift : Nat := if mantissa = 0 then 0 else min missing (exponent - f.least).toNat
  let mantissa := mantissa * Nat.pow 2 shift
  let exponent := if mantissa = 0 then 0 else exponent - shift + width
  let places := width / 4
  let (m, shown) := match s.precision with
    | some p => if p < places then
        (roundHalfEven mantissa (Nat.pow 16 (places - p)), p) else (mantissa * Nat.pow 16 (p - places), p)
    | none => (mantissa, places)
  let digits := hexDigits s.upper (m % Nat.pow 16 shown)
  let digits := List.replicate (shown - digits.length) '0' ++ digits
  let digits := if shown == 0 then [] else digits
  let digits := if s.precision.isSome then digits else (digits.reverse.dropWhile (· == '0')).reverse
  let power := Nat.toDigits 10 exponent.natAbs
  (if s.upper then ['0', 'X'] else ['0', 'x']) ++
    withPlaces s (hexDigits s.upper (m / Nat.pow 16 shown)) digits ++
    (if s.upper then 'P' else 'p') :: (if exponent < 0 then '-' else '+') :: power

/-- What stands for a number that is not finite. -/
def namedText (upper : Bool) (name : String) : List Char :=
  if upper then name.toList.map Char.toUpper else name.toList

/-- The absolute value of a number, written as the letter of a directive says. -/
def text (f : FloatFormat) (letter : Char) (s : Style) (x : Floating) : List Char :=
  let s := { s with upper := letter.isUpper }
  match x with
  | .infinite _ => namedText s.upper "inf"
  | .undefined _ => namedText s.upper "nan"
  | .finite _ m e =>
    let (n, d) := fraction m e
    match letter.toLower with
    | 'f' => fixedText s (s.precision.getD 6) n d
    | 'e' => scientificText s (s.precision.getD 6) n d
    | 'a' => hexText f s m e
    | _ => generalText s n d

end Floating

end NotebookKernel
