import NotebookKernel.Number.FloatText
import NotebookKernel.Shell.Arithmetic

/-! # Layout of printed values

A layout says how a number or a text is printed: in what width, on which side, with which sign. It is
read from the directive behind a percent sign. -/

namespace NotebookKernel.Shell

structure Layout where
  left : Bool := false
  plus : Bool := false
  blank : Bool := false
  alternate : Bool := false
  zeros : Bool := false
  width : Nat := 0
  precision : Option Nat := none

namespace Layout

def isFlag (c : Char) : Bool := ['#', '-', '+', ' ', '0'].contains c

/-- A layout with flags, a width, which may ask for the left side, and a precision, which is left out
if it is negative. -/
def ofParts (flags : Octets) (width : Int) (precision : Option Int) : Layout := {
  left := flags.contains '-' || width < 0
  plus := flags.contains '+'
  blank := flags.contains ' '
  alternate := flags.contains '#'
  zeros := flags.contains '0'
  width := width.natAbs
  precision := match precision with
    | some p => if p < 0 then none else some p.toNat
    | none => none }

/-- Fills a text up to the width. -/
def pad (l : Layout) (text : Octets) : Octets :=
  let missing := l.width - text.length
  if l.left then text ++ List.replicate missing ' ' else List.replicate missing ' ' ++ text

/-- Fills digits up to the width, with zeros behind the sign where those are asked for. -/
def padNumber (l : Layout) (sign digits : Octets) (zeros : Bool) : Octets :=
  if zeros && l.zeros && !l.left then
    sign ++ List.replicate (l.width - sign.length - digits.length) '0' ++ digits
  else l.pad (sign ++ digits)

def sign (l : Layout) (negative : Bool) : Octets :=
  if negative then ['-'] else if l.plus then ['+'] else if l.blank then [' '] else []

/-- Digits with as many zeros in front as the precision asks for. There are none for nothing. -/
def digits (l : Layout) (base n : Nat) : Octets :=
  let digits := if n == 0 && l.precision == some 0 then [] else Nat.toDigits base n
  List.replicate ((l.precision.getD 1) - digits.length) '0' ++ digits

/-- A signed integer. -/
def signed (l : Layout) (n : Int) : Octets :=
  l.padNumber (l.sign (n < 0)) (l.digits 10 n.natAbs) l.precision.isNone

/-- An integer without a sign, in the base that a letter stands for. -/
def unsigned (l : Layout) (letter : Char) (n : Nat) : Octets :=
  let zeros := l.precision.isNone
  match letter with
  | 'o' =>
    let digits := l.digits 8 n
    l.padNumber [] (if l.alternate && digits.head? != some '0' then '0' :: digits else digits) zeros
  | 'x' => l.padNumber (if l.alternate && n != 0 then ['0', 'x'] else []) (l.digits 16 n) zeros
  | 'X' => l.padNumber (if l.alternate && n != 0 then ['0', 'X'] else [])
      ((l.digits 16 n).map Char.toUpper) zeros
  | _ => l.padNumber [] (l.digits 10 n) zeros

/-- A floating-point number of a format. -/
def floating (l : Layout) (f : FloatFormat) (letter : Char) (x : Floating) : Octets :=
  let isFinite := match x with
    | .finite _ _ _ => true
    | _ => false
  let style : Floating.Style := { alternate := l.alternate, precision := l.precision }
  let text := Floating.text f letter style x
  let (mark, text) := if isFinite && letter.toLower == 'a' then (text.take 2, text.drop 2)
    else ([], text)
  l.padNumber (l.sign x.isNegative ++ mark) text isFinite

/-- A text, of which the precision may leave only the start. -/
def text (l : Layout) (text : Octets) : Octets :=
  l.pad (match l.precision with
    | some n => text.take n
    | none => text)

end Layout

end NotebookKernel.Shell
