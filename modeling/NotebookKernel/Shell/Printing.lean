import NotebookKernel.Shell.Octets
import NotebookKernel.Text.Hex

/-! # Escapes

`echo` and `printf` of the shell take backslashes for escapes. -/

namespace NotebookKernel.Shell

namespace Escape

def isOctal (c : Char) : Bool := '0' ≤ c && c ≤ '7'

/-- The byte that an escape stands for and what follows it. The text starts behind the backslash. -/
def read : Octets → Char × Octets
  | [] => ('\\', [])
  | c :: rest =>
    match c with
    | 'a' => ('\x07', rest)
    | 'b' => ('\x08', rest)
    | 'e' => ('\x1b', rest)
    | 'f' => ('\x0c', rest)
    | 'n' => ('\n', rest)
    | 'r' => ('\r', rest)
    | 't' => ('\t', rest)
    | 'v' => ('\x0b', rest)
    | '\\' => ('\\', rest)
    | c =>
      if isOctal c then
        let digits := ((c :: rest).take 3).takeWhile isOctal
        let n := digits.foldl (fun n d => 8 * n + (d.toNat - '0'.toNat)) 0
        (Char.ofNat (n % 256), (c :: rest).drop digits.length)
      else ('\\', c :: rest)

/-- The byte that up to two hexadecimal digits stand for, and what follows them. -/
def readHex? (text : Octets) : Option (Char × Octets) :=
  let digits := (text.takeWhile fun c => (Hex.value? c).isSome).take 2
  if digits.isEmpty then none
  else some (Char.ofNat ((digits.filterMap Hex.value?).foldl (fun n d => 16 * n + d) 0),
    text.drop digits.length)

/-- A text with its escapes replaced, and whether it asks for the end of all output. Hexadecimal digits
behind an `x` count if they are asked for. The fuel bounds the length. -/
def expand (fuel : Nat) (text : Octets) (hex : Bool := false) : Octets × Bool :=
  match fuel, text with
  | 0, text => (text, false)
  | _, [] => ([], false)
  | fuel + 1, c :: rest =>
    if c != '\\' then
      let (more, ended) := expand fuel rest hex
      (c :: more, ended)
    else match if hex && rest.head? == some 'x' then readHex? rest.tail else none, rest with
      | some (c, rest), _ =>
        let (more, ended) := expand fuel rest hex
        (c :: more, ended)
      | none, 'c' :: _ => ([], true)
      | none, rest =>
        let rest := match rest with
          | '0' :: d :: more => if isOctal d then d :: more else rest
          | _ => rest
        let (c, rest) := read rest
        let (more, ended) := expand fuel rest hex
        (c :: more, ended)

end Escape

/-- What `echo` of the shell prints. -/
def echoed (arguments : List Octets) : Octets :=
  let (quiet, arguments) := match arguments with
    | first :: rest => if first == "-n".toList then (true, rest) else (false, first :: rest)
    | [] => (false, [])
  let final : Octets := if quiet then [] else ['\n']
  let rec join (final : Octets) : List Octets → Octets
    | [] => final
    | a :: rest =>
      let (text, ended) := Escape.expand (a.length + 1) a
      if ended then text
      else text ++ if rest.isEmpty then final else ' ' :: join final rest
  join final arguments

end NotebookKernel.Shell
