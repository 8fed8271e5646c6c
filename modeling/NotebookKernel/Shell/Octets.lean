import NotebookKernel.Text.Lines
import NotebookKernel.Text.Utf8

/-! # Texts of bytes

The shell and its programs work on bytes and know no encoding. An octet text is a list of characters
of which each stands for the byte of its number, so that a byte can be written as a character
literal. A text of bytes becomes octets and comes back unchanged. -/

namespace NotebookKernel

/-- A text in which every character stands for one byte. -/
abbrev Octets := List Char

namespace Octets

def ofBytes (bytes : Bytes) : Octets := bytes.map fun b => Char.ofNat b.toNat

def toBytes (text : Octets) : Bytes := text.map fun c => UInt8.ofNat c.toNat

/-- The bytes of a string in UTF-8. -/
def ofString (s : String) : Octets := ofBytes (Utf8.encode s)

/-- Reads the bytes as UTF-8. What is not UTF-8 becomes the replacement character. -/
def decode (text : Octets) : String := Utf8.decodeLossy (toBytes text)

/-- The decimal digits of a number. -/
def ofNat (n : Nat) : Octets := Nat.toDigits 10 n

/-- The decimal digits of a number, behind a sign if it is negative. -/
def ofInt : Int → Octets
  | .ofNat n => ofNat n
  | .negSucc n => '-' :: ofNat (n + 1)

/-- The value of a text of digits. -/
def digitsValue? (text : Octets) : Option Nat :=
  if text.isEmpty || !text.all Char.isDigit then none
  else some (text.foldl (fun n c => 10 * n + (c.toNat - '0'.toNat)) 0)

/-- The lines of a text. A line feed at the end begins no further line. -/
def lines (text : Octets) : List Octets :=
  (Text.Chars.splitInclusive text).map fun line =>
    if line.getLast? == some '\n' then line.dropLast else line

/-- The lines as a text, each with a line feed. -/
def ofLines (lines : List Octets) : Octets := lines.flatMap (· ++ ['\n'])

/-- The order of texts by their bytes. -/
def le : Octets → Octets → Bool
  | [], _ => true
  | _ :: _, [] => false
  | a :: as, b :: bs => a < b || (a == b && le as bs)

/-- Whether a text can name a variable: letters, digits and underscores, no digit first. -/
def isName : Octets → Bool
  | [] => false
  | c :: rest => (c.isAlpha || c == '_') && rest.all fun c => c.isAlphanum || c == '_'

theorem toBytes_ofBytes (bytes : Bytes) : toBytes (ofBytes bytes) = bytes := by
  induction bytes with
  | nil => rfl
  | cons b rest ih =>
    have valid : b.toNat.isValidChar := Or.inl (by have := b.toNat_lt; omega)
    have head : UInt8.ofNat (Char.ofNat b.toNat).toNat = b := by
      rw [Char.ofNat, dif_pos valid]
      exact UInt8.ofNat_toNat
    simp only [ofBytes, toBytes, List.map_cons, List.cons.injEq]
    exact ⟨head, ih⟩

end Octets

end NotebookKernel
