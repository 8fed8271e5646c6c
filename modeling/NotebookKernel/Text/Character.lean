import NotebookKernel.Text.Tables.Alphanumeric
import NotebookKernel.Text.Tables.Cased
import NotebookKernel.Text.Tables.Lowercase

/-! # Character classes and lower case

`isBlank` is the Unicode property White_Space, `isAlphanumeric` joins Alphabetic with the numeric
categories, and `lowercase` is the full lower-case mapping of a text. -/

namespace NotebookKernel.Text

/-- The 25 characters with the property White_Space. -/
def isBlank (c : Char) : Bool :=
  let n := c.toNat
  n == 0x20 || (0x09 ≤ n && n ≤ 0x0D) || n == 0x85 || n == 0xA0 || n == 0x1680
    || (0x2000 ≤ n && n ≤ 0x200A) || n == 0x2028 || n == 0x2029 || n == 0x202F || n == 0x205F
    || n == 0x3000

theorem isBlank_of_isWhitespace {c : Char} (h : c.isWhitespace = true) : isBlank c = true := by
  simp only [Char.isWhitespace, Bool.or_eq_true, decide_eq_true_eq] at h
  rcases h with ((h | h) | h) | h <;> subst h <;> decide

/-- A letter or a number, in the sense of Unicode. -/
def isAlphanumeric (c : Char) : Bool :=
  if c.toNat < 128 then c.isAlphanum else alphanumericBeyondAscii.contains c

/-- A character that may stand in a name: a letter, a number or the low line. -/
def isWordChar (c : Char) : Bool :=
  isAlphanumeric c || c == '_'

/-- Whether the character has case; ASCII letters are answered without the table. -/
def isCased (c : Char) : Bool :=
  if c.toNat < 128 then c.isAlpha else cased.contains c

/-- The lower-case forms of one character. Only the capital I with a dot above has two. -/
def lowercaseChar (c : Char) : List Char :=
  if c.toNat < 128 then [c.toLower]
  else if c.toNat = 0x130 then ['i', Char.ofNat 0x307]
  else match lowercaseRows.find? (·.covers c.toNat) with
    | some row => [Char.ofNat (c.toNat + row.offset).toNat]
    | none => [c]

/-- Whether a cased letter comes first once the case-ignorable characters are skipped. -/
def casedAhead (cs : List Char) : Bool :=
  match cs.dropWhile caseIgnorable.contains with
  | c :: _ => isCased c
  | [] => false

/-- Lower-cases a text of which `before`, nearest first, was read already. A capital sigma after a
cased letter and before none takes its final form. -/
def lowercaseFrom (before : List Char) : List Char → List Char
  | [] => []
  | c :: rest =>
    let lowered :=
      if c.toNat = 0x3A3 then
        if casedAhead before && !casedAhead rest then [Char.ofNat 0x3C2] else [Char.ofNat 0x3C3]
      else lowercaseChar c
    lowered ++ lowercaseFrom (c :: before) rest

/-- The lower-case mapping of a text. -/
def lowercase (s : String) : String :=
  String.ofList (lowercaseFrom [] s.toList)

end NotebookKernel.Text
