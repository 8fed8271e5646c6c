import NotebookKernel.Text.Hex
import NotebookKernel.Text.Tables.Printable

/-! # Quoted texts in messages

A text that a message quotes stands between double quotes. Quotes, backslashes and the usual controls
are escaped by a letter, and every character that would not show is given by its code point. -/

namespace NotebookKernel.Text

/-- Whether a character is written by its code point. -/
def needsCodePoint (c : Char) : Bool :=
  if c.toNat < 127 then c.toNat < 32 else unprintable.contains c || graphemeExtend.contains c

/-- A character as it stands between the quotes. -/
def quoteChar (c : Char) : String :=
  if c = '"' then "\\\""
  else if c = '\\' then "\\\\"
  else if c = '\n' then "\\n"
  else if c = '\r' then "\\r"
  else if c = '\t' then "\\t"
  else if c.toNat = 0 then "\\0"
  else if needsCodePoint c then "\\u\x7b" ++ Hex.ofNat c.toNat ++ "\x7d"
  else c.toString

/-- The text between double quotes. -/
def quoted (s : String) : String :=
  "\"" ++ String.join (s.toList.map quoteChar) ++ "\""

end NotebookKernel.Text
