import NotebookKernel.Json.Basic
import NotebookKernel.Number.Shortest
import NotebookKernel.Text.Hex

/-! # Writing JSON

`Json.compact` writes a value without any space, `Json.pretty` with two spaces for each level and one
line for each item and field. -/

namespace NotebookKernel.Json

/-- A character as it stands in a JSON string. Quotes, backslashes and controls are escaped. -/
def escapeChar (c : Char) : List Char :=
  if c = '"' then ['\\', '"']
  else if c = '\\' then ['\\', '\\']
  else if c.toNat = 0x08 then ['\\', 'b']
  else if c.toNat = 0x09 then ['\\', 't']
  else if c.toNat = 0x0A then ['\\', 'n']
  else if c.toNat = 0x0C then ['\\', 'f']
  else if c.toNat = 0x0D then ['\\', 'r']
  else if c.toNat < 0x20 then
    ['\\', 'u', '0', '0', Hex.digit (c.toNat / 16), Hex.digit (c.toNat % 16)]
  else [c]

/-- A text as a JSON string. -/
def stringChars (s : String) : List Char :=
  '"' :: (s.toList.flatMap escapeChar ++ ['"'])

/-- The decimal digits of an integer. -/
def intChars (n : Int) : List Char :=
  if n < 0 then '-' :: Nat.toDigits 10 n.natAbs else Nat.toDigits 10 n.natAbs

/-- Doubles are written positionally from 1e-5 up to but not including 1e16, and with a signed exponent
elsewhere. -/
def doubleNotation : Decimal.Notation := { lowest := -5, highest := 16, plus := "+" }

/-- A number; a double has at least one decimal place or an exponent. -/
def Number.chars : Number → List Char
  | .int n => intChars n
  | .float x => (renderShortest doubleNotation x).toList

mutual

/-- The value without any space. -/
def compactChars : Json → List Char
  | .null => ['n', 'u', 'l', 'l']
  | .bool true => ['t', 'r', 'u', 'e']
  | .bool false => ['f', 'a', 'l', 's', 'e']
  | .number n => n.chars
  | .string s => stringChars s
  | .array [] => ['[', ']']
  | .array (item :: items) => '[' :: (compactChars item ++ compactItems items)
  | .object [] => ['{', '}']
  | .object ((key, value) :: fields) =>
    '{' :: (stringChars key ++ ':' :: (compactChars value ++ compactFields fields))

/-- The items behind the first, each after a comma, and the closing bracket. -/
def compactItems : List Json → List Char
  | [] => [']']
  | item :: items => ',' :: (compactChars item ++ compactItems items)

/-- The fields behind the first, each after a comma, and the closing brace. -/
def compactFields : List (String × Json) → List Char
  | [] => ['}']
  | (key, value) :: fields =>
    ',' :: (stringChars key ++ ':' :: (compactChars value ++ compactFields fields))

end

/-- A new line at a level of nesting. -/
def newLine (level : Nat) : List Char :=
  '\n' :: List.replicate (2 * level) ' '

mutual

/-- The value at a level of nesting, each item and field on a line of its own. -/
def prettyChars (level : Nat) : Json → List Char
  | .null => ['n', 'u', 'l', 'l']
  | .bool true => ['t', 'r', 'u', 'e']
  | .bool false => ['f', 'a', 'l', 's', 'e']
  | .number n => n.chars
  | .string s => stringChars s
  | .array [] => ['[', ']']
  | .array (item :: items) =>
    '[' :: (newLine (level + 1) ++ prettyChars (level + 1) item ++ prettyItems level items)
  | .object [] => ['{', '}']
  | .object ((key, value) :: fields) =>
    '{' :: (newLine (level + 1) ++ stringChars key ++ ':' :: ' ' ::
      (prettyChars (level + 1) value ++ prettyFields level fields))

/-- The items behind the first and the closing bracket. -/
def prettyItems (level : Nat) : List Json → List Char
  | [] => newLine level ++ [']']
  | item :: items =>
    ',' :: (newLine (level + 1) ++ prettyChars (level + 1) item ++ prettyItems level items)

/-- The fields behind the first and the closing brace. -/
def prettyFields (level : Nat) : List (String × Json) → List Char
  | [] => newLine level ++ ['}']
  | (key, value) :: fields =>
    ',' :: (newLine (level + 1) ++ stringChars key ++ ':' :: ' ' ::
      (prettyChars (level + 1) value ++ prettyFields level fields))

end

/-- The text of a value without any space. -/
def compact (v : Json) : String := String.ofList (compactChars v)

/-- The text of a value with two spaces for each level. -/
def pretty (v : Json) : String := String.ofList (prettyChars 0 v)

end NotebookKernel.Json
