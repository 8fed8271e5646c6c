import NotebookKernel.Json.Numeral
import NotebookKernel.Text.Hex

/-! # Scanning JSON text

Scanning checks the grammar of a text and gives its tree. Two faults are only marked in the tree, for
they matter only where the value is used: a numeral out of range, and a string with half a surrogate
pair. A record may have fields that nobody reads, and those may hold either, and may nest to any
depth. `Scanned.toJson?` refuses all of this. -/

namespace NotebookKernel

/-- The tree of a JSON text, with `none` for numerals and strings that have no value. -/
inductive Scanned where
  | null
  | bool (b : Bool)
  | number (n : Option Json.Number)
  | string (s : Option String)
  | array (items : List Scanned)
  | object (fields : List (Option String × Scanned))
  deriving Inhabited

namespace Scanned

/-- Drops the blanks that may stand between tokens. -/
def skipBlanks (cs : List Char) : List Char :=
  cs.dropWhile fun c => c = ' ' || c = '\t' || c = '\n' || c = '\r'

/-- The value of four hexadecimal digits. -/
def hex4? (a b c d : Char) : Option Nat := do
  pure ((((← Hex.value? a) * 16 + (← Hex.value? b)) * 16 + (← Hex.value? c)) * 16 + (← Hex.value? d))

/-- The character that a letter after a backslash stands for. -/
def escape? (c : Char) : Option Nat :=
  if c = '"' then some 0x22
  else if c = '\\' then some 0x5C
  else if c = '/' then some 0x2F
  else if c = 'b' then some 0x08
  else if c = 'f' then some 0x0C
  else if c = 'n' then some 0x0A
  else if c = 'r' then some 0x0D
  else if c = 't' then some 0x09
  else none

/-- The code points and surrogates of a string up to its closing quote, and what follows it. Controls
must be escaped. -/
def units? : List Char → Option (List Nat × List Char)
  | [] => none
  | '"' :: rest => some ([], rest)
  | '\\' :: 'u' :: a :: b :: c :: d :: rest => do
    let unit ← hex4? a b c d
    let (units, rest) ← units? rest
    pure (unit :: units, rest)
  | '\\' :: c :: rest => do
    let unit ← escape? c
    let (units, rest) ← units? rest
    pure (unit :: units, rest)
  | c :: rest =>
    if c.toNat < 0x20 || c = '\\' then none
    else do
      let (units, rest) ← units? rest
      pure (c.toNat :: units, rest)

/-- Joins surrogate pairs to characters; half a pair has no value. -/
def joinUnits? : List Nat → Option (List Char)
  | [] => some []
  | high :: rest =>
    if 0xD800 ≤ high ∧ high < 0xDC00 then
      match rest with
      | low :: rest =>
        if 0xDC00 ≤ low ∧ low < 0xE000 then do
          let tail ← joinUnits? rest
          pure (Char.ofNat ((high - 0xD800) * 0x400 + (low - 0xDC00) + 0x10000) :: tail)
        else none
      | [] => none
    else if 0xDC00 ≤ high ∧ high < 0xE000 then none
    else do
      let tail ← joinUnits? rest
      pure (Char.ofNat high :: tail)

/-- Splits off a string whose opening quote was read. -/
def string? (cs : List Char) : Option (Option String × List Char) := do
  let (units, rest) ← units? cs
  pure ((joinUnits? units).map String.ofList, rest)

mutual

/-- Splits a value off. The fuel bounds the number of steps; each character takes at most two. -/
def value? : Nat → List Char → Option (Scanned × List Char)
  | 0, _ => none
  | fuel + 1, cs =>
    match skipBlanks cs with
    | 'n' :: 'u' :: 'l' :: 'l' :: rest => some (.null, rest)
    | 't' :: 'r' :: 'u' :: 'e' :: rest => some (.bool true, rest)
    | 'f' :: 'a' :: 'l' :: 's' :: 'e' :: rest => some (.bool false, rest)
    | '"' :: rest => do
      let (s, rest) ← string? rest
      pure (.string s, rest)
    | '[' :: rest =>
      match skipBlanks rest with
      | ']' :: rest => some (.array [], rest)
      | rest => do
        let (items, rest) ← items? fuel rest
        pure (.array items, rest)
    | '{' :: rest =>
      match skipBlanks rest with
      | '}' :: rest => some (.object [], rest)
      | rest => do
        let (fields, rest) ← fields? fuel rest
        pure (.object fields, rest)
    | cs => do
      let (numeral, rest) ← Json.numeral? cs
      pure (.number numeral.value?, rest)

/-- Splits off items, at least one, and the closing bracket. -/
def items? : Nat → List Char → Option (List Scanned × List Char)
  | 0, _ => none
  | fuel + 1, cs => do
    let (item, rest) ← value? fuel cs
    match skipBlanks rest with
    | ',' :: rest => do
      let (items, rest) ← items? fuel rest
      pure (item :: items, rest)
    | ']' :: rest => pure ([item], rest)
    | _ => none

/-- Splits off fields, at least one, and the closing brace. -/
def fields? : Nat → List Char → Option (List (Option String × Scanned) × List Char)
  | 0, _ => none
  | fuel + 1, cs =>
    match skipBlanks cs with
    | '"' :: rest => do
      let (key, rest) ← string? rest
      match skipBlanks rest with
      | ':' :: rest => do
        let (value, rest) ← value? fuel rest
        match skipBlanks rest with
        | ',' :: rest => do
          let (fields, rest) ← fields? fuel rest
          pure ((key, value) :: fields, rest)
        | '}' :: rest => pure ([(key, value)], rest)
        | _ => none
      | _ => none
    | _ => none

end

/-- The tree of a text that holds one value and nothing else. -/
def ofText? (text : String) : Option Scanned := do
  let cs := text.toList
  let (value, rest) ← value? (2 * cs.length + 2) cs
  if (skipBlanks rest).isEmpty then some value else none

mutual

/-- The value of a tree without faults that nests at most `limit` levels deep. Free-form objects come
out in key order, and the last of several fields with one key is kept. -/
def toJson? (limit : Nat) : Scanned → Option Json
  | .null => some .null
  | .bool b => some (.bool b)
  | .number n => n.map .number
  | .string s => s.map .string
  | .array items =>
    match limit with
    | 0 => none
    | limit + 1 => (itemsToJson? limit items).map .array
  | .object fields =>
    match limit with
    | 0 => none
    | limit + 1 => (fieldsToJson? limit fields).map fun fields => .object (Entries.ofList fields)

def itemsToJson? (limit : Nat) : List Scanned → Option (List Json)
  | [] => some []
  | item :: items => do
    let item ← toJson? limit item
    let items ← itemsToJson? limit items
    pure (item :: items)

def fieldsToJson? (limit : Nat) : List (Option String × Scanned) → Option (List (String × Json))
  | [] => some []
  | (key, value) :: fields => do
    let key ← key
    let value ← toJson? limit value
    let fields ← fieldsToJson? limit fields
    pure ((key, value) :: fields)

end

mutual

/-- A value as a tree. -/
def ofJson : Json → Scanned
  | .null => .null
  | .bool b => .bool b
  | .number n => .number (some n)
  | .string s => .string (some s)
  | .array items => .array (itemsOfJson items)
  | .object fields => .object (fieldsOfJson fields)

def itemsOfJson : List Json → List Scanned
  | [] => []
  | item :: items => ofJson item :: itemsOfJson items

def fieldsOfJson : List (String × Json) → List (Option String × Scanned)
  | [] => []
  | (key, value) :: fields => (some key, ofJson value) :: fieldsOfJson fields

end

end Scanned

/-- How many levels a value that is used may nest. -/
def Json.nestingLimit : Nat := 127

/-- Reads one free-form value from a text. -/
def Json.ofText? (text : String) : Option Json :=
  Scanned.ofText? text >>= Scanned.toJson? Json.nestingLimit

end NotebookKernel
