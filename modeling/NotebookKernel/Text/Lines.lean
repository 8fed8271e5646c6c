import NotebookKernel.Text.Character

/-! # Trimming, cutting and joining text

The functions work on lists of characters and have a form on strings of the same name. -/

namespace NotebookKernel.Text

namespace Chars

/-- Leaves out the blanks at the start. -/
def trimStart (cs : List Char) : List Char :=
  cs.dropWhile isBlank

/-- Leaves out the blanks at the end. -/
def trimEnd (cs : List Char) : List Char :=
  (cs.reverse.dropWhile isBlank).reverse

/-- Leaves out the blanks on both sides. -/
def trim (cs : List Char) : List Char :=
  trimEnd (trimStart cs)

/-- Cuts at every character that satisfies `p`; the cuts themselves are left out. -/
def splitOn (p : Char → Bool) : List Char → List (List Char)
  | [] => [[]]
  | c :: rest =>
    if p c then [] :: splitOn p rest
    else match splitOn p rest with
      | [] => [[c]]
      | piece :: pieces => (c :: piece) :: pieces

/-- Cuts after every line feed. A text that ends in one has no empty piece after it. -/
def splitInclusive : List Char → List (List Char)
  | [] => []
  | c :: rest =>
    if c = '\n' then ['\n'] :: splitInclusive rest
    else match splitInclusive rest with
      | [] => [[c]]
      | piece :: pieces => (c :: piece) :: pieces

/-- A line without its line feed, or without a carriage return and line feed. -/
def dropLineEnd (line : List Char) : List Char :=
  match line.reverse with
  | '\n' :: '\r' :: rest => rest.reverse
  | '\n' :: rest => rest.reverse
  | _ => line

/-- The lines of a text, their ends left out. -/
def lines (cs : List Char) : List (List Char) :=
  (splitInclusive cs).map dropLineEnd

/-- The part before the first `c` and the part after it, if there is one. -/
def splitOnce? (c : Char) (cs : List Char) : Option (List Char × List Char) :=
  match cs.dropWhile (· != c) with
  | [] => none
  | _ :: rest => some (cs.takeWhile (· != c), rest)

/-- What follows `start`, if the text begins with it. -/
def stripStart? : (start cs : List Char) → Option (List Char)
  | [], cs => some cs
  | _ :: _, [] => none
  | a :: start, c :: cs => if a = c then stripStart? start cs else none

/-- Whether `part` occurs somewhere in the text. -/
def contains (part : List Char) : List Char → Bool
  | [] => part.isEmpty
  | c :: rest => part.isPrefixOf (c :: rest) || contains part rest

theorem stripStart?_eq_some_iff {start cs rest : List Char} :
    stripStart? start cs = some rest ↔ cs = start ++ rest := by
  induction start generalizing cs with
  | nil => simp [stripStart?, eq_comm]
  | cons a start ih =>
    cases cs with
    | nil => simp [stripStart?]
    | cons c cs =>
      by_cases h : a = c
      · subst h; simp [stripStart?, ih]
      · simp [stripStart?, h, Ne.symm h]

theorem flatten_splitInclusive (cs : List Char) : (splitInclusive cs).flatten = cs := by
  induction cs with
  | nil => rfl
  | cons c rest ih =>
    unfold splitInclusive
    split
    · next h => simp [ih, h]
    · split <;> simp_all

end Chars

def trimStart (s : String) : String := String.ofList (Chars.trimStart s.toList)

def trimEnd (s : String) : String := String.ofList (Chars.trimEnd s.toList)

def trim (s : String) : String := String.ofList (Chars.trim s.toList)

def lines (s : String) : List String := (Chars.lines s.toList).map String.ofList

/-- The pieces of a text, each but perhaps the last ending in a line feed. -/
def splitInclusive (s : String) : List String := (Chars.splitInclusive s.toList).map String.ofList

/-- The pieces between the occurrences of one character. -/
def splitOn (c : Char) (s : String) : List String :=
  (Chars.splitOn (· == c) s.toList).map String.ofList

/-- The words of a text: its longest runs without a blank. -/
def words (s : String) : List String :=
  ((Chars.splitOn isBlank s.toList).filter (!·.isEmpty)).map String.ofList

def splitOnce? (c : Char) (s : String) : Option (String × String) :=
  (Chars.splitOnce? c s.toList).map fun (a, b) => (String.ofList a, String.ofList b)

def stripStart? (start s : String) : Option String :=
  (Chars.stripStart? start.toList s.toList).map String.ofList

def startsWith (start s : String) : Bool := start.toList.isPrefixOf s.toList

def endsWith (final s : String) : Bool := final.toList.isSuffixOf s.toList

def contains (part s : String) : Bool := Chars.contains part.toList s.toList

/-- The first `n` characters. -/
def take (n : Nat) (s : String) : String := String.ofList (s.toList.take n)

/-- Fills up with spaces on the right to a width counted in characters. -/
def padRight (width : Nat) (s : String) : String :=
  s ++ String.ofList (List.replicate (width - s.length) ' ')

/-- The texts one after another with `separator` between neighbours. -/
def join (separator : String) : List String → String
  | [] => ""
  | [s] => s
  | s :: rest => s ++ separator ++ join separator rest

/-- The texts one after another. -/
def concat (parts : List String) : String := parts.foldr (· ++ ·) ""

/-- Whether the text is empty but for blanks. -/
def isBlankText (s : String) : Bool := s.toList.all isBlank

end NotebookKernel.Text
