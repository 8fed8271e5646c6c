import NotebookKernel.Notebook.Store
import NotebookKernel.Number.Binary64

/-! # Texts for the terminal -/

namespace NotebookKernel.CommandLine

/-- What was written to the terminal. -/
structure Console where
  stdout : String
  stderr : String
  deriving DecidableEq, Repr

namespace Console

instance : EmptyCollection Console := ⟨⟨"", ""⟩⟩

instance : Append Console := ⟨fun a b => ⟨a.stdout ++ b.stdout, a.stderr ++ b.stderr⟩⟩

/-- A line on standard output. -/
def line (s : String) : Console := ⟨s ++ "\n", ""⟩

/-- A line on standard error. -/
def errorLine (s : String) : Console := ⟨"", s ++ "\n"⟩

def lines (ls : List String) : Console := (ls.map line).foldr (· ++ ·) ∅

end Console

/-- The style of a piece of text. -/
inductive Style where
  | bold
  | dim
  | red
  | green
  | yellow
  | cyan
  deriving DecidableEq

/-- The number that switches a style on. -/
def Style.number : Style → String
  | .bold => "1"
  | .dim => "2"
  | .red => "31"
  | .green => "32"
  | .yellow => "33"
  | .cyan => "36"

/-- The text between switching a style on and switching all styles off. -/
def styled (style : Style) (text : String) : String :=
  "\x1b[" ++ style.number ++ "m" ++ text ++ "\x1b[0m"

/-- A line across the terminal. -/
def rule : String := String.ofList (List.replicate 50 '─')

/-- An output as it is printed. Errors go to standard error. -/
def printed (o : Output) : Console :=
  match o.kind with
  | .error => .errorLine (styled .red o.content)
  | .text => if o.content.isEmpty then ∅ else .line o.content
  | .html => .line (styled .dim "[html]" ++ " " ++ (o.dataText? Mime.html).getD o.content)
  | .plot =>
    let size := match o.dataText? Mime.png with
      | some image => image.utf8ByteSize
      | none => 0
    (if o.content.isEmpty then ∅ else .line o.content)
      ++ .line (styled .dim ("[plot: image/png, " ++ toString size ++ " base64 bytes]"))

/-- The line over an executed cell. -/
def promptLine (count : String) : Console := .line (styled .cyan ("In [" ++ count ++ "]:"))

/-- A stored notebook as a line of the listing. -/
def summaryLine (s : NotebookSummary) : Console :=
  .line (styled .bold (Text.padRight 24 s.id) ++ " " ++ Text.padRight 32 s.title ++ " "
    ++ styled .dim (s.modified.getD "-"))

/-- The line that begins the display of a notebook. -/
def titleLines (title id : String) : Console :=
  .lines ["\n" ++ styled .bold title ++ " (" ++ id ++ ")", rule]

/-- A cell of a notebook on display, with an empty line behind it. -/
def cellLines (c : Cell) : Console :=
  let shown : Console := match c.kind with
    | .markdown => .line (styled .dim c.content)
    | .code =>
      let count := match c.executionCount with
        | some n => toString n.toNat
        | none => " "
      promptLine count ++ .line c.content
        ++ (match c.output with | some o => printed o | none => ∅)
  shown ++ .line ""

end NotebookKernel.CommandLine
