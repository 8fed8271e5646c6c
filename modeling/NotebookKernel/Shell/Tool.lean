import NotebookKernel.CommandLine.Commands
import NotebookKernel.Shell.Tool.Basic
import NotebookKernel.Shell.Tool.Blocks
import NotebookKernel.Shell.Tool.Columns
import NotebookKernel.Shell.Tool.Compare
import NotebookKernel.Shell.Tool.Condition
import NotebookKernel.Shell.Tool.Date
import NotebookKernel.Shell.Tool.Digest
import NotebookKernel.Shell.Tool.Dump
import NotebookKernel.Shell.Tool.Edit
import NotebookKernel.Shell.Tool.Encoding
import NotebookKernel.Shell.Tool.Files
import NotebookKernel.Shell.Tool.Find
import NotebookKernel.Shell.Tool.Flow
import NotebookKernel.Shell.Tool.Formatted
import NotebookKernel.Shell.Tool.Grep
import NotebookKernel.Shell.Tool.Launch
import NotebookKernel.Shell.Tool.Letters
import NotebookKernel.Shell.Tool.Lines
import NotebookKernel.Shell.Tool.Listing
import NotebookKernel.Shell.Tool.Numbering
import NotebookKernel.Shell.Tool.Report
import NotebookKernel.Shell.Tool.Sort

/-! # The programs of the system by name

Every program checks at its end that its output could be written. With what status it ends if not is
its own choice. -/

namespace NotebookKernel.Shell.Tool

open Run

/-! ## The program of the first process

A shell can start the program again by which it was started itself, through the entry that the system
has for that process. The program then sees the same machine within the limits of the shell. No
interpreter can be started from there, so that cells are not run. -/

/-- Writes a whole file in place of a process, as far as the file may grow. The signal for one that
would grow further is left to be dealt with. -/
def writeWhole (h : Host Running) (path : Path) (content : Bytes) (r : Running) :
    Except OsError Unit × Running :=
  let allowed := r.process.allowed 0 content
  let (result, after) := h.writeFile path allowed r
  match result, after.world.machine.tree.find true r.process.directory path with
  | .ok (), .ok (_, .file ..) =>
    if allowed.length < content.length then
      let pending := if r.process.ignores fileSizeSignal then r.process.pending
        else fileSizeSignal :: r.process.pending
      (.error .fileTooLarge, { after with process := { after.process with pending } })
    else (result, after)
  | .ok (), _ => h.writeFile path content r
  | .error _, _ => (result, after)

/-- The machine as the program sees it in a process. -/
def hostOf (p : Process) (environment : SortedMap String) : Host Running :=
  let machine := Machine.hostRunning (fun _ m => (.notStarted .notFound, m)) environment p.directory
  let h := machine.zoom (·.world.machine) fun r machine =>
    { r with world := { r.world with machine } }
  { h with writeFile := writeWhole h }

def notebooks (arguments : List Octets) : Run Nat := do
  let arguments := arguments.map Octets.decode
  let exported := (← exports).map fun (name, value) => (Octets.decode name, Octets.decode value)
  let input ← if arguments.contains "-" then readAll 0 else pure (.error .badDescriptor)
  let content := match input with
    | .ok source => Octets.toBytes source.content
    | .error _ => []
  let r ← get
  let (result, after) :=
    CommandLine.runArgs arguments (hostOf r.process (.ofList exported)) .none content r
  set after
  if r.process.pending.length < after.process.pending.length then throw (.killed fileSizeSignal)
  let _ ← write 1 (Octets.ofString result.console.stdout)
  let _ ← write 2 (Octets.ofString result.console.stderr)
  return result.exitCode

/-! ## All programs -/

/-- A program that works by itself, and its status when its output cannot be written. -/
def plain? (name : String) : Option (Nat × (List Octets → Run Nat)) :=
  match name with
  | "[" => some (2, test true)
  | "b2sum" => some (1, digest .blake2b)
  | "base32" => some (1, encodeBase .base32)
  | "base64" => some (1, encodeBase .base64)
  | "basename" => some (1, basename)
  | "basenc" => some (1, basenc)
  | "cat" => some (1, cat)
  | "chmod" => some (1, chmod)
  | "cksum" => some (1, cksum)
  | "cmp" => some (2, cmp)
  | "comm" => some (1, comm)
  | "cp" => some (1, cp)
  | "cut" => some (1, cut)
  | "date" => some (1, date)
  | "dd" => some (1, dd)
  | "diff" => some (2, diff)
  | "dirname" => some (1, dirname)
  | "echo" => some (1, echo)
  | "egrep" => some (2, grepAs "-E")
  | "exe" => some (1, notebooks)
  | "expand" => some (1, expand)
  | "expr" => some (3, expr)
  | "factor" => some (1, factor)
  | "false" => some (1, fun _ => pure 1)
  | "fgrep" => some (2, grepAs "-F")
  | "fold" => some (1, fold)
  | "grep" => some (2, grep)
  | "head" => some (1, head)
  | "join" => some (1, joinFiles)
  | "ln" => some (1, ln)
  | "ls" => some (2, ls)
  | "md5sum" => some (1, digest .md5)
  | "mkdir" => some (1, mkdir)
  | "mktemp" => some (1, mktemp)
  | "mv" => some (1, mv)
  | "nl" => some (1, nl)
  | "od" => some (1, od)
  | "paste" => some (1, paste)
  | "printenv" => some (2, printenv)
  | "printf" => some (1, printf)
  | "pwd" => some (1, pwd)
  | "readlink" => some (1, readlink)
  | "realpath" => some (1, realpath)
  | "rev" => some (1, rev)
  | "rm" => some (1, rm)
  | "rmdir" => some (1, rmdir)
  | "seq" => some (1, seq)
  | "sha1sum" => some (1, digest .sha1)
  | "sha224sum" => some (1, digest .sha224)
  | "sha256sum" => some (1, digest .sha256)
  | "sha384sum" => some (1, digest .sha384)
  | "sha512sum" => some (1, digest .sha512)
  | "sleep" => some (1, sleep)
  | "sort" => some (2, sort)
  | "split" => some (1, split)
  | "stat" => some (1, stat)
  | "sum" => some (1, sum)
  | "tac" => some (1, tac)
  | "tail" => some (1, tail)
  | "tee" => some (1, tee)
  | "test" => some (2, test false)
  | "touch" => some (1, touch)
  | "tr" => some (1, tr)
  | "true" => some (1, fun _ => pure 0)
  | "truncate" => some (1, truncate)
  | "tty" => some (3, tty)
  | "uname" => some (1, uname)
  | "unexpand" => some (1, unexpand)
  | "uniq" => some (1, uniq)
  | "wc" => some (1, wc)
  | "which" => some (1, which)
  | "yes" => some (1, yes)
  | _ => none

/-- A program that runs others, and its status when its output cannot be written. -/
def launching? (name : String) : Option (Nat × (Runner → List Octets → Run Nat)) :=
  match name with
  | "awk" | "mawk" | "nawk" => some (2, awk)
  | "env" => some (125, env)
  | "find" => some (1, search)
  | "nice" => some (125, nice)
  | "nohup" => some (125, nohup)
  | "sed" => some (4, sed)
  | "stdbuf" => some (125, stdbuf)
  | "timeout" => some (125, timeout)
  | "xargs" => some (1, xargs)
  | _ => none

/-- Runs a program by name. -/
def run? (name : String) (runner : Runner) (arguments : List Octets) : Option (Run Nat) :=
  match plain? name with
  | some (faultStatus, tool) => some (checkingOutput faultStatus (tool arguments))
  | none =>
    match launching? name with
    | some (faultStatus, tool) => some (checkingOutput faultStatus (tool runner arguments))
    | none => none

end NotebookKernel.Shell.Tool
