import NotebookKernel.Host.Path
import NotebookKernel.Time.Duration
import NotebookKernel.Data.SortedMap
import NotebookKernel.Text.Utf8

/-! # The machine that a kernel runs on

`Host σ` is what the kernel asks of its operating system: files, child processes and clocks. The
state of the machine is a value of `σ`, of which nothing is known here. -/

namespace NotebookKernel

/-- The reason why the operating system refused a request. -/
inductive OsError where
  | notFound
  | tooManyArguments
  | badExecutable
  | badDescriptor
  | permissionDenied
  | busy
  | alreadyExists
  | notADirectory
  | isADirectory
  | invalidArgument
  | fileTooLarge
  | noSpace
  | nameTooLong
  | directoryNotEmpty
  | tooManyLinks
  /-- A path holds a NUL. -/
  | nulInPath
  /-- A command or one of its arguments holds a NUL. -/
  | nulInArgument
  /-- A file read as text is not UTF-8. -/
  | invalidUtf8
  deriving DecidableEq, Repr

namespace OsError

/-- What went wrong, in the words of the system. -/
def reason : OsError → String
  | .notFound => "No such file or directory"
  | .tooManyArguments => "Argument list too long"
  | .badExecutable => "Exec format error"
  | .badDescriptor => "Bad file descriptor"
  | .permissionDenied => "Permission denied"
  | .busy => "Device or resource busy"
  | .alreadyExists => "File exists"
  | .notADirectory => "Not a directory"
  | .isADirectory => "Is a directory"
  | .invalidArgument => "Invalid argument"
  | .fileTooLarge => "File too large"
  | .noSpace => "No space left on device"
  | .nameTooLong => "File name too long"
  | .directoryNotEmpty => "Directory not empty"
  | .tooManyLinks => "Too many levels of symbolic links"
  | .nulInPath => "file name contained an unexpected NUL byte"
  | .nulInArgument => "nul byte found in provided data"
  | .invalidUtf8 => "stream did not contain valid UTF-8"

/-- The number of an error that the system reports itself. -/
def number? : OsError → Option Nat
  | .notFound => some 2
  | .tooManyArguments => some 7
  | .badExecutable => some 8
  | .badDescriptor => some 9
  | .permissionDenied => some 13
  | .busy => some 16
  | .alreadyExists => some 17
  | .notADirectory => some 20
  | .isADirectory => some 21
  | .invalidArgument => some 22
  | .fileTooLarge => some 27
  | .noSpace => some 28
  | .nameTooLong => some 36
  | .directoryNotEmpty => some 39
  | .tooManyLinks => some 40
  | _ => none

/-- The reason, with the number of the error where it has one. -/
def message (e : OsError) : String :=
  match e.number? with
  | some n => e.reason ++ " (os error " ++ toString n ++ ")"
  | none => e.reason

end OsError

/-- A child process to be run. -/
structure Launch where
  /-- The program: a path, or a name to be looked for on the search path. -/
  program : String
  args : List String
  directory : Path
  environment : SortedMap String
  /-- How long the process may take. -/
  timeout : Duration

/-- How a child process ended. -/
inductive Ending where
  /-- It could not be started. -/
  | notStarted (error : OsError)
  /-- It took too long and was killed with all that it had started. -/
  | timedOut
  /-- It ended, with an exit code unless a signal killed it, and wrote to its two streams. -/
  | finished (code : Option Nat) (stdout stderr : Bytes)

/-- A moment in universal time. -/
structure Instant where
  /-- Seconds since the start of 1970. -/
  seconds : Int
  nanos : Nat
  deriving DecidableEq, Repr, Inhabited

/-- An entry of a directory. Links are followed to tell directories from other files. -/
structure DirectoryEntry where
  name : String
  isDirectory : Bool
  deriving DecidableEq, Repr

/-- The operating system, as far as the kernel uses it. -/
structure Host (σ : Type) where
  /-- The environment that the kernel itself was started with. -/
  environment : SortedMap String
  /-- The directory that the kernel itself was started in. -/
  currentDirectory : Path
  /-- The home directory that the user's account names. -/
  accountHome : Option Path
  /-- The absolute path without links of something that exists. -/
  canonicalize : Path → σ → Except OsError Path
  isDirectory : Path → σ → Bool
  /-- Whether something is there once links are followed. -/
  fileExists : Path → σ → Bool
  /-- Whether a regular file is there that may be run. -/
  isExecutable : Path → σ → Bool
  readDirectory : Path → σ → Except OsError (List DirectoryEntry)
  readFile : Path → σ → Except OsError Bytes
  writeFile : Path → Bytes → σ → Except OsError Unit × σ
  removeFile : Path → σ → Except OsError Unit × σ
  /-- Creates a directory and those above it, as far as they are missing. -/
  createDirectories : Path → σ → Except OsError Unit × σ
  /-- Runs a child process to its end. -/
  run : Launch → σ → Ending × σ
  /-- The time on a clock that never goes back. -/
  monotonic : σ → Duration × σ
  now : σ → Instant × σ
  /-- Sixteen bytes that were never given out before. -/
  freshBytes : σ → Bytes × σ

namespace Host

variable {σ : Type}

/-- Reads a file whose content has to be UTF-8. -/
def readText (h : Host σ) (p : Path) (s : σ) : Except OsError String := do
  let bytes ← h.readFile p s
  match Utf8.decode? bytes with
  | some text => .ok text
  | none => .error .invalidUtf8

/-- The home directory: what the environment names, else what the account names. -/
def home? (h : Host σ) : Option Path :=
  match h.environment.get? "HOME" with
  | some dir => if dir.isEmpty then h.accountHome else some ⟨dir⟩
  | none => h.accountHome

/-- A directory of the search path. A tilde for its first name stands for the home directory that the
environment names. -/
def searchDirectory (h : Host σ) (dir : Path) : Path :=
  match dir.components, (h.environment.get? "HOME").filter (· != "") with
  | .name "~" :: rest, some home => rest.foldl (fun p c => p ++ c.text) ⟨home⟩
  | _, _ => dir

/-- The first executable of a name on the search path. -/
def which? (h : Host σ) (name : String) (s : σ) : Option Path :=
  (h.environment.get? "PATH").bind fun dirs =>
    ((Text.splitOn ':' dirs).map fun dir => h.searchDirectory ⟨dir⟩ ++ name).find?
      (h.isExecutable · s)

end Host

end NotebookKernel
