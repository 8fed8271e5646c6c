import NotebookKernel.Machine.FileTree

/-! # A machine in memory

`Machine` is a whole machine as a value: its files, its clock and what it needs to give out fresh
identifiers. Time passes only when a program waits. -/

namespace NotebookKernel

structure Machine where
  tree : FileTree
  /-- The time on the clock, in nanoseconds since the machine was started. -/
  clock : Nat
  /-- How many fresh identifiers were given out. -/
  issued : Nat

namespace Machine

/-- The programs that every machine has in `/usr/bin`. -/
def toolNames : List String := [
  "[", "awk", "b2sum", "base32", "base64", "basename", "basenc", "cat", "chmod", "cksum", "cmp",
  "comm", "cp", "cut", "dash", "date", "dd", "diff", "dirname", "echo", "egrep", "env", "expand",
  "expr", "factor", "false", "fgrep", "find", "fold", "grep", "head", "join", "ln", "ls", "mawk",
  "md5sum", "mkdir", "mktemp", "mv", "nawk", "nice", "nl", "nohup", "od", "paste", "printenv",
  "printf", "pwd", "readlink", "realpath", "rev", "rm", "rmdir", "sed", "seq", "sh", "sha1sum",
  "sha224sum", "sha256sum", "sha384sum", "sha512sum", "sleep", "sort", "split", "stat", "stdbuf",
  "sum", "tac", "tail", "tee", "test", "timeout", "touch", "tr", "true", "truncate", "tty",
  "uname", "unexpand", "uniq", "wc", "which", "xargs", "yes"]

/-- The number of the process that all others are started by. -/
def firstProcess : Nat := 4241

/-- The directories and programs of the system, with the entry of the first process. -/
def systemTree : FileTree :=
  let dirs : List Location := [["dev"], ["etc"], ["home"], ["proc"],
    ["proc", toString firstProcess], ["root"], ["tmp"], ["usr"],
    ["usr", "bin"], ["usr", "lib"], ["usr", "local"], ["usr", "local", "bin"], ["usr", "sbin"],
    ["var"]]
  let t := dirs.foldl (fun t dir => t.insert dir (.directory FileTree.systemMode)) (∅ : FileTree)
  let t := t.insert ["tmp"] (.directory 0o777)
  let t := t.insert ["root"] (.directory 0)
  let t := ["bin", "lib", "sbin"].foldl (fun t name => t.insert [name] (.link ("usr/" ++ name))) t
  let t := t.insert ["proc", toString firstProcess, "exe"] .tool
  let t := toolNames.foldl (fun t name => t.insert ["usr", "bin", name] .tool) t
  let devices := [("null", Device.null), ("zero", .zero), ("full", .full)]
  devices.foldl (fun t (name, kind) => t.insert ["dev", name] (.device kind)) t

/-- A machine with nothing on it but the system. -/
def fresh : Machine := { tree := systemTree, clock := 0, issued := 0 }

/-- Lets time pass. -/
def wait (m : Machine) (d : Duration) : Machine := { m with clock := m.clock + d.nanos }

/-- The moment at which the clocks of all machines start. -/
def epoch : Instant := { seconds := 1735689600, nanos := 0 }

/-- The moment on the clock. -/
def instant (m : Machine) : Instant :=
  { seconds := epoch.seconds + (m.clock / 1000000000 : Nat), nanos := m.clock % 1000000000 }

/-! ## The machine as a host -/

/-- Changes the tree by an operation that may be refused. -/
def updateTree (m : Machine) (r : Except OsError FileTree) : Except OsError Unit × Machine :=
  match r with
  | .ok tree => (.ok (), { m with tree })
  | .error e => (.error e, m)

/-- The next sixteen bytes that were not given out before. -/
def freshBytes (m : Machine) : Bytes × Machine :=
  let n := m.issued + 1
  ((List.range 16).map fun i => UInt8.ofNat (n / Nat.pow 256 (15 - i)), { m with issued := n })

/-- The machine as seen by a process with an environment and a directory to start in, which has its own
way to run others. -/
def hostRunning (run : Launch → Machine → Ending × Machine) (environment : SortedMap String)
    (directory : Location) : Host Machine where
  environment
  currentDirectory := directory.path
  accountHome := some ⟨"/root"⟩
  canonicalize p m := m.tree.canonicalize directory p
  isDirectory p m := m.tree.isDirectory directory p
  fileExists p m := m.tree.fileExists directory p
  isExecutable p m := m.tree.isExecutable directory p
  readDirectory p m := m.tree.readDirectory directory p
  readFile p m := m.tree.contentOf directory p
  writeFile p content m := m.updateTree (m.tree.writeFile directory p content)
  removeFile p m := m.updateTree (m.tree.removeFile directory p)
  createDirectories p m :=
    let (result, tree) := m.tree.createDirectories directory p
    (result, { m with tree })
  run
  monotonic m :=
    let m := m.wait (.ofMillis 1)
    (⟨m.clock⟩, m)
  now m :=
    let m := m.wait ⟨1000001⟩
    (m.instant, m)
  freshBytes := freshBytes

end Machine

end NotebookKernel
