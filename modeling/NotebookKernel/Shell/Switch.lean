import NotebookKernel.Shell.Octets

/-! # The switches of a shell

A switch is on or off. Most have a letter, and all have a name. -/

namespace NotebookKernel.Shell

inductive Switch where
  /-- The shell ends with the first failure that is not asked about. -/
  | exitOnFailure
  | noMatching
  | ignoreEnd
  | interactive
  | jobControl
  /-- Commands are only read. -/
  | noExecution
  | readsInput
  | trace
  | verbose
  | vi
  | emacs
  /-- Existing files are kept from being overwritten. -/
  | noClobber
  | exportAll
  | notify
  /-- Parameters that are not set must not be used. -/
  | refuseUnset
  | privileged
  | noLog
  | debug
  deriving DecidableEq, Repr

namespace Switch

/-- All switches in their order, with their names and letters. -/
def all : List (Switch × String × Option Char) := [
  (exitOnFailure, "errexit", 'e'), (noMatching, "noglob", 'f'), (ignoreEnd, "ignoreeof", 'I'),
  (interactive, "interactive", 'i'), (jobControl, "monitor", 'm'), (noExecution, "noexec", 'n'),
  (readsInput, "stdin", 's'), (trace, "xtrace", 'x'), (verbose, "verbose", 'v'), (vi, "vi", 'V'),
  (emacs, "emacs", 'E'), (noClobber, "noclobber", 'C'), (exportAll, "allexport", 'a'),
  (notify, "notify", 'b'), (refuseUnset, "nounset", 'u'), (privileged, "privileged", 'p'),
  (noLog, "nolog", none), (debug, "debug", none)]

def ofLetter? (letter : Char) : Option Switch :=
  (all.find? fun (_, _, l) => l == some letter).map (·.1)

def ofName? (name : Octets) : Option Switch :=
  (all.find? fun (_, n, _) => n.toList == name).map (·.1)

/-- The switches that go off when one goes on. -/
def excludes : Switch → List Switch
  | vi => [emacs]
  | emacs => [vi]
  | _ => []

end Switch

/-- The switches that are on. -/
structure Switches where
  isOn : List Switch := []

namespace Switches

def has (s : Switches) (switch : Switch) : Bool := s.isOn.contains switch

/-- Puts a switch on or off. -/
def put (s : Switches) (on : Bool) (switch : Switch) : Switches :=
  let others := s.isOn.filter (· != switch)
  ⟨if on then switch :: others.filter (!switch.excludes.contains ·) else others⟩

/-- The letters of the switches that are on, the last first. -/
def letters (s : Switches) : Octets :=
  (Switch.all.reverse.filter fun (switch, _) => s.has switch).filterMap (·.2.2)

/-- The list of all switches as a table, or as commands that would put them as they are. -/
def listing (s : Switches) (asCommands : Bool) : Octets :=
  let rows := Switch.all.map fun (switch, name, _) =>
    if asCommands then (if s.has switch then "set -o " else "set +o ").toList ++ name.toList
    else name.toList ++ List.replicate (16 - name.length) ' ' ++
      (if s.has switch then "on" else "off").toList
  Octets.ofLines (if asCommands then rows else "Current option settings".toList :: rows)

theorem has_put_on (s : Switches) (switch : Switch) : (s.put true switch).has switch = true := by
  simp [has, put]

theorem has_put_off (s : Switches) (switch : Switch) : (s.put false switch).has switch = false := by
  simp [has, put]

end Switches

end NotebookKernel.Shell
