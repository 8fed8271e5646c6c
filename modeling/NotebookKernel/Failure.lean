import NotebookKernel.Time.Duration

/-! # What can go wrong while a cell runs

A `Failure` is either an exception that the user's code raised or a fault of the kernel itself.
`Failure.message` is the text in which it is reported. -/

namespace NotebookKernel

/-- An exception raised by the user's code. -/
structure Raised where
  /-- The type of the exception. -/
  name : String
  value : String
  /-- The full trace. -/
  traceback : String
  deriving DecidableEq, Repr

/-- The reason why an operation of the kernel failed. -/
inductive Failure where
  /-- The user's code raised an exception. -/
  | raised (exception : Raised)
  /-- The channel to the worker broke, or carried what it should not. -/
  | channel (reason : String)
  /-- The worker could not be started, or could not do what it was asked. -/
  | worker (reason : String)
  /-- Data could not be encoded or decoded. -/
  | serialization (reason : String)
  | io (reason : String)
  /-- A child process could not be run. -/
  | shell (reason : String)
  /-- A child process took longer than it was given. -/
  | timeout (limit : Duration)
  | invalidArgument (reason : String)
  deriving DecidableEq, Repr

namespace Failure

/-- The text in which the failure is reported: the trace of an exception, else its kind and reason. -/
def message : Failure → String
  | .raised exception => exception.traceback
  | .channel reason => "IPC error: " ++ reason
  | .worker reason => "worker error: " ++ reason
  | .serialization reason => "serialization error: " ++ reason
  | .io reason => "IO error: " ++ reason
  | .shell reason => "shell error: " ++ reason
  | .timeout limit => "timed out after " ++ toString limit.wholeSeconds ++ "s"
  | .invalidArgument reason => "invalid argument: " ++ reason

/-- Whether the user's code is at fault rather than the kernel. -/
def isRaised : Failure → Bool
  | .raised _ => true
  | _ => false

end Failure

end NotebookKernel
