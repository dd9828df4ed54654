/-!
# Errors of files and streams

An `IoError` has a kind, which decides how the program ends, and a wording, which is the kind's own
unless a better one is known.
-/

namespace SensorLog

/-- The kinds of errors that files and streams report. -/
inductive IoKind
  | notFound
  | permissionDenied
  | brokenPipe
  | alreadyExists
  | wouldBlock
  | invalidData
  | timedOut
  | unexpectedEof
  | isADirectory
  | other
deriving DecidableEq, Repr

/-- The wording of a kind. -/
def IoKind.text : IoKind → String
  | notFound => "entity not found"
  | permissionDenied => "permission denied"
  | brokenPipe => "broken pipe"
  | alreadyExists => "entity already exists"
  | wouldBlock => "operation would block"
  | invalidData => "invalid data"
  | timedOut => "timed out"
  | unexpectedEof => "unexpected end of file"
  | isADirectory => "is a directory"
  | other => "other error"

/-- An error of a file or stream. -/
structure IoError where
  kind : IoKind
  text? : Option String := none
deriving DecidableEq, Repr

namespace IoError

/-- The wording of an error. -/
def message (e : IoError) : String :=
  e.text?.getD e.kind.text

/-- A path that leads nowhere. -/
def noSuchFile : IoError :=
  { kind := .notFound, text? := some "No such file or directory (os error 2)" }

/-- A directory where a file is needed. -/
def directory : IoError :=
  { kind := .isADirectory, text? := some "Is a directory (os error 21)" }

/-- A line that is not text. -/
def notText : IoError :=
  { kind := .invalidData, text? := some "stream did not contain valid UTF-8" }

end IoError

end SensorLog
