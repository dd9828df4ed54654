import SensorLog.CommandLine.Run

/-!
# The program

Finds the files that a request names, carries the request out and puts its effects into the world.
-/

namespace SensorLog.Program

/-- The kind of an error of the operating system. -/
def kindOf : IO.Error → IoKind
  | .noFileOrDirectory _ _ _ => .notFound
  | .noSuchThing _ _ _ => .notFound
  | .permissionDenied _ _ _ => .permissionDenied
  | .alreadyExists _ _ _ => .alreadyExists
  | .resourceVanished _ _ => .brokenPipe
  | .timeExpired _ _ => .timedOut
  | .inappropriateType _ 21 _ => .isADirectory
  | .unexpectedEof => .unexpectedEof
  | _ => .other

/-- The wording of an error of the operating system: its text and its number. -/
def textOf : IO.Error → String
  | .noFileOrDirectory _ number text => s!"{text} (os error {number})"
  | .noSuchThing _ number text => s!"{text} (os error {number})"
  | .permissionDenied _ number text => s!"{text} (os error {number})"
  | .alreadyExists _ number text => s!"{text} (os error {number})"
  | .resourceVanished number text => s!"{text} (os error {number})"
  | .timeExpired number text => s!"{text} (os error {number})"
  | .inappropriateType _ number text => s!"{text} (os error {number})"
  | .otherError number text => s!"{text} (os error {number})"
  | e => e.toString

/-- An error of the operating system. -/
def ioError (e : IO.Error) : IoError :=
  { kind := kindOf e, text? := some (textOf e) }

/-- Creates an empty file for rows. -/
def createFile (path : String) : IO (Except IoError Unit) := do
  match ← (IO.FS.writeBinFile path .empty).toBaseIO with
  | .error e => return .error (ioError e)
  | .ok () => return .ok ()

/-- What came of reading a capture that is open. -/
def readAll (reading : IO ByteArray) : IO CaptureSource := do
  match ← reading.toBaseIO with
  | .error e => return .unreadable (ioError e)
  | .ok bytes => return .content bytes.toList

/-- Opens and reads a capture. -/
def readCapture : CapturePlace → IO CaptureSource
  | .stdin => do readAll (← IO.getStdin).readBinToEnd
  | .file path => do
    match ← (IO.FS.Handle.mk path .read).toBaseIO with
    | .error e => return .unopened (ioError e)
    | .ok handle => readAll handle.readBinToEnd

/-- Creates the file for rows, if the request names one. -/
def createRowFile : Request → IO (Except IoError Unit)
  | .decode { rowFile? := some path, .. } => createFile path
  | _ => return .ok ()

/-- Reads the capture, if the request names one. -/
def findCapture : Request → IO CaptureSource
  | .decode r => readCapture r.capture
  | _ => return .content []

/-- Writes the rows of a request to their file. -/
def writeRowFile (request : Request) (rows : ByteArray) : IO Unit :=
  match request with
  | .decode { rowFile? := some path, .. } => IO.FS.writeBinFile path rows
  | _ => return ()

/-- Puts the end of a process into the world. A process without its memory has the code that a shell shows for
    an aborted one. -/
def conclude (request : Request) : ProcessEnd → IO UInt32
  | .exited effects => do
    let out ← IO.getStdout
    out.write effects.printed
    out.flush
    if let some rows := effects.rowFile? then writeRowFile request rows
    if let .error failure := effects.result then IO.eprintln s!"error: {failure.message}"
    return effects.code.toUInt32
  | .stopped fault rowFile? => do
    if let some rows := rowFile? then writeRowFile request rows
    IO.eprintln fault.message
    return ((ProcessEnd.stopped fault rowFile?).code?.getD 134).toUInt32

/-- Carries out an invocation. -/
def execute (i : Invocation) : IO UInt32 := do
  let created ← createRowFile i.request
  let source ← match created with
    | .ok () => findCapture i.request
    | .error _ => pure (.content [])
  let files : Files := { create := fun _ => created, read := fun _ => source }
  conclude i.request (i.run { files, memory := .addressable })

/-- Tells why a command line is not carried out. -/
def refuse (r : Refusal) : IO UInt32 := do
  match r with
  | .help => IO.println r.message
  | .version => IO.println s!"{programName} {programVersion}"
  | _ => IO.eprintln s!"error: {r.message}"
  return r.code.toUInt32

end SensorLog.Program

/-- The command line of the program. -/
def main (args : List String) : IO UInt32 :=
  match SensorLog.Invocation.ofArguments args with
  | .error refusal => SensorLog.Program.refuse refusal
  | .ok invocation => SensorLog.Program.execute invocation
