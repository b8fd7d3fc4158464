import FourReg.Cli.Interpret
import FourReg.Cli.Scan

/-!
The command line program: the command on real files and streams, with output written as it arises.
-/

namespace FourReg.Main

/-- The number of an error, which may be given negated. -/
def errorNumber (code : UInt32) : Nat :=
  min code.toNat (-code).toNat

/-- The system's error as the library knows it. A wrong type is that of a folder in the place of the
file, unless it is that of a file in the place of a folder. -/
def systemError (e : IO.Error) : SystemError :=
  let other : SystemError := ⟨none, "Other", toString e⟩
  match e with
  | .noFileOrDirectory .. => .noSuchFile
  | .inappropriateType _ code _ =>
    if errorNumber code = 20 then .notDirectory else .noSuchDevice
  | .invalidArgument _ code _ => if errorNumber code = 36 then .nameTooLong else other
  | .resourceExhausted _ code _ => if errorNumber code = 28 then .noSpace else other
  | .permissionDenied _ code _ =>
    ⟨some (errorNumber code), "PermissionDenied", "Permission denied"⟩
  | _ => other

def read (path : String) : IO (Except Source.Error ByteArray) := do
  if path.toList.contains '\x00' then
    return .error (.openFailed .nulInName)
  try
    return .ok (← IO.FS.readBinFile path)
  catch e =>
    let cause := systemError e
    return .error (if cause = .noSuchDevice then .mapFailed cause else .openFailed cause)

def put (text : String) : IO (Except SystemError Unit) := do
  let stream ← IO.getStdout
  try
    stream.putStr text
    stream.flush
    return .ok ()
  catch e => return .error (systemError e)

def streams : Cli.Streams IO where
  put := put
  report text := IO.eprint text

def timed {α : Type} (_ : Cli.Phase) (act : IO α) : IO (α × String) := do
  let begun ← IO.monoNanosNow
  let result ← act
  return (result, Cli.Notice.elapsed ((← IO.monoNanosNow) - begun))

/-- Takes turns until one stops. -/
partial def drive (session : Session) : IO (Except Session.Error Session) :=
  streams.drive drive session

/-- The system's files, streams and clock. -/
def world : Cli.World IO where
  toStreams := streams
  read := read
  print text := IO.print text
  timed := timed
  run := drive

end FourReg.Main

def main (args : List String) : IO UInt32 := do
  match FourReg.Cli.Arguments.parse args with
  | .ok args => args.perform FourReg.Main.world
  | .error exit =>
    let report := exit.report
    IO.print report.out
    IO.eprint report.err
    return report.exit
