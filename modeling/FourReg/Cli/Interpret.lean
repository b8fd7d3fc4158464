import FourReg.Cli.Arguments
import FourReg.Cli.Failure
import FourReg.Cli.Notice
import FourReg.Cli.World
import FourReg.Session.Load
import FourReg.Text.Split

/-!
The command: what it does with its arguments in any world, and as a function from arguments and
files to what it writes and how it exits.

Register assignments are looked at first, in order, then the limit; only then the file is read.
-/

namespace FourReg.Cli

/-- The register and value of an argument `name=value`, with blanks around either ignored. -/
def assignment (arg : String) : Except Failure (Register × Int64) :=
  match Text.splitOnce '=' arg with
  | none => .error (.malformedAssignment arg)
  | some (name, value) =>
    match Register.ofName? (Text.trim name) with
    | none => .error (.unknownRegister name)
    | some r =>
      match Decimal.readInt64 (Text.trim value) with
      | .error cause => .error (.badNumber cause)
      | .ok x => .ok (r, x)

def assign (v : Registers) (arg : String) : Except Failure Registers :=
  (assignment arg).map fun (r, x) => v.set r x

def stepLimit : Option String → Except Failure (Option UInt64)
  | none => .ok none
  | some text => ((Decimal.readUInt64 text).mapError .badNumber).map some

/-- The session's configuration that the arguments ask for. -/
def Arguments.config (args : Arguments) : Except Failure Session.Config := do
  let registers ← args.assignments.foldlM assign {}
  let maxSteps ← stepLimit args.maxSteps
  return { Session.Config.of args.ir args.debug false with registers, maxSteps }

/-- How the command ends, and all it has written. -/
structure Report where
  exit : UInt32
  out : String := ""
  err : String := ""
  deriving DecidableEq

def Arguments.notice (args : Arguments) (text : String) : String :=
  if args.quiet then "" else text

def World.fail {m : Type → Type} [Monad m] (w : World m) (f : Failure) : m UInt32 := do
  w.report f.line
  return 1

/-- Carries out what the arguments ask for, and gives the exit code. -/
def Arguments.perform {m : Type → Type} [Monad m] (w : World m) (args : Arguments) : m UInt32 := do
  match args.config with
  | .error f => w.fail f
  | .ok config =>
    w.print (args.notice Notice.loading)
    let (loaded, time) ← w.timed .load do
      let (listing, loaded) := Session.load config (← w.read args.file)
      w.print listing
      return loaded
    match loaded with
    | .error e => w.fail (.session e)
    | .ok session =>
      w.print (args.notice (Notice.compiled session.program.size time))
      if args.ir then return 0
      w.print (args.notice Notice.starting)
      let (ended, time) ← w.timed .run (w.run session)
      match ended with
      | .error e => w.fail (.session e)
      | .ok session =>
        w.print (args.notice (Notice.halted session.state session.steps time))
        return 0

/-- Carries out what the arguments ask for; there is no report if the program never halts. The times
of the phases are given as texts. -/
def Arguments.interpret (args : Arguments) (elapsed : Phase → String)
    (read : String → Except Source.Error ByteArray) : Option Report :=
  (args.perform (.recorded elapsed read) .working).map fun (exit, console) =>
    ⟨exit, console.out, console.err⟩

def Exit.report : Exit → Report
  | help => ⟨0, Notice.help, ""⟩
  | version => ⟨0, Notice.version, ""⟩
  | usage => ⟨2, "", Notice.usage⟩

def command (parse : List String → Except Exit Arguments) (args : List String)
    (elapsed : Phase → String) (read : String → Except Source.Error ByteArray) : Option Report :=
  match parse args with
  | .error exit => some exit.report
  | .ok args => args.interpret elapsed read

end FourReg.Cli
