import FourReg.Session

/-!
What the command needs from around it, as actions of some monad: those of the system it runs on, or
those of a console that keeps what is written.
-/

namespace FourReg

def Session.Turn.refused (turn : Turn) (pc : Int64) (cause : SystemError) : Turn :=
  .stop { turn.outcome with result := .error (.write pc cause) }

namespace Cli

structure Streams (m : Type → Type) where
  /-- Writes to standard output, which may refuse it. -/
  put : String → m (Except SystemError Unit)
  /-- Writes to standard error. -/
  report : String → m Unit

namespace Streams

/-- Writes what a turn of the instruction at `pc` has written to a fresh console. -/
@[noinline] def settle {m : Type → Type} [Monad m] (streams : Streams m) (pc : Int64)
    (turn : Session.Turn) : m Session.Turn := do
  let console := turn.outcome.console
  streams.report console.err
  if console.writes = 0 then return turn
  match ← streams.put console.out with
  | .ok () => return turn
  | .error cause => return turn.refused pc cause

/-- A turn of a session that writes what it has to write at once. -/
@[inline] def turn {m : Type → Type} [Monad m] (streams : Streams m) (s : Session) :
    m Session.Turn :=
  streams.settle s.state.pc (s.turn .working)

@[inline] def drive {m : Type → Type} [Monad m] (streams : Streams m)
    (again : Session → m (Except Session.Error Session)) (s : Session) :
    m (Except Session.Error Session) := do
  match ← streams.turn s with
  | .stop outcome => return outcome.result.map fun _ => outcome.session
  | .go s _ => again s

/-- A console that keeps what is written. -/
def recorded : Streams (StateT Console Option) where
  put text := modifyGet fun c => c.write text
  report text := modify fun c => c.report text

end Streams

inductive Phase where
  | load
  | run
  deriving DecidableEq

structure World (m : Type → Type) extends Streams m where
  /-- The bytes of a file. -/
  read : String → m (Except Source.Error ByteArray)
  /-- Writes a text of the command's own to standard output. -/
  print : String → m Unit
  /-- Carries out a phase and tells how long it took. -/
  timed : {α : Type} → Phase → m α → m (α × String)
  /-- Runs a session. -/
  run : Session → m (Except Session.Error Session)

/-- A recording, with files and times that are given. There is no outcome if a session never
stops. -/
def World.recorded (elapsed : Phase → String) (read : String → Except Source.Error ByteArray) :
    World (StateT Console Option) where
  toStreams := .recorded
  read path := return read path
  print text := modify fun c => { c with out := c.out ++ text }
  timed phase act := return (← act, elapsed phase)
  run s := fun c => (s.run c).map fun o => (o.result.map fun _ => o.session, o.console)

end Cli

end FourReg
