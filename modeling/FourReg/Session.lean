import FourReg.Session.Console
import FourReg.Session.Trace
import FourReg.Source.Reader

/-!
A session holds a program and drives it: instruction by instruction, or until it halts.

A session counts the instructions it executes. `exec` executes one, `run` goes on until the program
halts, the limit is used up or a write fails, and `reset` goes back to the beginning. An
instruction whose output cannot be written has been executed and counted all the same.
-/

namespace FourReg

namespace Session

structure Config where
  registers : Registers := {}
  /-- The number of executed instructions at which `run` gives up. -/
  maxSteps : Option UInt64 := none
  /-- List the instructions while loading. -/
  listing : Bool := false
  /-- Write a trace to standard error. -/
  trace : Bool := false
  /-- Keep output values off standard output. -/
  muted : Bool := false
  deriving DecidableEq

namespace Config

def of (listing trace muted : Bool) : Config := { listing, trace, muted }

def echoing : Config := of false false false

def silent : Config := of false false true

def traced : Config := of false true false

def listed : Config := of true false false

end Config

inductive Error where
  | load (cause : Source.Error)
  | outOfRange (place : Machine.OutOfRange)
  | stepLimit (limit : UInt64)
  | write (pc : Int64) (cause : SystemError)
  deriving DecidableEq

def Error.message : Error → String
  | load cause => "parse error occurred: " ++ cause.message
  | outOfRange place =>
    "program counter " ++ Decimal.ofInt64 place.pc
      ++ " is outside of the program, expected it in 0.." ++ Decimal.ofNat place.size
  | stepLimit limit => "program did not halt within " ++ Decimal.ofUInt64 limit ++ " steps"
  | write pc cause =>
    "stdout error when executing the instruction at " ++ Decimal.ofInt64 pc ++ ": "
      ++ cause.message

end Session

structure Session where
  config : Session.Config
  program : Program
  state : Machine.State
  /-- The number of instructions executed since the beginning or the last reset. -/
  steps : UInt64

namespace Session

/-- A session at the first instruction of a program. -/
def start (config : Config) (program : Program) : Session where
  config := config
  program := program
  state := { registers := config.registers }
  steps := 0

def next? (s : Session) : Option Nat :=
  if s.program.contains s.state.pc then index? s.state.pc else none

/-- What an operation gives: its result, and the session and console after it. -/
structure Outcome where
  result : Except Error Unit
  session : Session
  console : Console

def echo (value : Int64) : String :=
  Decimal.ofInt64 value ++ "\n"

def exec : Session → Console → Outcome
  | ⟨config, program, state, steps⟩, console =>
    let console := if config.trace then console.report (Trace.text program state) else console
    let pc := state.pc
    match program.fetch pc with
    | none =>
      ⟨.error (.outOfRange ⟨pc, program.size⟩), ⟨config, program, state, steps⟩, console⟩
    | some i =>
      let echoed := if config.muted then none else i.output? state.registers
      let session := ⟨config, program, state.apply i, steps + 1⟩
      match echoed with
      | none => ⟨.ok (), session, console⟩
      | some value =>
        match console.write (echo value) with
        | (.ok (), console) => ⟨.ok (), session, console⟩
        | (.error cause, console) => ⟨.error (.write pc cause), session, console⟩

/-- The limit, if it does not allow another instruction. -/
def exhausted? (s : Session) : Option UInt64 :=
  s.config.maxSteps.filter fun limit => limit ≤ s.steps

/-- What a turn of a run leads to: the run stops, or goes on from here. -/
inductive Turn where
  | stop (o : Outcome)
  | go (s : Session) (console : Console)

def Turn.outcome : Turn → Outcome
  | stop o => o
  | go s console => ⟨.ok (), s, console⟩

/-- One turn of a run. It executes an instruction unless the program has halted or the limit is used
up. -/
def turn (s : Session) (console : Console) : Turn :=
  if s.next?.isNone then .stop ⟨.ok (), s, console⟩
  else
    match s.exhausted? with
    | some limit => .stop ⟨.error (.stepLimit limit), s, console⟩
    | none =>
      match s.exec console with
      | ⟨.ok (), s, console⟩ => .go s console
      | outcome => .stop outcome

/-- Takes turns until one stops: the program has halted, the limit is used up or a write has failed.
There is no outcome if none of this ever happens. -/
def run (s : Session) (console : Console) : Option Outcome :=
  match s.turn console with
  | .stop outcome => some outcome
  | .go s console => s |>.run console
partial_fixpoint

def reset (s : Session) : Session :=
  start s.config s.program

end Session

end FourReg
