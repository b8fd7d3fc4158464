import FourReg.Session
import FourReg.Text.Dump

/-!
Why the command fails, and the line it ends with then.

The line shows the error by its structure, on one line. An error that is a text is shown in
quotation marks.
-/

namespace FourReg

def SystemError.dump (e : SystemError) : String :=
  let fields := [("kind", e.kind), ("message", Text.quote e.text)]
  match e.code with
  | some n => Dump.record "Os" (("code", Decimal.ofNat n) :: fields)
  | none => Dump.record "Error" fields

def Mnemonic.dump : Mnemonic → String
  | cpy => "Cpy"
  | inc => "Inc"
  | dec => "Dec"
  | jnz => "Jnz"
  | out => "Out"

namespace Assembly

def Fault.dump : Fault → String
  | emptyLine => "EmptyLine"
  | unknownMnemonic token => Dump.call "UnknownMnemonic" [Text.quote token]
  | invalidOperand token => Dump.call "InvalidOperand" [Text.quote token]
  | arityMismatch mnemonic expected actual =>
    Dump.record "ArityMismatch"
      [("mnemonic", mnemonic.dump), ("expected", Decimal.ofNat expected),
       ("actual", Decimal.ofNat actual)]
  | invalidDestination mnemonic value =>
    Dump.record "InvalidDestination"
      [("mnemonic", mnemonic.dump), ("operand", Decimal.ofInt64 value)]

def Error.dump (e : Error) : String :=
  let line :=
    match e.line with
    | none => "None"
    | some n => Dump.call "Some" [Decimal.ofNat n]
  Dump.record "CompileError" [("line", line), ("kind", e.fault.dump)]

end Assembly

def Source.Error.dump (e : Source.Error) : String :=
  let kind :=
    match e with
    | openFailed cause => Dump.call "FileOpenError" [cause.dump]
    | mapFailed cause => Dump.call "MemoryMapError" [cause.dump]
    | invalidUtf8 line => Dump.call "InvalidUtf8" [Decimal.ofNat line]
    | assembly error => Dump.call "CompileError" [error.dump]
  Dump.record "ParseError" [("kind", kind)]

def Session.Error.dump (e : Session.Error) : String :=
  let kind :=
    match e with
    | load cause => Dump.call "ParseError" [cause.dump]
    | outOfRange place =>
      Dump.record "IndexOutOfRange"
        [("pc", Decimal.ofInt64 place.pc), ("len", Decimal.ofNat place.size)]
    | stepLimit limit => Dump.record "StepLimitExceeded" [("limit", Decimal.ofUInt64 limit)]
    | write pc cause =>
      Dump.record "IOError" [("pc", Decimal.ofInt64 pc), ("source", cause.dump)]
  Dump.record "VmError" [("kind", kind)]

def Decimal.Fault.dump (f : Decimal.Fault) : String :=
  let kind :=
    match f with
    | empty => "Empty"
    | invalidDigit => "InvalidDigit"
    | tooLarge => "PosOverflow"
    | tooSmall => "NegOverflow"
  Dump.record "ParseIntError" [("kind", kind)]

namespace Cli

inductive Failure where
  | malformedAssignment (arg : String)
  | unknownRegister (name : String)
  | badNumber (cause : Decimal.Fault)
  | session (cause : Session.Error)
  deriving DecidableEq

def Failure.dump : Failure → String
  | malformedAssignment arg => Text.quote ("expected name=value, got " ++ Text.quote arg)
  | unknownRegister name =>
    Text.quote ("unknown register " ++ Text.quote name ++ ", expected one of a, b, c, d")
  | badNumber cause => cause.dump
  | session cause => cause.dump

def Failure.line (f : Failure) : String :=
  "Error: " ++ f.dump ++ "\n"

end Cli

end FourReg
