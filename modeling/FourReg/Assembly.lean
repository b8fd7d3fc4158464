import FourReg.Program
import FourReg.Text.Blank
import FourReg.Text.Quoted

/-!
Lines of assembly text.

A line is a mnemonic and its operands, with blanks between them. Of several faults in a line the
mnemonic's comes first, then the leftmost bad operand, then a wrong number of operands, then a
literal in the place of a register to write.
-/

namespace FourReg

namespace Assembly

/-- Why a line is no instruction. -/
inductive Fault where
  | emptyLine
  | unknownMnemonic (token : String)
  | invalidOperand (token : String)
  | arityMismatch (mnemonic : Mnemonic) (expected actual : Nat)
  | invalidDestination (mnemonic : Mnemonic) (value : Int64)
  deriving DecidableEq

/-- The message, with the characters of `hidden` escaped where it shows a token. -/
def Fault.messageWith (hidden : Char → Bool) : Fault → String
  | emptyLine => "line holds no instruction"
  | unknownMnemonic token =>
    "unknown mnemonic " ++ Text.quoteWith hidden token
      ++ ", expected one of cpy, inc, dec, jnz, out"
  | invalidOperand token =>
    "invalid operand " ++ Text.quoteWith hidden token
      ++ ", expected an integer or one of the registers a, b, c, d"
  | arityMismatch mnemonic expected actual =>
    mnemonic.name ++ " takes " ++ Decimal.ofNat expected ++ " operand(s), but got "
      ++ Decimal.ofNat actual
  | invalidDestination mnemonic value =>
    mnemonic.name ++ " writes to its operand " ++ Decimal.ofInt64 value
      ++ ", which must be a register"

/-- A fault and the number of its line, counted from one, where that is known. -/
structure Error where
  line : Option Nat
  fault : Fault
  deriving DecidableEq

def Error.messageWith (hidden : Char → Bool) (e : Error) : String :=
  match e.line with
  | some n => "line " ++ Decimal.ofNat n ++ ": " ++ e.fault.messageWith hidden
  | none => e.fault.messageWith hidden

def Error.message : Error → String :=
  messageWith Text.isHidden

def operand (token : String) : Except Fault Operand :=
  match Decimal.readInt64 token with
  | .ok value => .ok (.literal value)
  | .error _ =>
    match Register.ofName? token with
    | some r => .ok (.register r)
    | none => .error (.invalidOperand token)

def destination (mnemonic : Mnemonic) : Operand → Except Fault Register
  | .register r => .ok r
  | .literal value => .error (.invalidDestination mnemonic value)

def instruction : Mnemonic → List Operand → Except Fault Instruction
  | .cpy, [source, target] => (destination .cpy target).map (.copy source)
  | .inc, [target] => (destination .inc target).map .increment
  | .dec, [target] => (destination .dec target).map .decrement
  | .jnz, [condition, offset] => .ok (.jumpIfNonZero condition offset)
  | .out, [source] => .ok (.output source)
  | mnemonic, operands => .error (.arityMismatch mnemonic mnemonic.arity operands.length)

end Assembly

def assemble (line : String) : Except Assembly.Fault Instruction :=
  match Text.words line with
  | [] => .error .emptyLine
  | token :: tokens =>
    match Mnemonic.ofName? token with
    | none => .error (.unknownMnemonic token)
    | some mnemonic => (tokens.mapM Assembly.operand).bind (Assembly.instruction mnemonic)

def assembleLine (line : String) : Except Assembly.Error Instruction :=
  (assemble line).mapError fun fault => ⟨none, fault⟩

def assembleAt (n : Nat) (line : String) : Except Assembly.Error Instruction :=
  (assemble line).mapError fun fault => ⟨some n, fault⟩

/-- One instruction per line; the first line at fault refuses the program. -/
def assembleLines (lines : List String) : Except Assembly.Error Program :=
  ((lines.zipIdx 1).mapM fun (line, n) => assembleAt n line).map List.toArray

end FourReg
