import FourReg.Machine
import FourReg.Text.Dump

/-!
The trace: before an instruction, the program counter, the registers and the instruction itself.
-/

namespace FourReg.Trace

/-- Marks a line that begins a dump. -/
def mark : String := "[dbg] "

def dump (label : String) (lines : List String) : String :=
  mark ++ label ++ " = " ++ "\n".intercalate lines ++ "\n"

def register : Register → String
  | .a => "A"
  | .b => "B"
  | .c => "C"
  | .d => "D"

def operand : Operand → List String
  | .literal value => Dump.block "Literal(" [[Decimal.ofInt64 value]] ")"
  | .register r => Dump.block "Register(" [[register r]] ")"

def instruction : Instruction → List String
  | .copy source target =>
    Dump.block "CopyToRegister(" [operand source, [register target]] ")"
  | .increment target => Dump.block "Increment(" [[register target]] ")"
  | .decrement target => Dump.block "Decrement(" [[register target]] ")"
  | .jumpIfNonZero condition offset =>
    Dump.block "JumpIfNonZero(" [operand condition, operand offset] ")"
  | .output source => Dump.block "Output(" [operand source] ")"

def fetched : Option Instruction → List String
  | none => ["None"]
  | some i => Dump.block "Some(" [instruction i] ")"

def registers (v : Registers) : List String :=
  Dump.block "Registers("
    [Dump.block "[" (v.toList.map fun x => [Decimal.ofInt64 x]) "]"] ")"

/-- The three dumps that show a state about to execute. -/
def text (p : Program) (s : Machine.State) : String :=
  dump "&self.state.pc" [Decimal.ofInt64 s.pc]
    ++ dump "&self.state.registers" (registers s.registers)
    ++ dump "self.program.fetch(self.state.pc)" (fetched (p.fetch s.pc))

end FourReg.Trace
