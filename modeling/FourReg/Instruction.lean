import FourReg.Register
import FourReg.Text.Decimal

/-!
Instructions, and the one text that stands for each.
-/

namespace FourReg

/-- The word an instruction begins with. -/
inductive Mnemonic where
  | cpy
  | inc
  | dec
  | jnz
  | out
  deriving DecidableEq

namespace Mnemonic

def all : List Mnemonic := [cpy, inc, dec, jnz, out]

def name : Mnemonic → String
  | cpy => "cpy"
  | inc => "inc"
  | dec => "dec"
  | jnz => "jnz"
  | out => "out"

def arity : Mnemonic → Nat
  | cpy => 2
  | inc => 1
  | dec => 1
  | jnz => 2
  | out => 1

/-- The mnemonic with exactly this name. -/
def ofName? (s : String) : Option Mnemonic :=
  all.find? fun m => m.name == s

theorem ofName?_eq_some_iff {s : String} {m : Mnemonic} : ofName? s = some m ↔ s = m.name := by
  constructor
  · intro h
    rw [ofName?] at h
    have hname := List.find?_some h
    exact (eq_of_beq hname).symm
  · rintro rfl
    cases m <;> decide

end Mnemonic

inductive Operand where
  | literal (value : Int64)
  | register (r : Register)
  deriving DecidableEq

namespace Operand

def text : Operand → String
  | literal value => Decimal.ofInt64 value
  | register r => r.name

/-- What the operand stands for while the registers hold `v`. -/
def value (v : Registers) : Operand → Int64
  | literal value => value
  | register r => v.get r

end Operand

inductive Instruction where
  | copy (source : Operand) (target : Register)
  | increment (target : Register)
  | decrement (target : Register)
  | jumpIfNonZero (condition offset : Operand)
  | output (source : Operand)
  deriving DecidableEq

namespace Instruction

def mnemonic : Instruction → Mnemonic
  | copy .. => .cpy
  | increment _ => .inc
  | decrement _ => .dec
  | jumpIfNonZero .. => .jnz
  | output _ => .out

def operands : Instruction → List Operand
  | copy source target => [source, .register target]
  | increment target => [.register target]
  | decrement target => [.register target]
  | jumpIfNonZero condition offset => [condition, offset]
  | output source => [source]

/-- The value that the instruction puts out while the registers hold `v`. -/
def output? (v : Registers) : Instruction → Option Int64
  | output source => some (source.value v)
  | _ => none

/-- The mnemonic and the operands, with single spaces between them. -/
def text (i : Instruction) : String :=
  " ".intercalate (i.mnemonic.name :: i.operands.map Operand.text)

end Instruction

end FourReg
