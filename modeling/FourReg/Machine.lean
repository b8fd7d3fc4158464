import FourReg.Program

/-!
The machine: a program counter, four registers and a log of output.

A machine has halted once its program counter lies outside of the program, and that is the only
way in which a step can fail.
-/

namespace FourReg.Machine

structure State where
  pc : Int64 := 0
  registers : Registers := {}
  /-- The values put out so far, oldest first. -/
  out : Array Int64 := #[]
  deriving DecidableEq

/-- The sum, or the end of the range that it passes. -/
def saturatingAdd (x y : Int64) : Int64 :=
  .ofIntClamp (x.toInt + y.toInt)

namespace State

def isHalted (s : State) (p : Program) : Bool :=
  match index? s.pc with
  | none => true
  | some i => p.size ≤ i

theorem isHalted_iff {s : State} {p : Program} :
    s.isHalted p = true ↔ s.pc.toInt < 0 ∨ (p.size : Int) ≤ s.pc.toInt := by
  unfold isHalted
  split
  · rename_i h
    have := index?_eq_none_iff.1 h
    simp only [true_iff]; omega
  · rename_i i h
    have := index?_eq_some_iff.1 h
    simp only [decide_eq_true_eq]; omega

/-- The state after `i`. Registers wrap around at the ends of their range, and a jump stays within
the range of program counters. The offset of a jump counts only if the jump is taken. -/
def apply (s : State) (i : Instruction) : State :=
  match i with
  | .copy source target =>
    { s with
      pc := s.pc + 1
      registers := s.registers.set target (source.value s.registers) }
  | .increment target =>
    { s with
      pc := s.pc + 1
      registers := s.registers.set target (s.registers.get target + 1) }
  | .decrement target =>
    { s with
      pc := s.pc + 1
      registers := s.registers.set target (s.registers.get target - 1) }
  | .jumpIfNonZero condition offset =>
    if condition.value s.registers = 0 then { s with pc := s.pc + 1 }
    else { s with pc := saturatingAdd s.pc (offset.value s.registers) }
  | .output source =>
    { s with pc := s.pc + 1, out := s.out.push (source.value s.registers) }

theorem out_apply (s : State) (i : Instruction) :
    (s.apply i).out = s.out ++ (i.output? s.registers).toArray := by
  cases i with
  | jumpIfNonZero condition offset =>
    by_cases h : condition.value s.registers = 0 <;> simp [apply, Instruction.output?, h]
  | _ => simp [apply, Instruction.output?]

end State

/-- A program counter outside of a program of the given size. -/
structure OutOfRange where
  pc : Int64
  size : Nat
  deriving DecidableEq

/-- One step: the state after the instruction at the program counter. -/
def step (p : Program) (s : State) : Except OutOfRange State :=
  match p.fetch s.pc with
  | none => .error ⟨s.pc, p.size⟩
  | some i => .ok (s.apply i)

end FourReg.Machine
