import FourReg.Proofs.Diagnostics
import Mathlib.Data.List.TFAE

/-!
Halting: the ways to test for it agree, nothing else stops a machine, and it lasts.

A machine looks registers up by the indices of their slots, and such an access could fail just as
the access to an instruction can. It never does, as each register has its slot. So a step fails only
where there is no instruction, and a session that has come there stays there until it is reset.
-/

namespace FourReg

namespace Registers

def slot? (v : Registers) (n : Nat) : Option Int64 := v.toList[n]?

def setSlot? (v : Registers) (n : Nat) (x : Int64) : Option Registers :=
  match n with
  | 0 => some { v with a := x }
  | 1 => some { v with b := x }
  | 2 => some { v with c := x }
  | 3 => some { v with d := x }
  | _ => none

lemma slot?_index (v : Registers) (r : Register) : v.slot? r.index = some (v.get r) := by
  cases r <;> rfl

lemma setSlot?_index (v : Registers) (r : Register) (x : Int64) :
    v.setSlot? r.index x = some (v.set r x) := by
  cases r <;> rfl

end Registers

namespace Machine

variable {p : Program} {s t : State}

/-! ### Steps with every access checked -/

/-- What can keep an instruction from being executed. -/
inductive Obstacle where
  | outOfRange (place : OutOfRange)
  | unknownRegister (r : Register)
  deriving DecidableEq

def accessed {α : Type} (r : Register) : Option α → Except Obstacle α
  | some x => .ok x
  | none => .error (.unknownRegister r)

def readSlot (v : Registers) (r : Register) : Except Obstacle Int64 :=
  accessed r (v.slot? r.index)

def writeSlot (v : Registers) (r : Register) (x : Int64) : Except Obstacle Registers :=
  accessed r (v.setSlot? r.index x)

def resolve (v : Registers) : Operand → Except Obstacle Int64
  | .literal value => .ok value
  | .register r => readSlot v r

/-- One step in which the access to the instruction and those to registers may fail. -/
def execute (p : Program) (s : State) : Except Obstacle State :=
  match (index? s.pc).bind fun n => p[n]? with
  | none => .error (.outOfRange ⟨s.pc, p.size⟩)
  | some (.copy source target) => do
    let value ← resolve s.registers source
    let registers ← writeSlot s.registers target value
    return { s with pc := s.pc + 1, registers := registers }
  | some (.increment target) => do
    let value ← readSlot s.registers target
    let registers ← writeSlot s.registers target (value + 1)
    return { s with pc := s.pc + 1, registers := registers }
  | some (.decrement target) => do
    let value ← readSlot s.registers target
    let registers ← writeSlot s.registers target (value - 1)
    return { s with pc := s.pc + 1, registers := registers }
  | some (.jumpIfNonZero condition offset) => do
    let value ← resolve s.registers condition
    if value = 0 then return { s with pc := s.pc + 1 }
    else
      let distance ← resolve s.registers offset
      return { s with pc := saturatingAdd s.pc distance }
  | some (.output source) => do
    let value ← resolve s.registers source
    return { s with pc := s.pc + 1, out := s.out.push value }

lemma readSlot_eq_ok (v : Registers) (r : Register) : readSlot v r = .ok (v.get r) := by
  rw [readSlot, Registers.slot?_index, accessed]

lemma writeSlot_eq_ok (v : Registers) (r : Register) (x : Int64) :
    writeSlot v r x = .ok (v.set r x) := by
  rw [writeSlot, Registers.setSlot?_index, accessed]

lemma resolve_eq_ok (v : Registers) (operand : Operand) :
    resolve v operand = .ok (operand.value v) := by
  cases operand with
  | literal value => rfl
  | register r => exact readSlot_eq_ok v r

/-- **Only the instruction can be missing**: with its accesses checked, a step is the same step. -/
theorem execute_eq (p : Program) (s : State) :
    execute p s = (step p s).mapError .outOfRange := by
  have hfetch : ((index? s.pc).bind fun n => p[n]?) = p.fetch s.pc := rfl
  unfold execute step
  rw [hfetch]
  cases p.fetch s.pc with
  | none => rfl
  | some i =>
    -- whatever the instruction is, each of its accesses finds a slot
    cases i with
    | copy source target => simp only [resolve_eq_ok, writeSlot_eq_ok]; rfl
    | increment target => simp only [readSlot_eq_ok, writeSlot_eq_ok]; rfl
    | decrement target => simp only [readSlot_eq_ok, writeSlot_eq_ok]; rfl
    | jumpIfNonZero condition offset =>
      by_cases h : condition.value s.registers = 0
      · simp only [resolve_eq_ok, State.apply, h]; rfl
      · simp only [resolve_eq_ok, State.apply, bind, Except.bind, if_neg h]; rfl
    | output source => simp only [resolve_eq_ok]; rfl

lemma execute_eq_error_iff {e : Obstacle} :
    execute p s = .error e ↔ p.fetch s.pc = none ∧ e = .outOfRange ⟨s.pc, p.size⟩ := by
  rw [execute_eq, step]
  cases p.fetch s.pc with
  | none => simp [Except.mapError, eq_comm]
  | some i => simp [Except.mapError]

lemma step_eq_error_iff {e : OutOfRange} :
    step p s = .error e ↔ p.fetch s.pc = none ∧ e = ⟨s.pc, p.size⟩ := by
  rw [step]
  cases p.fetch s.pc with
  | none => simp [eq_comm]
  | some i => simp

end Machine

namespace Session

open Machine

variable {s : Session} {c : Console} {o : Outcome} {op : Operation}

/-! ### Tests for halting -/

lemma exists_outOfRange_iff (s : Session) (c : Console) :
    (∃ place, (s.exec c).result = .error (.outOfRange place)) ↔
      s.program.fetch s.state.pc = none := by
  constructor
  · rintro ⟨place, h⟩
    rcases error_of_exec h with ⟨hf, -⟩ | ⟨-, cause, he⟩
    · exact hf
    · cases he
  · intro hf
    rw [exec_of_halted hf]
    exact ⟨_, rfl⟩

/-- The tests for halting: by the numbers, by asking the machine, the program or the session, and by
trying a step or an `exec`. -/
def haltTests (s : Session) (c : Console) : List Prop :=
  [s.state.pc.toInt < 0 ∨ (s.program.size : Int) ≤ s.state.pc.toInt,
    s.state.isHalted s.program = true,
    s.program.contains s.state.pc = false,
    s.program.fetch s.state.pc = none,
    s.next? = none,
    ∃ e, step s.program s.state = .error e,
    ∃ e, execute s.program s.state = .error e,
    ∃ place, (s.exec c).result = .error (.outOfRange place)]

lemma tfae_haltTests (s : Session) (c : Console) : (haltTests s c).TFAE := by
  refine List.tfae_of_forall (s.program.fetch s.state.pc = none) _ fun test htest => ?_
  simp only [haltTests, List.mem_cons, List.not_mem_nil, or_false] at htest
  rcases htest with rfl | rfl | rfl | rfl | rfl | rfl | rfl | rfl
  · exact State.isHalted_iff.symm.trans isHalted_iff_fetch
  · exact isHalted_iff_fetch
  · exact Program.contains_eq_false_iff
  · exact Iff.rfl
  · exact next?_eq_none_iff
  · simp only [step_eq_error_iff, exists_and_left, exists_eq, and_true]
  · simp only [execute_eq_error_iff, exists_and_left, exists_eq, and_true]
  · exact exists_outOfRange_iff s c

/-! ### Halted sessions -/

/-- The operation leaves the session as it is: `exec` finds no instruction, and a run is over at
once. -/
structure Idles (s : Session) (op : Operation) (o : Outcome) : Prop where
  session : o.session = s
  exec : op = .exec → o.result = .error (.outOfRange ⟨s.state.pc, s.program.size⟩)
  run : op = .run → o.result = .ok ()

lemma exists_idles_of_perform (h : s.next? = none) (hop : op ≠ .reset) (c : Console) :
    ∃ o, op.perform s c = some o ∧ Idles s op o := by
  cases op with
  | exec =>
    refine ⟨s.exec c, rfl, ?_⟩
    rw [exec_of_halted (next?_eq_none_iff.1 h)]
    exact ⟨rfl, fun _ => rfl, nofun⟩
  | run => exact ⟨⟨.ok (), s, c⟩, (Ran.halted h).run_eq, rfl, nofun, fun _ => rfl⟩
  | reset => exact absurd rfl hop

/-- **Halting lasts**, whatever is asked of the session but a reset. -/
lemma idles_outcomes (h : s.next? = none) {ops : List Operation} (hops : ∀ op ∈ ops, op ≠ .reset)
    (c : Console) :
    List.Forall₂ (fun op o => ∃ o', o = some o' ∧ Idles s op o') ops (s.outcomes c ops) := by
  induction ops generalizing c with
  | nil => exact .nil
  | cons op ops ih =>
    obtain ⟨o, hp, hidle⟩ := exists_idles_of_perform h (hops op List.mem_cons_self) c.emptied
    have hrest := ih (fun op' hmem => hops op' (List.mem_cons_of_mem op hmem)) o.console
    rw [outcomes, hp]
    exact .cons ⟨o, rfl, hidle⟩ (hidle.session.symm ▸ hrest)

/-- **All tests for halting agree, nothing else keeps an instruction from being executed, and
halting lasts.** -/
theorem halt_tests_agree (s : Session) (c : Console) :
    (haltTests s c).TFAE ∧
    (execute s.program s.state = (step s.program s.state).mapError .outOfRange ∧
      (∀ e, execute s.program s.state = .error e →
        e = .outOfRange ⟨s.state.pc, s.program.size⟩) ∧
      ∀ e, (s.exec c).result = .error e →
        e = .outOfRange ⟨s.state.pc, s.program.size⟩ ∨ ∃ cause, e = .write s.state.pc cause) ∧
    (∀ t, step s.program s.state = .ok t → ∃ (n : Nat) (i : Instruction),
      (s.next? = some n ∧ s.state.pc.toInt = n) ∧
      (s.program.fetch s.state.pc = some i ∧ s.program[n]? = some i) ∧
      executed s.program 1 s.state = [i] ∧ t = s.state.apply i ∧
      (s.exec c).session = s.after i) ∧
    (s.next? = none → ∀ ops, (∀ op ∈ ops, op ≠ .reset) →
      List.Forall₂ (fun op o => ∃ o', o = some o' ∧ Idles s op o') ops (s.outcomes c ops)) := by
  refine ⟨tfae_haltTests s c, ⟨execute_eq _ _, ?_, ?_⟩, ?_, ?_⟩
  · exact fun e he => (execute_eq_error_iff.1 he).2
  · intro e he
    exact (error_of_exec he).imp And.right And.right
  · intro t ht
    obtain ⟨i, hi, rfl⟩ := step_eq_ok_iff.1 ht
    obtain ⟨n, hnext, hn, hin⟩ := exists_next?_of_fetch hi
    exact ⟨n, i, ⟨hnext, hn⟩, ⟨hi, hin⟩, executed_succ_of_fetch 0 hi, rfl, session_exec hi c⟩
  · exact fun h ops hops => idles_outcomes h hops c

/-- Below the first instruction, with the limit used up and no space left to write to. -/
theorem halt_tests_agree_below :
    let s : Session := ⟨{ maxSteps := some 0 }, #[.output (.literal 7)], { pc := .minValue }, 9⟩
    let ops : List Operation := [.run, .exec, .run]
    s.state.isHalted s.program = true ∧
    (∃ place, (s.exec .full).result = .error (.outOfRange place)) ∧
    List.Forall₂ (fun op o => ∃ o', o = some o' ∧ Idles s op o') ops (s.outcomes .full ops) := by
  intro s ops
  obtain ⟨htests, -, -, hlasts⟩ := halt_tests_agree s .full
  have hhalted : s.state.isHalted s.program = true := by decide
  have hfetch := (htests.out 1 4).1 hhalted
  exact ⟨hhalted, (htests.out 1 7).1 hhalted, hlasts hfetch ops (by simp [ops])⟩

end Session

end FourReg
