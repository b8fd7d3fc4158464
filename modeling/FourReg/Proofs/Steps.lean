import FourReg.Machine
import Mathlib.Order.Bounds.Basic

/-!
Steps in a row, the instructions they execute, and the steps at which a machine halts.

A step fails only at a halted state, so a machine that takes `n` steps has not halted before the
last of them. Hence there is at most one number of steps at which it halts.
-/

namespace FourReg.Machine

variable {p : Program} {s t u : State}

lemma isHalted_iff_fetch : s.isHalted p = true ↔ p.fetch s.pc = none := by
  rw [State.isHalted_iff, ← Program.contains_eq_false_iff, ← Bool.not_eq_true, Program.contains_iff]
  omega

lemma step_of_fetch {i : Instruction} (h : p.fetch s.pc = some i) : step p s = .ok (s.apply i) := by
  rw [step, h]

lemma step_of_isHalted (h : s.isHalted p = true) : step p s = .error ⟨s.pc, p.size⟩ := by
  rw [step, isHalted_iff_fetch.1 h]

/-- A step is the instruction at the program counter. -/
lemma step_eq_ok_iff : step p s = .ok t ↔ ∃ i, p.fetch s.pc = some i ∧ s.apply i = t := by
  unfold step
  cases p.fetch s.pc <;> simp

def stepN (p : Program) : Nat → State → Except OutOfRange State
  | 0, s => .ok s
  | n + 1, s => (step p s).bind (stepN p n)

@[simp] lemma stepN_zero (p : Program) (s : State) : stepN p 0 s = .ok s := rfl

lemma stepN_succ_of_step (n : Nat) (h : step p s = .ok t) : stepN p (n + 1) s = stepN p n t := by
  rw [stepN, h]
  rfl

lemma stepN_succ_of_isHalted (n : Nat) (h : s.isHalted p = true) :
    stepN p (n + 1) s = .error ⟨s.pc, p.size⟩ := by
  rw [stepN, step_of_isHalted h]
  rfl

lemma stepN_succ_eq_ok_iff {n : Nat} :
    stepN p (n + 1) s = .ok u ↔ ∃ t, step p s = .ok t ∧ stepN p n t = .ok u := by
  rw [stepN]
  cases step p s <;> simp [Except.bind]

lemma stepN_add (p : Program) (m n : Nat) (s : State) :
    stepN p (m + n) s = (stepN p m s).bind (stepN p n) := by
  induction m generalizing s with
  | zero => rw [Nat.zero_add]; rfl
  | succ m ih =>
    rw [Nat.succ_add, stepN, stepN]
    cases step p s with
    | error e => rfl
    | ok t => exact ih t

lemma stepN_add_of_eq_ok {m : Nat} (n : Nat) (h : stepN p m s = .ok t) :
    stepN p (m + n) s = stepN p n t := by
  rw [stepN_add, h]
  rfl

/-- A run of steps has a beginning of any smaller length. -/
lemma exists_stepN_of_le {m n : Nat} (hmn : m ≤ n) (h : stepN p n s = .ok u) :
    ∃ t, stepN p m s = .ok t ∧ stepN p (n - m) t = .ok u := by
  obtain ⟨k, rfl⟩ := Nat.exists_eq_add_of_le hmn
  rw [stepN_add] at h
  cases hm : stepN p m s with
  | error e => rw [hm] at h; cases h
  | ok t =>
    rw [hm] at h
    rw [Nat.add_sub_cancel_left]
    exact ⟨t, rfl, h⟩

/-! ### Instructions in a row -/

/-- The instructions that the next `n` steps execute. -/
def executed (p : Program) : Nat → State → List Instruction
  | 0, _ => []
  | n + 1, s =>
    match p.fetch s.pc with
    | none => []
    | some i => i :: executed p n (s.apply i)

lemma executed_succ_of_fetch {i : Instruction} (n : Nat) (h : p.fetch s.pc = some i) :
    executed p (n + 1) s = i :: executed p n (s.apply i) := by
  rw [executed, h]

lemma executed_add {m : Nat} (n : Nat) (h : stepN p m s = .ok t) :
    executed p (m + n) s = executed p m s ++ executed p n t := by
  induction m generalizing s with
  | zero =>
    cases h
    rw [Nat.zero_add]
    rfl
  | succ m ih =>
    obtain ⟨u, hstep, hrest⟩ := stepN_succ_eq_ok_iff.1 h
    obtain ⟨i, hi, rfl⟩ := step_eq_ok_iff.1 hstep
    rw [Nat.succ_add, executed_succ_of_fetch _ hi, executed_succ_of_fetch _ hi, ih hrest,
      List.cons_append]

lemma length_executed {n : Nat} (h : stepN p n s = .ok t) : (executed p n s).length = n := by
  induction n generalizing s with
  | zero => rfl
  | succ n ih =>
    obtain ⟨u, hstep, hrest⟩ := stepN_succ_eq_ok_iff.1 h
    obtain ⟨i, hi, rfl⟩ := step_eq_ok_iff.1 hstep
    rw [executed_succ_of_fetch n hi, List.length_cons, ih hrest]

lemma exists_last_of_stepN {n : Nat} (h : stepN p (n + 1) s = .ok t) :
    ∃ u i, stepN p n s = .ok u ∧ p.fetch u.pc = some i ∧ u.apply i = t := by
  obtain ⟨u, hu, hlast⟩ := exists_stepN_of_le (Nat.le_succ n) h
  rw [Nat.succ_sub Nat.le.refl, Nat.sub_self] at hlast
  obtain ⟨t', hstep, hend⟩ := stepN_succ_eq_ok_iff.1 hlast
  cases hend
  obtain ⟨i, hi, hi'⟩ := step_eq_ok_iff.1 hstep
  exact ⟨u, i, hu, hi, hi'⟩

/-- **Where an instruction leads**: to the next one, or where a jump goes that is taken. -/
lemma pc_apply (s : State) (i : Instruction) :
    (s.apply i).pc = s.pc + 1 ∨
    ∃ condition offset, i = .jumpIfNonZero condition offset ∧ condition.value s.registers ≠ 0 ∧
      (s.apply i).pc = saturatingAdd s.pc (offset.value s.registers) := by
  cases i with
  | jumpIfNonZero condition offset =>
    by_cases h : condition.value s.registers = 0
    · exact .inl (by simp [State.apply, h])
    · exact .inr ⟨condition, offset, rfl, h, by simp [State.apply, h]⟩
  | _ => exact .inl rfl

/-! ### Halting -/

def haltTimes (p : Program) (s : State) : Set Nat :=
  {n | ∃ t, stepN p n s = .ok t ∧ t.isHalted p = true}

/-- Nothing follows a halted state. -/
lemma le_of_stepN_of_mem_haltTimes {m n : Nat} (hn : n ∈ haltTimes p s)
    (hm : stepN p m s = .ok u) : m ≤ n := by
  obtain ⟨t, ht, hhalt⟩ := hn
  by_contra hlt
  obtain ⟨t', ht', hrest⟩ := exists_stepN_of_le (show n ≤ m by omega) hm
  obtain rfl : t = t' := Except.ok.inj (ht.symm.trans ht')
  obtain ⟨k, hk⟩ : ∃ k, m - n = k + 1 := ⟨m - n - 1, by omega⟩
  rw [hk, stepN_succ_of_isHalted k hhalt] at hrest
  cases hrest

lemma isLeast_haltTimes {n : Nat} (h : n ∈ haltTimes p s) : IsLeast (haltTimes p s) n := by
  refine ⟨h, fun m hm => ?_⟩
  obtain ⟨t, ht, -⟩ := h
  exact le_of_stepN_of_mem_haltTimes hm ht

end FourReg.Machine
