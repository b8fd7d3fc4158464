import FourReg.Proofs.Steps

/-!
What a program's text says about its registers.

A register that no instruction reads has no influence on anything but itself, even if the program
writes it. A register that no instruction writes keeps its value.
-/

namespace FourReg

namespace Instruction

/-- The operands whose values the instruction uses. A register that is only counted up or down is
not among them. -/
def sources : Instruction → List Operand
  | copy source _ => [source]
  | increment _ => []
  | decrement _ => []
  | jumpIfNonZero condition offset => [condition, offset]
  | output source => [source]

def target? : Instruction → Option Register
  | copy _ target => some target
  | increment target => some target
  | decrement target => some target
  | jumpIfNonZero .. => none
  | output _ => none

end Instruction

namespace Program

def Reads (p : Program) (r : Register) : Prop := ∃ i ∈ p, .register r ∈ i.sources

def Writes (p : Program) (r : Register) : Prop := ∃ i ∈ p, i.target? = some r

instance (p : Program) (r : Register) : Decidable (p.Reads r) :=
  inferInstanceAs (Decidable (∃ i ∈ p, _))

instance (p : Program) (r : Register) : Decidable (p.Writes r) :=
  inferInstanceAs (Decidable (∃ i ∈ p, _))

lemma mem_of_fetch {p : Program} {pc : Int64} {i : Instruction} (h : p.fetch pc = some i) :
    i ∈ p := by
  obtain ⟨n, -, hn⟩ := fetch_eq_some_iff.1 h
  exact Array.mem_of_getElem? hn

end Program

namespace Machine

variable {p : Program} {s t : State} {i : Instruction} {r : Register} {n : Nat}

/-! ### Registers that are not written -/

lemma get_apply (s : State) (h : i.target? ≠ some r) :
    (s.apply i).registers.get r = s.registers.get r := by
  cases i with
  | copy _ target | increment target | decrement target =>
    exact Registers.get_set_of_ne _ (fun hr => h (congrArg some hr.symm)) _
  | jumpIfNonZero condition offset =>
    by_cases hc : condition.value s.registers = 0 <;> simp [State.apply, hc]
  | output => rfl

lemma get_stepN (hp : ¬p.Writes r) (h : stepN p n s = .ok t) :
    t.registers.get r = s.registers.get r := by
  induction n generalizing s with
  | zero => cases h; rfl
  | succ n ih =>
    obtain ⟨u, hstep, hrest⟩ := stepN_succ_eq_ok_iff.1 h
    obtain ⟨i, hi, rfl⟩ := step_eq_ok_iff.1 hstep
    rw [ih hrest, get_apply s fun ht => hp ⟨i, Program.mem_of_fetch hi, ht⟩]

/-! ### Registers that are not read -/

/-- The states differ at most in the value of `r`. -/
structure AgreeOff (r : Register) (s t : State) : Prop where
  pc : s.pc = t.pc
  out : s.out = t.out
  registers : ∀ r' ≠ r, s.registers.get r' = t.registers.get r'

lemma get_set_agree {v w : Registers} {x y : Int64} (h : ∀ r' ≠ r, v.get r' = w.get r')
    (target : Register) (hxy : target ≠ r → x = y) :
    ∀ r' ≠ r, (v.set target x).get r' = (w.set target y).get r' := by
  intro r' hr'
  by_cases ht : r' = target
  · subst ht
    rw [Registers.get_set_self, Registers.get_set_self, hxy hr']
  · rw [Registers.get_set_of_ne _ ht, Registers.get_set_of_ne _ ht, h r' hr']

namespace AgreeOff

lemma value_eq (h : AgreeOff r s t) {x : Operand} (hx : x ≠ .register r) :
    x.value s.registers = x.value t.registers := by
  cases x with
  | literal => rfl
  | register r' => exact h.registers r' fun hr => hx (congrArg _ hr)

/-- **One instruction** that does not read `r` leaves the states apart in `r` only. -/
lemma apply (h : AgreeOff r s t) (hi : .register r ∉ i.sources) :
    AgreeOff r (s.apply i) (t.apply i) := by
  have hnext : s.pc + 1 = t.pc + 1 := congrArg (· + 1) h.pc
  have hvalue {x : Operand} (hx : x ∈ i.sources) : x.value s.registers = x.value t.registers :=
    h.value_eq fun hr => hi (hr ▸ hx)
  cases i with
  | copy source target =>
    exact ⟨hnext, h.out, get_set_agree h.registers target fun _ => hvalue (.head _)⟩
  | increment target =>
    exact ⟨hnext, h.out, get_set_agree h.registers target fun ht =>
      congrArg (· + 1) (h.registers target ht)⟩
  | decrement target =>
    exact ⟨hnext, h.out, get_set_agree h.registers target fun ht =>
      congrArg (· - 1) (h.registers target ht)⟩
  | jumpIfNonZero condition offset =>
    have hcondition := hvalue (x := condition) (by simp [Instruction.sources])
    have hoffset := hvalue (x := offset) (by simp [Instruction.sources])
    simp only [State.apply, ← hcondition, ← hoffset, ← h.pc]
    split
    · exact ⟨rfl, h.out, h.registers⟩
    · exact ⟨rfl, h.out, h.registers⟩
  | output source =>
    have hout : s.out.push (source.value s.registers) = t.out.push (source.value t.registers) := by
      rw [h.out, hvalue (.head _)]
    exact ⟨hnext, hout, h.registers⟩

end AgreeOff

/-- The run from `s` fails with `e` after `n` steps. -/
def FailsAfter (p : Program) (s : State) (n : Nat) (e : OutOfRange) : Prop :=
  ∃ t, stepN p n s = .ok t ∧ step p t = .error e

/-- **A run** does not carry the value of a register that it does not read anywhere else. -/
lemma AgreeOff.stepN (hp : ¬p.Reads r) (h : AgreeOff r s t) (n : Nat) :
    (∃ s' t', Machine.stepN p n s = .ok s' ∧ Machine.stepN p n t = .ok t' ∧ AgreeOff r s' t') ∨
    ∃ k < n, ∃ e, FailsAfter p s k e ∧ FailsAfter p t k e ∧
      Machine.stepN p n s = .error e ∧ Machine.stepN p n t = .error e := by
  induction n generalizing s t with
  | zero => exact .inl ⟨s, t, rfl, rfl, h⟩
  | succ n ih =>
    have hfetch : p.fetch s.pc = p.fetch t.pc := congrArg _ h.pc
    cases hi : p.fetch s.pc with
    | none =>
      -- the counters are equal, so both machines fail here and name the same counter
      have hs : s.isHalted p = true := isHalted_iff_fetch.2 hi
      have ht : t.isHalted p = true := isHalted_iff_fetch.2 (hfetch ▸ hi)
      refine .inr ⟨0, Nat.succ_pos n, ⟨s.pc, p.size⟩, ⟨s, rfl, step_of_isHalted hs⟩, ⟨t, rfl, ?_⟩,
        stepN_succ_of_isHalted n hs, ?_⟩
      · rw [step_of_isHalted ht, h.pc]
      · rw [stepN_succ_of_isHalted n ht, h.pc]
    | some i =>
      have hs := step_of_fetch hi
      have ht := step_of_fetch (hfetch ▸ hi)
      have hreads : .register r ∉ i.sources := fun hr => hp ⟨i, Program.mem_of_fetch hi, hr⟩
      rw [stepN_succ_of_step n hs, stepN_succ_of_step n ht]
      refine (ih (h.apply hreads)).imp_right ?_
      rintro ⟨k, hk, e, ⟨u, hu, hue⟩, ⟨v, hv, hve⟩, hend⟩
      refine ⟨k + 1, Nat.succ_lt_succ hk, e, ⟨u, ?_, hue⟩, ⟨v, ?_, hve⟩, hend⟩
      · rw [stepN_succ_of_step k hs, hu]
      · rw [stepN_succ_of_step k ht, hv]

/-- **Registers flow as the text says**: one that is not read influences nothing else, and one that
is not written keeps its value. -/
theorem registers_flow_as_written (p : Program) (r : Register) :
    (¬p.Reads r → ∀ (s t : State) (n : Nat), AgreeOff r s t →
      (∃ s' t', stepN p n s = .ok s' ∧ stepN p n t = .ok t' ∧ AgreeOff r s' t') ∨
      ∃ k < n, ∃ e, FailsAfter p s k e ∧ FailsAfter p t k e ∧
        stepN p n s = .error e ∧ stepN p n t = .error e) ∧
    (¬p.Writes r → ∀ (s t : State) (n : Nat), stepN p n s = .ok t →
      t.registers.get r = s.registers.get r) :=
  ⟨fun hp _ _ n h => h.stepN hp n, fun hp _ _ _ h => get_stepN hp h⟩

/-- A register that is counted up but not read, with two values, and one that is read but not
written. Both runs fail behind the last instruction. -/
theorem registers_flow_as_written_counted :
    let p : Program := #[.increment .b, .output (.register .c)]
    let s : State := { registers := { b := 1, c := 9 } }
    let t : State := { registers := { b := 5, c := 9 } }
    (∃ s' t', stepN p 2 s = .ok s' ∧ stepN p 2 t = .ok t' ∧ AgreeOff .b s' t' ∧
      s'.registers.get .c = 9) ∧
    ∃ k < 3, ∃ e, FailsAfter p s k e ∧ FailsAfter p t k e := by
  intro p s t
  have hruns := (registers_flow_as_written p .b).1 (by decide) s t
  have hkeeps := (registers_flow_as_written p .c).2 (by decide) s
  have hst : AgreeOff .b s t := ⟨rfl, rfl, fun r => by cases r <;> simp [Registers.get, s, t]⟩
  constructor
  · rcases hruns 2 hst with ⟨s', t', hs, ht, h⟩ | ⟨k, -, e, -, -, hs, -⟩
    · exact ⟨s', t', hs, ht, h, hkeeps s' 2 hs⟩
    · cases hs
  · rcases hruns 3 hst with ⟨s', t', hs, -, -⟩ | ⟨k, hk, e, hs, ht, -, -⟩
    · cases hs
    · exact ⟨k, hk, e, hs, ht⟩

end Machine

end FourReg
