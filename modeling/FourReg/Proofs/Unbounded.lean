import FourReg.Proofs.Steps

/-!
The machine with an unbounded program counter.

Its jumps are exact, so its counter may be any integer. The machine whose counter is a word follows
it step by step: where a jump leaves the range of words, both have left the program.
-/

namespace FourReg.Unbounded

open Machine

structure State where
  pc : Int
  registers : Registers
  out : Array Int64

def fetch (p : Program) (pc : Int) : Option Instruction :=
  if 0 ≤ pc then p[pc.toNat]? else none

namespace State

def Halted (s : State) (p : Program) : Prop := s.pc < 0 ∨ (p.size : Int) ≤ s.pc

/-- The state after `i`. A jump goes exactly as far as its offset says; one that is not taken goes
on to the next instruction, whatever its offset. -/
def apply (s : State) : Instruction → State
  | .copy source target =>
    ⟨s.pc + 1, s.registers.set target (source.value s.registers), s.out⟩
  | .increment target =>
    ⟨s.pc + 1, s.registers.set target (s.registers.get target + 1), s.out⟩
  | .decrement target =>
    ⟨s.pc + 1, s.registers.set target (s.registers.get target - 1), s.out⟩
  | .jumpIfNonZero condition offset =>
    if condition.value s.registers = 0 then ⟨s.pc + 1, s.registers, s.out⟩
    else ⟨s.pc + (offset.value s.registers).toInt, s.registers, s.out⟩
  | .output source => ⟨s.pc + 1, s.registers, s.out.push (source.value s.registers)⟩

end State

def step (p : Program) (s : State) : Option State := (fetch p s.pc).map s.apply

def stepN (p : Program) : Nat → State → Option State
  | 0, s => some s
  | n + 1, s => (step p s).bind (stepN p n)

def haltTimes (p : Program) (s : State) : Set Nat :=
  {n | ∃ t, stepN p n s = some t ∧ t.Halted p}

def ofWords (s : Machine.State) : State := ⟨s.pc.toInt, s.registers, s.out⟩

/-! ### Counters -/

/-- The end of the range of words that a counter passes, or the counter itself. -/
def clamp (pc : Int) : Int := max Int64.minValue.toInt (min pc Int64.maxValue.toInt)

lemma toInt_ofIntClamp (pc : Int) : (Int64.ofIntClamp pc).toInt = clamp pc := by
  have hmin := Int64.toInt_minValue
  have hmax := Int64.toInt_maxValue
  unfold Int64.ofIntClamp clamp
  split
  · split
    · rw [Int64.toInt_ofIntLE]; omega
    · omega
  · omega

lemma toInt_saturatingAdd (x y : Int64) :
    (saturatingAdd x y).toInt = clamp (x.toInt + y.toInt) :=
  toInt_ofIntClamp _

/-- The size of the program is a word. -/
def Fits (p : Program) : Prop := (p.size : Int) ≤ Int64.maxValue.toInt

variable {p : Program} {i : Instruction}

lemma bounds_of_fetch {pc : Int64} (h : p.fetch pc = some i) :
    0 ≤ pc.toInt ∧ pc.toInt < p.size := by
  rw [← Program.contains_iff, Program.contains, h]
  rfl

lemma toInt_add_one (hp : Fits p) {pc : Int64} (h : p.fetch pc = some i) :
    (pc + 1).toInt = pc.toInt + 1 := by
  obtain ⟨h₁, h₂⟩ := bounds_of_fetch h
  have hmax := Int64.toInt_maxValue
  unfold Fits at hp
  rw [Int64.toInt_add, Int64.toInt_one]
  exact Int.bmod_eq_of_le (by omega) (by omega)

lemma minValue_le_add {pc : Int64} (h : p.fetch pc = some i) (offset : Int64) :
    Int64.minValue.toInt ≤ pc.toInt + offset.toInt := by
  have hpc := (bounds_of_fetch h).1
  have hoffset := offset.le_toInt
  have hmin := Int64.toInt_minValue
  omega

lemma clamp_eq_self_iff {pc : Int} :
    clamp pc = pc ↔ Int64.minValue.toInt ≤ pc ∧ pc ≤ Int64.maxValue.toInt := by
  have hmin := Int64.toInt_minValue
  have hmax := Int64.toInt_maxValue
  unfold clamp
  omega

/-- A jump that is not exact ends at the last word, which lies behind the program. -/
lemma saturatingAdd_of_ne (hp : Fits p) {pc offset : Int64} (h : p.fetch pc = some i)
    (hne : (saturatingAdd pc offset).toInt ≠ pc.toInt + offset.toInt) :
    saturatingAdd pc offset = Int64.maxValue ∧ p.contains (saturatingAdd pc offset) = false := by
  have hlow := minValue_le_add h offset
  have hmin := Int64.toInt_minValue
  have hmax := Int64.toInt_maxValue
  rw [toInt_saturatingAdd, ne_eq, clamp_eq_self_iff] at hne
  have hlast : saturatingAdd pc offset = Int64.maxValue := by
    rw [← Int64.toInt_inj, toInt_saturatingAdd, clamp]
    omega
  refine ⟨hlast, ?_⟩
  rw [hlast, Bool.eq_false_iff, ne_eq, Program.contains_iff]
  unfold Fits at hp
  omega

lemma inside_clamp_iff (hp : Fits p) (pc : Int) :
    (0 ≤ clamp pc ∧ clamp pc < p.size) ↔ 0 ≤ pc ∧ pc < p.size := by
  have hmin := Int64.toInt_minValue
  have hmax := Int64.toInt_maxValue
  unfold Fits at hp
  unfold clamp
  omega

/-! ### Lockstep -/

/-- The state `s` on words stands for `t`: its counter is that of `t`, clamped. -/
structure Mirrors (s : Machine.State) (t : State) : Prop where
  pc : s.pc.toInt = clamp t.pc
  registers : s.registers = t.registers
  out : s.out = t.out

variable {s : Machine.State} {t : State}

lemma mirrors_ofWords (s : Machine.State) : Mirrors s (ofWords s) := by
  refine ⟨Eq.symm (clamp_eq_self_iff.2 ⟨?_, s.pc.toInt_le⟩), rfl, rfl⟩
  have hmin := Int64.toInt_minValue
  have hpc := s.pc.le_toInt
  simp only [ofWords]
  omega

namespace Mirrors

lemma halted_iff (hp : Fits p) (h : Mirrors s t) : s.isHalted p = true ↔ t.Halted p := by
  have hinside := inside_clamp_iff hp t.pc
  rw [State.isHalted_iff, h.pc, State.Halted]
  omega

lemma pc_eq (hp : Fits p) (h : Mirrors s t) (hrun : ¬t.Halted p) : s.pc.toInt = t.pc := by
  have hmin := Int64.toInt_minValue
  unfold State.Halted at hrun
  unfold Fits at hp
  rw [h.pc, clamp_eq_self_iff]
  omega

lemma fetch_eq (hp : Fits p) (h : Mirrors s t) : p.fetch s.pc = fetch p t.pc := by
  by_cases hhalt : t.Halted p
  · have hwords := isHalted_iff_fetch.1 ((h.halted_iff hp).2 hhalt)
    rw [hwords, fetch]
    split
    · exact (Array.getElem?_eq_none (by unfold State.Halted at hhalt; omega)).symm
    · rfl
  · have hpc := h.pc_eq hp hhalt
    unfold State.Halted at hhalt
    have hindex : index? s.pc = some t.pc.toNat := index?_eq_some_iff.2 (by omega)
    rw [Program.fetch, hindex, fetch, if_pos (by omega)]
    rfl

lemma pc_eq_of_fetch (hp : Fits p) (h : Mirrors s t) (hi : p.fetch s.pc = some i) :
    s.pc.toInt = t.pc := by
  refine h.pc_eq hp fun hhalt => ?_
  rw [isHalted_iff_fetch.1 ((h.halted_iff hp).2 hhalt)] at hi
  cases hi

/-- **One step**: the instruction leaves the two machines in step. -/
lemma apply (hp : Fits p) (h : Mirrors s t) (hi : p.fetch s.pc = some i) :
    Mirrors (s.apply i) (t.apply i) := by
  have hpc := h.pc_eq_of_fetch hp hi
  have hnext : (s.pc + 1).toInt = clamp (t.pc + 1) := by
    rw [← hpc, ← toInt_add_one hp hi, eq_comm, clamp_eq_self_iff]
    exact ⟨(s.pc + 1).minValue_le_toInt, (s.pc + 1).toInt_le⟩
  obtain ⟨-, hregisters, hout⟩ := h
  cases i with
  | jumpIfNonZero condition offset =>
    simp only [Machine.State.apply, State.apply, ← hregisters]
    split
    · exact ⟨hnext, rfl, hout⟩
    · exact ⟨by rw [toInt_saturatingAdd, hpc], rfl, hout⟩
  | copy | increment | decrement =>
    exact ⟨hnext, by simp [Machine.State.apply, State.apply, hregisters], hout⟩
  | output source =>
    exact ⟨hnext, hregisters, by simp [Machine.State.apply, State.apply, hregisters, hout]⟩

/-- **Lockstep**: both machines take `n` steps and stay in step, or neither does. -/
lemma stepN (hp : Fits p) (h : Mirrors s t) (n : Nat) :
    (∃ s' t', Machine.stepN p n s = .ok s' ∧ Unbounded.stepN p n t = some t' ∧ Mirrors s' t') ∨
    ((∃ e, Machine.stepN p n s = .error e) ∧ Unbounded.stepN p n t = none) := by
  induction n generalizing s t with
  | zero => exact .inl ⟨s, t, rfl, rfl, h⟩
  | succ n ih =>
    cases hi : p.fetch s.pc with
    | none =>
      refine .inr ⟨⟨_, stepN_succ_of_isHalted n (isHalted_iff_fetch.2 hi)⟩, ?_⟩
      rw [Unbounded.stepN, step, ← h.fetch_eq hp, hi]
      rfl
    | some i =>
      have hstep : Unbounded.stepN p (n + 1) t = Unbounded.stepN p n (t.apply i) := by
        rw [Unbounded.stepN, step, ← h.fetch_eq hp, hi]
        rfl
      rw [stepN_succ_of_step n (step_of_fetch hi), hstep]
      exact ih (h.apply hp hi)

end Mirrors

lemma haltTimes_ofWords (hp : Fits p) (s : Machine.State) :
    Machine.haltTimes p s = haltTimes p (ofWords s) := by
  ext n
  rcases (mirrors_ofWords s).stepN hp n with ⟨s', t', hs, ht, h⟩ | ⟨⟨e, hs⟩, ht⟩
  · simp [Machine.haltTimes, haltTimes, hs, ht, h.halted_iff hp]
  · simp [Machine.haltTimes, haltTimes, hs, ht]

/-- **Saturating jumps refine exact jumps.** -/
theorem saturating_refines_exact (hp : Fits p) (s : Machine.State) :
    (∀ n,
      (∃ s' t', Machine.stepN p n s = .ok s' ∧ stepN p n (ofWords s) = some t' ∧
        p.fetch s'.pc = fetch p t'.pc ∧ s'.registers = t'.registers ∧ s'.out = t'.out ∧
        (s'.isHalted p = true ↔ t'.Halted p) ∧ (¬t'.Halted p → s'.pc.toInt = t'.pc) ∧
        s'.pc.toInt = clamp t'.pc) ∨
      ((∃ e, Machine.stepN p n s = .error e) ∧ stepN p n (ofWords s) = none)) ∧
    Machine.haltTimes p s = haltTimes p (ofWords s) ∧
    ∀ (s' : Machine.State) (i : Instruction), p.fetch s'.pc = some i →
      (s'.pc + 1).toInt = s'.pc.toInt + 1 ∧
      ∀ offset : Int64, Int64.minValue.toInt ≤ s'.pc.toInt + offset.toInt ∧
        ((saturatingAdd s'.pc offset).toInt ≠ s'.pc.toInt + offset.toInt →
          saturatingAdd s'.pc offset = Int64.maxValue ∧
            p.contains (saturatingAdd s'.pc offset) = false) := by
  refine ⟨fun n => ?_, haltTimes_ofWords hp s, fun s' i hi => ⟨toInt_add_one hp hi, ?_⟩⟩
  · refine ((mirrors_ofWords s).stepN hp n).imp_left ?_
    rintro ⟨s', t', hs, ht, h⟩
    exact ⟨s', t', hs, ht, h.fetch_eq hp, h.registers, h.out, h.halted_iff hp, h.pc_eq hp, h.pc⟩
  · exact fun offset => ⟨minValue_le_add hi offset, saturatingAdd_of_ne hp hi⟩

/-- A jump beyond the range of words, from the second instruction. -/
theorem saturating_refines_exact_far :
    ∃ s' t',
      Machine.stepN #[.increment .a, .jumpIfNonZero (.register .a) (.literal Int64.maxValue)] 2 {}
        = .ok s' ∧
      stepN #[.increment .a, .jumpIfNonZero (.register .a) (.literal Int64.maxValue)] 2
        (ofWords {}) = some t' ∧
      s'.registers = t'.registers ∧ s'.pc = Int64.maxValue ∧ t'.pc = Int64.maxValue.toInt + 1 := by
  have hfits : Fits #[.increment .a, .jumpIfNonZero (.register .a) (.literal Int64.maxValue)] := by
    unfold Fits
    decide
  rcases (saturating_refines_exact hfits {}).1 2 with ⟨s', t', hs, ht, -, hregisters, -⟩ | ⟨-, ht⟩
  · refine ⟨s', t', hs, ht, hregisters, ?_, ?_⟩
    · cases hs; decide
    · cases ht; decide
  · cases ht

end FourReg.Unbounded
