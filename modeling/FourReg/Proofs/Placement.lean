import FourReg.Proofs.Unbounded

/-!
Programs inside larger programs.

Jumps are relative, so a program does the same wherever it stands, for as long as its counter stays
inside it. The counter of the larger program is that of the smaller one, moved by what stands in
front.
-/

namespace FourReg.Machine

open Unbounded

variable {p pre post q : Program} {s t : State} {i : Instruction} {n k : Nat}

/-! ### Counters that are moved -/

/-- The state with its counter moved by `k`. -/
def State.moved (s : State) (k : Nat) : State :=
  { s with pc := saturatingAdd s.pc (Int64.ofNat k) }

lemma moved_registers (s : State) (k : Nat) : (s.moved k).registers = s.registers := rfl

lemma eq_moved (hpc : t.pc = saturatingAdd s.pc (Int64.ofNat k))
    (hregisters : t.registers = s.registers) (hout : t.out = s.out) : t = s.moved k := by
  cases t
  simp only at hpc hregisters hout
  rw [State.moved, hpc, hregisters, hout]

lemma toInt_ofNat (hk : (k : Int) ≤ Int64.maxValue.toInt) : (Int64.ofNat k).toInt = k := by
  have hmax := Int64.toInt_maxValue
  exact Int64.toInt_ofNat_of_lt (by omega)

lemma toInt_saturatingAdd_ofNat {pc : Int64} (hk : (k : Int) ≤ Int64.maxValue.toInt)
    (h : pc.toInt + k ≤ Int64.maxValue.toInt) :
    (saturatingAdd pc (Int64.ofNat k)).toInt = pc.toInt + k := by
  have hmin := pc.minValue_le_toInt
  rw [toInt_saturatingAdd, toInt_ofNat hk, clamp_eq_self_iff]
  omega

lemma eq_moved_of_toInt (hk : (k : Int) ≤ Int64.maxValue.toInt) (hpc : t.pc.toInt = s.pc.toInt + k)
    (hregisters : t.registers = s.registers) (hout : t.out = s.out) : t = s.moved k := by
  have hroom := t.pc.toInt_le
  refine eq_moved (Int64.toInt_inj.1 ?_) hregisters hout
  rw [toInt_saturatingAdd_ofNat hk (by omega), hpc]

lemma moved_zero (s : State) : s.moved 0 = s :=
  (eq_moved_of_toInt (by decide) (by simp) rfl rfl).symm

lemma size_le_of_fits (h : Fits (pre ++ p ++ post)) :
    (pre.size : Int) + p.size ≤ Int64.maxValue.toInt := by
  rw [Fits, Array.size_append, Array.size_append] at h
  omega

lemma toInt_pc_moved (h : Fits (pre ++ p ++ post)) (hpc : s.pc.toInt ≤ p.size) :
    (s.moved pre.size).pc.toInt = s.pc.toInt + pre.size := by
  have hsize := size_le_of_fits h
  exact toInt_saturatingAdd_ofNat (by omega) (by omega)

lemma moved_eq (h : Fits (pre ++ p ++ post)) (hpc : p.contains s.pc = true) :
    s.moved pre.size = { s with pc := s.pc + Int64.ofNat pre.size } := by
  obtain ⟨hlow, hhigh⟩ := Program.contains_iff.1 hpc
  have hsize := size_le_of_fits h
  have hmax := Int64.toInt_maxValue
  have hsum : (s.pc + Int64.ofNat pre.size).toInt = s.pc.toInt + pre.size := by
    rw [Int64.toInt_add, toInt_ofNat (by omega)]
    exact Int.bmod_eq_of_le (by omega) (by omega)
  symm
  exact eq_moved_of_toInt (by omega) hsum rfl rfl

/-! ### Instructions in their new place -/

lemma fetch_moved (h : Fits (pre ++ p ++ post)) (hi : p.fetch s.pc = some i) :
    (pre ++ p ++ post).fetch (s.moved pre.size).pc = some i := by
  have hpc := toInt_pc_moved h (bounds_of_fetch hi).2.le
  obtain ⟨m, hm, hget⟩ := Program.fetch_eq_some_iff.1 hi
  obtain ⟨hlt, -⟩ := Array.getElem?_eq_some_iff.1 hget
  refine Program.fetch_eq_some_iff.2 ⟨pre.size + m, by omega, ?_⟩
  rw [Array.append_assoc, Array.getElem?_append_right (by omega), Nat.add_sub_cancel_left,
    Array.getElem?_append_left hlt, hget]

/-- **One instruction** does the same in its new place. A jump that saturates at either place ends
at the last word. -/
lemma apply_moved (h : Fits (pre ++ p ++ post)) (hi : p.fetch s.pc = some i) :
    (s.moved pre.size).apply i = (s.apply i).moved pre.size := by
  have hsize := size_le_of_fits h
  obtain ⟨hlow, hhigh⟩ := bounds_of_fetch hi
  have hpc := toInt_pc_moved h hhigh.le
  have hnext : (s.moved pre.size).pc + 1 = saturatingAdd (s.pc + 1) (Int64.ofNat pre.size) := by
    have hone := toInt_add_one (p := p) (by unfold Fits; omega) hi
    have hone' := toInt_add_one h (fetch_moved h hi)
    have hsum : (saturatingAdd (s.pc + 1) (Int64.ofNat pre.size)).toInt =
        (s.pc + 1).toInt + pre.size := toInt_saturatingAdd_ofNat (by omega) (by omega)
    exact Int64.toInt_inj.1 (by omega)
  have hjump (offset : Int64) : saturatingAdd (s.moved pre.size).pc offset =
      saturatingAdd (saturatingAdd s.pc offset) (Int64.ofNat pre.size) := by
    have hmin := Int64.toInt_minValue
    have hmax := Int64.toInt_maxValue
    have hoffset := offset.le_toInt
    apply Int64.toInt_inj.1
    rw [toInt_saturatingAdd, toInt_saturatingAdd, toInt_saturatingAdd, hpc,
      toInt_ofNat (by omega)]
    unfold clamp
    omega
  cases i with
  | jumpIfNonZero condition offset =>
    by_cases hc : condition.value s.registers = 0
    · simp only [State.apply, moved_registers, hc, if_true]
      exact eq_moved hnext rfl rfl
    · simp only [State.apply, moved_registers, hc, if_false]
      exact eq_moved (hjump _) rfl rfl
  | _ => exact eq_moved hnext rfl rfl

lemma stepN_moved (h : Fits (pre ++ p ++ post)) (hrun : stepN p n s = .ok t) :
    stepN (pre ++ p ++ post) n (s.moved pre.size) = .ok (t.moved pre.size) ∧
      executed (pre ++ p ++ post) n (s.moved pre.size) = executed p n s := by
  induction n generalizing s with
  | zero =>
    cases hrun
    exact ⟨rfl, rfl⟩
  | succ n ih =>
    obtain ⟨u, hstep, hrest⟩ := stepN_succ_eq_ok_iff.1 hrun
    obtain ⟨i, hi, rfl⟩ := step_eq_ok_iff.1 hstep
    have hi' := fetch_moved h hi
    obtain ⟨hstate, hexecuted⟩ := ih hrest
    rw [← apply_moved h hi] at hstate hexecuted
    rw [stepN_succ_of_step n (step_of_fetch hi'), executed_succ_of_fetch n hi',
      executed_succ_of_fetch n hi, hexecuted]
    exact ⟨hstate, rfl⟩

/-- The counter is moved exactly, unless the last instruction is a jump that saturates in the larger
program. -/
lemma exists_jump_of_inexact (h : Fits (pre ++ p ++ post)) (hpc : p.contains s.pc = true)
    (hrun : stepN p n s = .ok t)
    (hne : (t.moved pre.size).pc.toInt ≠ t.pc.toInt + pre.size) :
    ∃ m u condition offset, n = m + 1 ∧ stepN p m s = .ok u ∧
      p.fetch u.pc = some (.jumpIfNonZero condition offset) ∧ condition.value u.registers ≠ 0 ∧
      Int64.maxValue.toInt < u.pc.toInt + pre.size + (offset.value u.registers).toInt := by
  have hsize := size_le_of_fits h
  have hexact (hle : t.pc.toInt ≤ p.size) : False := hne (toInt_pc_moved h hle)
  cases n with
  | zero =>
    cases hrun
    exact (hexact (Program.contains_iff.1 hpc).2.le).elim
  | succ m =>
    obtain ⟨u, i, hu, hi, rfl⟩ := exists_last_of_stepN hrun
    obtain ⟨hlow, hhigh⟩ := bounds_of_fetch hi
    rcases pc_apply u i with hnext | ⟨condition, offset, rfl, hc, hjump⟩
    · have hone := toInt_add_one (p := p) (by unfold Fits; omega) hi
      exact (hexact (by rw [hnext]; omega)).elim
    · refine ⟨m, u, condition, offset, rfl, hu, hi, hc, ?_⟩
      by_contra hle
      -- neither the jump nor the move would have left the range of words
      have hlow' := minValue_le_add hi (offset.value u.registers)
      have hpc' : (u.apply (.jumpIfNonZero condition offset)).pc.toInt =
          u.pc.toInt + (offset.value u.registers).toInt := by
        rw [hjump, toInt_saturatingAdd, clamp_eq_self_iff]
        omega
      exact hne (toInt_saturatingAdd_ofNat (by omega) (by omega))

/-- **One program behind another**: where the first ends, the second begins. -/
lemma stepN_append {u : State} {m : Nat} (h : Fits (p ++ q)) (hfirst : stepN p m s = .ok t)
    (hend : t.pc.toInt = p.size) (hsecond : stepN q n { t with pc := 0 } = .ok u) :
    stepN (p ++ q) (m + n) s = .ok (u.moved p.size) ∧
      executed (p ++ q) (m + n) s = executed p m s ++ executed q n { t with pc := 0 } := by
  have hleft : Fits (#[] ++ p ++ q) := by rwa [Array.empty_append]
  have hright : Fits (p ++ q ++ #[]) := by rwa [Array.append_empty]
  have hsize := size_le_of_fits hright
  have ht : t = State.moved { t with pc := 0 } p.size :=
    eq_moved_of_toInt (by omega) (by simp [hend]) rfl rfl
  obtain ⟨hstate, hexecuted⟩ := stepN_moved hleft hfirst
  obtain ⟨hstate', hexecuted'⟩ := stepN_moved hright hsecond
  rw [Array.empty_append, Array.size_empty, moved_zero] at hstate hexecuted
  rw [moved_zero] at hstate
  rw [Array.append_empty, ← ht] at hstate' hexecuted'
  constructor
  · rw [stepN_add_of_eq_ok n hstate, hstate']
  · rw [executed_add n hstate, hexecuted, hexecuted']

/-- **Position independence**: a program runs the same inside a larger one, and a program behind
another one takes over from it. -/
theorem runs_same_anywhere :
    (∀ (pre p post : Program) (s t : State) (n : Nat), Fits (pre ++ p ++ post) →
      p.contains s.pc = true → stepN p n s = .ok t →
      let s' : State := { s with pc := s.pc + Int64.ofNat pre.size }
      let t' : State := { t with pc := saturatingAdd t.pc (Int64.ofNat pre.size) }
      stepN (pre ++ p ++ post) n s' = .ok t' ∧
      ((executed p n s).length = n ∧ executed (pre ++ p ++ post) n s' = executed p n s) ∧
      s'.pc.toInt = s.pc.toInt + pre.size ∧
      (t'.pc.toInt = t.pc.toInt + pre.size ∨
        ∃ m u condition offset, n = m + 1 ∧ stepN p m s = .ok u ∧
          p.fetch u.pc = some (.jumpIfNonZero condition offset) ∧
          condition.value u.registers ≠ 0 ∧
          Int64.maxValue.toInt < u.pc.toInt + pre.size + (offset.value u.registers).toInt)) ∧
    ∀ (p q : Program) (s t u : State) (m n : Nat), Fits (p ++ q) →
      stepN p m s = .ok t → t.pc.toInt = p.size → stepN q n { t with pc := 0 } = .ok u →
      stepN (p ++ q) (m + n) s =
        .ok { u with pc := saturatingAdd u.pc (Int64.ofNat p.size) } ∧
      executed (p ++ q) (m + n) s = executed p m s ++ executed q n { t with pc := 0 } := by
  constructor
  · intro pre p post s t n hfits hpc hrun
    obtain ⟨hstate, hexecuted⟩ := stepN_moved hfits hrun
    have hstart := toInt_pc_moved hfits (Program.contains_iff.1 hpc).2.le
    rw [moved_eq hfits hpc] at hstate hexecuted hstart
    refine ⟨hstate, ⟨length_executed hrun, hexecuted⟩, hstart, ?_⟩
    exact or_iff_not_imp_left.2 (exists_jump_of_inexact hfits hpc hrun)
  · intro p q s t u m n hfits hfirst hend hsecond
    exact stepN_append hfits hfirst hend hsecond

/-- A jump that saturates only behind another instruction, and two programs in a row. -/
theorem runs_same_anywhere_far :
    (∃ t, stepN (#[.increment .a] ++ #[.jumpIfNonZero (.literal 1) (.literal Int64.maxValue)]
        ++ #[.output (.literal 7)]) 1 { pc := 1 } = .ok t ∧ t.pc = Int64.maxValue) ∧
    ∃ t, stepN (#[.output (.literal 7)] ++ #[.output (.register .a)]) 2 { registers := { a := 8 } }
        = .ok t ∧ t.pc = 2 ∧ t.out = #[7, 8] := by
  constructor
  · obtain ⟨hrun, -⟩ := runs_same_anywhere.1 #[.increment .a]
      #[.jumpIfNonZero (.literal 1) (.literal Int64.maxValue)] #[.output (.literal 7)] {} _ 1
      (by unfold Fits; decide) (by decide) rfl
    exact ⟨_, hrun, by decide⟩
  · obtain ⟨hrun, -⟩ := runs_same_anywhere.2 #[.output (.literal 7)] #[.output (.register .a)]
      { registers := { a := 8 } } _ _ 1 1 (by unfold Fits; decide) rfl (by decide) rfl
    exact ⟨_, hrun, by decide, by decide⟩

end FourReg.Machine
