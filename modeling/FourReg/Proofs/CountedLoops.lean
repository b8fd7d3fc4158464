import FourReg.Proofs.Flow
import FourReg.Proofs.Placement
import Mathlib.Logic.Function.Iterate

/-!
Loops that count a register down.

A straight line of instructions that leaves a register alone, then a decrement of it and a jump back
while it is not zero, goes round as often as the register says. A register that begins with zero or
below is counted down through the lower end of the range.
-/

namespace FourReg.Machine

open Unbounded

variable {p : Program} {s : State} {r : Register} {body line behind before : List Instruction}
  {i : Instruction} {m : Nat} {x : Int64}

/-! ### Straight lines -/

/-- The state behind a straight line of instructions, with the counter where it was. -/
def effect (line : List Instruction) (s : State) : State :=
  { line.foldl State.apply s with pc := s.pc }

lemma pc_apply_of_ne_jump (h : i.mnemonic ≠ .jnz) (s : State) : (s.apply i).pc = s.pc + 1 := by
  rcases pc_apply s i with hpc | ⟨condition, offset, rfl, -, -⟩
  · exact hpc
  · exact absurd rfl h

/-- **A straight line** is executed from its first instruction to its last. -/
lemma stepN_line (hfits : Fits p) (hp : p.toList = before ++ (line ++ behind))
    (hline : ∀ i ∈ line, i.mnemonic ≠ .jnz) (hpc : s.pc.toInt = before.length) :
    stepN p line.length s = .ok (line.foldl State.apply s) ∧
      (line.foldl State.apply s).pc.toInt = before.length + line.length := by
  induction line generalizing before s with
  | nil => exact ⟨rfl, by simpa using hpc⟩
  | cons i line ih =>
    have hget : p[before.length]? = some i := by
      rw [← Array.getElem?_toList, hp, List.getElem?_append_right (Nat.le_refl _)]
      simp
    have hi : p.fetch s.pc = some i := Program.fetch_eq_some_iff.2 ⟨_, hpc, hget⟩
    have hnext : (s.apply i).pc.toInt = (before ++ [i]).length := by
      rw [pc_apply_of_ne_jump (hline i (.head _)), toInt_add_one hfits hi, hpc]
      simp
    have hrest : p.toList = (before ++ [i]) ++ (line ++ behind) := by simp [hp]
    obtain ⟨hrun, hend⟩ := ih hrest (fun j hj => hline j (.tail _ hj)) hnext
    rw [List.length_cons, stepN_succ_of_step _ (step_of_fetch hi), List.foldl_cons]
    refine ⟨hrun, hend.trans ?_⟩
    simp only [List.length_append, List.length_cons, List.length_nil]
    omega

lemma get_foldl_apply (h : ∀ i ∈ line, i.target? ≠ some r) (s : State) :
    (line.foldl State.apply s).registers.get r = s.registers.get r := by
  induction line generalizing s with
  | nil => rfl
  | cons i line ih =>
    rw [List.foldl_cons, ih fun j hj => h j (.tail _ hj), get_apply s (h i (.head _))]

/-! ### The loop -/

/-- The jump back over `n` instructions, unless `r` is zero. -/
def jumpBack (r : Register) (n : Nat) : Instruction :=
  .jumpIfNonZero (.register r) (.literal (Int64.ofInt (-n)))

/-- The body, a decrement of `r`, and a jump back to the beginning while `r` is not zero. -/
def counted (body : List Instruction) (r : Register) : Program :=
  List.toArray <| body ++ [.decrement r, jumpBack r (body.length + 1)]

def round (body : List Instruction) (r : Register) : State → State :=
  effect (body ++ [.decrement r])

/-- The number of rounds: the value as a number without sign, and the number of all words for zero,
which is counted down to before it is tested. -/
def rounds (x : Int64) : Nat := if x = 0 then UInt64.size else x.toUInt64.toNat

/-- The body goes straight on, and leaves `r` alone. -/
structure Spares (body : List Instruction) (r : Register) : Prop where
  straight : ∀ i ∈ body, i.mnemonic ≠ .jnz
  unwritten : ∀ i ∈ body, i.target? ≠ some r

lemma size_counted (body : List Instruction) (r : Register) :
    (counted body r).size = body.length + 2 := by
  simp [counted]

lemma get_round (h : Spares body r) (s : State) :
    (round body r s).registers.get r = s.registers.get r - 1 := by
  have hkeeps := get_foldl_apply h.unwritten s
  simp only [round, effect, List.foldl_append, List.foldl_cons, List.foldl_nil, State.apply,
    Registers.get_set_self, hkeeps]

lemma step_jumpBack (hfits : Fits (counted body r)) (hpc : s.pc.toInt = body.length + 1) :
    step (counted body r) s = .ok { s with
      pc := if s.registers.get r = 0 then Int64.ofNat (body.length + 2) else 0 } := by
  have hget : (counted body r)[body.length + 1]? = some (jumpBack r (body.length + 1)) := by
    simp [counted]
  have hi := Program.fetch_eq_some_iff.2 ⟨body.length + 1, by simpa using hpc, hget⟩
  have hnext := toInt_add_one hfits hi
  rw [Fits, size_counted] at hfits
  have hmin := Int64.toInt_minValue
  have hmax := Int64.toInt_maxValue
  have hlast : s.pc + 1 = Int64.ofNat (body.length + 2) := by
    rw [← Int64.toInt_inj, hnext, toInt_ofNat (by omega), hpc]
    omega
  have hoffset : (Int64.ofInt (-(body.length + 1 : Nat))).toInt = -(body.length + 1 : Nat) :=
    Int64.toInt_ofInt_of_le (by omega) (by omega)
  have hfirst : saturatingAdd s.pc (Int64.ofInt (-(body.length + 1 : Nat))) = 0 := by
    rw [← Int64.toInt_inj, toInt_saturatingAdd, hpc, hoffset, Int64.toInt_zero, clamp]
    omega
  rw [step_of_fetch hi, jumpBack, State.apply, Operand.value, Operand.value]
  split
  · rw [hlast]
  · rw [hfirst]

/-- **One round** ends at the beginning or behind the loop. -/
lemma stepN_round (h : Spares body r) (hfits : Fits (counted body r)) (hpc : s.pc = 0) :
    stepN (counted body r) (body.length + 2) s = .ok { round body r s with
      pc := if s.registers.get r - 1 = 0 then Int64.ofNat (body.length + 2) else 0 } := by
  have hp : (counted body r).toList =
      [] ++ ((body ++ [.decrement r]) ++ [jumpBack r (body.length + 1)]) := by
    simp [counted]
  have hline : ∀ i ∈ body ++ [.decrement r], i.mnemonic ≠ .jnz :=
    List.forall_mem_append.2 ⟨h.straight, by simp [Instruction.mnemonic]⟩
  have hfirst : s.pc.toInt = ([] : List Instruction).length := by simp [hpc]
  obtain ⟨hrun, hend⟩ := stepN_line hfits hp hline hfirst
  rw [List.length_append, List.length_singleton] at hrun hend
  have hjump := step_jumpBack hfits (hend.trans (by simp))
  have hvalue := get_round h s
  simp only [round, effect] at hvalue
  rw [stepN_add_of_eq_ok 1 hrun, stepN_succ_of_step 0 hjump, stepN_zero, hvalue]
  rfl

/-! ### The number of rounds -/

lemma toNat_toUInt64_eq_zero_iff : x.toUInt64.toNat = 0 ↔ x = 0 := by
  constructor
  · intro h
    have hzero : x.toUInt64 = 0 := UInt64.toNat_inj.1 h
    rw [← x.toInt64_toUInt64, hzero]
    rfl
  · rintro rfl
    rfl

lemma toNat_toUInt64_sub_one (x : Int64) :
    (x - 1).toUInt64.toNat = (UInt64.size - 1 + x.toUInt64.toNat) % UInt64.size := by
  rw [Int64.toUInt64_sub, UInt64.toNat_sub]
  rfl

lemma rounds_eq (x : Int64) : rounds x = (x - 1).toUInt64.toNat + 1 := by
  have hlt : x.toUInt64.toNat < UInt64.size := x.toUInt64.toNat_lt
  have hpos : 0 < UInt64.size := by decide
  rw [toNat_toUInt64_sub_one, rounds]
  split
  · rename_i hx
    rw [toNat_toUInt64_eq_zero_iff.2 hx, Nat.add_zero, Nat.mod_eq_of_lt (by omega)]
    omega
  · rename_i hx
    have hne := mt toNat_toUInt64_eq_zero_iff.1 hx
    have hsum : UInt64.size - 1 + x.toUInt64.toNat = x.toUInt64.toNat - 1 + UInt64.size := by omega
    rw [hsum, Nat.add_mod_right, Nat.mod_eq_of_lt (by omega)]
    omega

/-- **All rounds**, counted by what the first decrement leaves. -/
lemma stepN_rounds (h : Spares body r) (hfits : Fits (counted body r)) (hpc : s.pc = 0)
    (hm : (s.registers.get r - 1).toUInt64.toNat = m) :
    stepN (counted body r) ((m + 1) * (body.length + 2)) s = .ok
      { (round body r)^[m + 1] s with pc := Int64.ofNat (body.length + 2) } := by
  induction m generalizing s with
  | zero =>
    have hround := stepN_round h hfits hpc
    rw [if_pos (toNat_toUInt64_eq_zero_iff.1 hm)] at hround
    rw [Nat.zero_add, Nat.one_mul, hround]
    rfl
  | succ m ih =>
    have hvalue : s.registers.get r - 1 ≠ 0 := fun hzero => by
      rw [toNat_toUInt64_eq_zero_iff.2 hzero] at hm
      cases hm
    have hround : stepN (counted body r) (body.length + 2) s = .ok (round body r s) := by
      rw [stepN_round h hfits hpc, if_neg hvalue, ← hpc]
      rfl
    have hrest : (s.registers.get r - 1 - 1).toUInt64.toNat = m := by
      have hcount := rounds_eq (s.registers.get r - 1)
      rw [rounds, if_neg hvalue] at hcount
      omega
    have hsteps : (m + 1 + 1) * (body.length + 2) =
        (body.length + 2) + (m + 1) * (body.length + 2) := by
      rw [Nat.add_mul (m + 1), Nat.one_mul, Nat.add_comm]
    rw [hsteps, stepN_add_of_eq_ok _ hround, Function.iterate_succ_apply]
    exact ih hpc (by rw [get_round h, hrest])

lemma isHalted_counted (hfits : Fits (counted body r))
    (hpc : s.pc = Int64.ofNat (body.length + 2)) : s.isHalted (counted body r) = true := by
  rw [Fits, size_counted] at hfits
  rw [State.isHalted_iff, hpc, toInt_ofNat hfits, size_counted]
  exact .inr (Int.le_refl _)

/-! ### Counting down aloud -/

def downFrom : Nat → List Int64
  | 0 => []
  | n + 1 => Int64.ofNat (n + 1) :: downFrom n

lemma spares_output (r : Register) : Spares [.output (.register r)] r :=
  ⟨by simp [Instruction.mnemonic], by simp [Instruction.target?]⟩

lemma out_rounds (hm : s.registers.get r = Int64.ofNat m) :
    ((round [.output (.register r)] r)^[m] s).out = s.out ++ (downFrom m).toArray := by
  induction m generalizing s with
  | zero => simp [downFrom]
  | succ m ih =>
    have hvalue : (round [.output (.register r)] r s).registers.get r = Int64.ofNat m := by
      rw [get_round (spares_output r), hm, Int64.ofNat_add]
      exact Int64.add_sub_cancel _ _
    have hout : (round [.output (.register r)] r s).out = s.out.push (Int64.ofNat (m + 1)) := by
      rw [← hm]
      rfl
    rw [Function.iterate_succ_apply, ih hvalue, hout, downFrom]
    simp

lemma rounds_of_pos (h : 0 < x) : rounds x = x.toInt.toNat ∧ x = Int64.ofNat (rounds x) := by
  have hne : x ≠ 0 := fun hx => Int64.lt_irrefl (hx ▸ h)
  have hrounds : rounds x = x.toNatClampNeg := by
    rw [rounds, if_neg hne, Int64.toNat_toUInt64_of_le (Int64.le_of_lt h)]
  refine ⟨hrounds, ?_⟩
  rw [hrounds, Int64.ofNat_toNatClampNeg x (Int64.le_of_lt h)]

/-- **A counted loop goes round as often as its register says**, read without a sign; from zero, as
often as there are words. It halts behind its last instruction after exactly the steps of so many
rounds, and has done to registers and log what so many rounds do. A loop that puts out a positive
register counts it down to one. The size of the loop has to be a word, as its last counter is. -/
theorem counted_loop_runs (h : Spares body r) (hfits : Fits (counted body r)) (hpc : s.pc = 0) :
    haltTimes (counted body r) s = {rounds (s.registers.get r) * (body.length + 2)} ∧
    stepN (counted body r) (rounds (s.registers.get r) * (body.length + 2)) s = .ok
      { (round body r)^[rounds (s.registers.get r)] s with
        pc := Int64.ofNat (body.length + 2) } ∧
    (body = [.output (.register r)] → 0 < s.registers.get r →
      rounds (s.registers.get r) = (s.registers.get r).toInt.toNat ∧
      ((round body r)^[rounds (s.registers.get r)] s).out =
        s.out ++ (downFrom (s.registers.get r).toInt.toNat).toArray) := by
  have hrun := stepN_rounds h hfits hpc rfl
  rw [← rounds_eq] at hrun
  have hmem : rounds (s.registers.get r) * (body.length + 2) ∈ haltTimes (counted body r) s :=
    ⟨_, hrun, isHalted_counted hfits rfl⟩
  refine ⟨?_, hrun, ?_⟩
  · exact Set.eq_singleton_iff_unique_mem.2 ⟨hmem, fun n hn =>
      (isLeast_haltTimes hn).unique (isLeast_haltTimes hmem)⟩
  · rintro rfl hpos
    obtain ⟨hrounds, hvalue⟩ := rounds_of_pos hpos
    exact ⟨hrounds, hrounds ▸ out_rounds hvalue⟩

/-- A countdown from four. -/
theorem counted_loop_runs_from_four :
    (counted [.output (.register .b)] .b).listing = "out b\ndec b\njnz b -2\n" ∧
    ∃ t, stepN (counted [.output (.register .b)] .b) 12 { registers := { b := 4 } } = .ok t ∧
      t.pc = 3 ∧ t.registers = {} ∧ t.out = #[4, 3, 2, 1] := by
  have hfits : Fits (counted [.output (.register .b)] .b) := by
    unfold Fits
    decide
  obtain ⟨-, hrun, hout⟩ := counted_loop_runs (s := { registers := { b := 4 } })
    (spares_output .b) hfits rfl
  refine ⟨by decide, _, hrun, rfl, rfl, ?_⟩
  exact ((hout rfl (by decide)).2).trans rfl

end FourReg.Machine
