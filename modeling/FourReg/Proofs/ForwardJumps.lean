import FourReg.Proofs.Flow
import FourReg.Proofs.Repetition
import FourReg.Proofs.Unbounded

/-!
Programs that go forward only.

Where every jump that can be taken leads forward, the counter grows with each step. So no
instruction is executed twice, and the program halts behind its end within as many steps as it has
instructions.
-/

namespace FourReg

/-- If the instruction jumps at all, it jumps forward, and this can be read off its text. -/
def Instruction.Forward : Instruction → Prop
  | .jumpIfNonZero condition offset =>
    condition = .literal 0 ∨ ∃ distance, offset = .literal distance ∧ 1 ≤ distance
  | _ => True

namespace Program

def Forward (p : Program) : Prop := ∀ i ∈ p, i.Forward

def outputs (p : Program) : Nat := p.toList.countP fun i => i.mnemonic = .out

end Program

namespace Machine

open Unbounded

variable {p : Program} {s t u : State} {i : Instruction} {n : Nat}

/-! ### Counters that grow -/

lemma lt_saturatingAdd {pc distance : Int64} (hpc : pc.toInt < Int64.maxValue.toInt)
    (h : 1 ≤ distance) : pc.toInt < (saturatingAdd pc distance).toInt := by
  have hmin := pc.minValue_le_toInt
  have hdistance := Int64.le_iff_toInt_le.1 h
  rw [Int64.toInt_one] at hdistance
  rw [toInt_saturatingAdd, clamp]
  omega

/-- **One step** goes forward. -/
lemma lt_pc_apply (hfits : Fits p) (hi : p.fetch s.pc = some i) (h : i.Forward) :
    s.pc.toInt < (s.apply i).pc.toInt := by
  rcases pc_apply s i with hnext | ⟨condition, offset, rfl, hc, hjump⟩
  · rw [hnext, toInt_add_one hfits hi]
    exact Int.lt_succ _
  · rcases h with rfl | ⟨distance, rfl, hdistance⟩
    · exact absurd rfl hc
    · have hlt := (bounds_of_fetch hi).2
      rw [hjump]
      exact lt_saturatingAdd (by unfold Fits at hfits; omega) hdistance

/-- **A run** goes forward by at least as many instructions as it executes. -/
lemma add_le_pc_of_stepN (hp : p.Forward) (hfits : Fits p) (h : stepN p n s = .ok t) :
    s.pc.toInt + n ≤ t.pc.toInt := by
  induction n generalizing s with
  | zero =>
    cases h
    simp
  | succ n ih =>
    obtain ⟨u, hstep, hrest⟩ := stepN_succ_eq_ok_iff.1 h
    obtain ⟨i, hi, rfl⟩ := step_eq_ok_iff.1 hstep
    have hlt := lt_pc_apply hfits hi (hp i (Program.mem_of_fetch hi))
    have hle := ih hrest
    omega

lemma add_le_size_of_stepN (hp : p.Forward) (hfits : Fits p) (hpc : 0 ≤ s.pc.toInt)
    (h : stepN p n s = .ok t) : n ≤ p.size := by
  cases n with
  | zero => exact Nat.zero_le _
  | succ n =>
    obtain ⟨u, i, hu, hi, -⟩ := exists_last_of_stepN h
    have hle := add_le_pc_of_stepN hp hfits hu
    have hlt := (bounds_of_fetch hi).2
    omega

lemma exists_mem_haltTimes (hp : p.Forward) (hfits : Fits p) (hpc : 0 ≤ s.pc.toInt) :
    ∃ n, n ∈ haltTimes p s := by
  by_contra hnone
  have hnever : NeverHalts p s :=
    neverHalts_iff.2 (Set.eq_empty_of_forall_notMem fun n hn => hnone ⟨n, hn⟩)
  obtain ⟨t, ht, -⟩ := hnever (p.size + 1)
  exact absurd (add_le_size_of_stepN hp hfits hpc ht) (Nat.not_succ_le_self _)

/-! ### Each instruction at most once -/

lemma pc_lt_pc_of_stepN (hp : p.Forward) (hfits : Fits p) {j k : Nat} (hjk : j < k)
    (ht : stepN p j s = .ok t) (hu : stepN p k s = .ok u) : t.pc < u.pc := by
  obtain ⟨t', ht', hrest⟩ := exists_stepN_of_le hjk.le hu
  cases ht.symm.trans ht'
  have hle := add_le_pc_of_stepN hp hfits hrest
  rw [Int64.lt_iff_toInt_lt]
  omega

lemma executed_sublist (hp : p.Forward) (hfits : Fits p) (n : Nat) (s : State) :
    (executed p n s).Sublist (p.toList.drop s.pc.toInt.toNat) := by
  induction n generalizing s with
  | zero => exact List.nil_sublist _
  | succ n ih =>
    cases hi : p.fetch s.pc with
    | none =>
      rw [executed, hi]
      exact List.nil_sublist _
    | some i =>
      obtain ⟨m, hm, hget⟩ := Program.fetch_eq_some_iff.1 hi
      obtain ⟨hlt, hget⟩ := Array.getElem?_eq_some_iff.1 hget
      have hforward := lt_pc_apply hfits hi (hp i (Program.mem_of_fetch hi))
      have hindex : s.pc.toInt.toNat = m := by omega
      have hrest := List.drop_sublist_drop_left p.toList
        (show m + 1 ≤ (s.apply i).pc.toInt.toNat by omega)
      rw [executed_succ_of_fetch n hi, hindex, List.drop_eq_getElem_cons (by simpa using hlt),
        Array.getElem_toList, hget]
      exact ((ih (s.apply i)).trans hrest).cons_cons i

lemma size_out_stepN (h : stepN p n s = .ok t) :
    t.out.size = s.out.size + (executed p n s).countP fun i => i.mnemonic = .out := by
  induction n generalizing s with
  | zero =>
    cases h
    rfl
  | succ n ih =>
    obtain ⟨u, hstep, hrest⟩ := stepN_succ_eq_ok_iff.1 h
    obtain ⟨i, hi, rfl⟩ := step_eq_ok_iff.1 hstep
    have hone : (s.apply i).out.size = s.out.size + if i.mnemonic = .out then 1 else 0 := by
      rw [State.out_apply]
      cases i <;> simp [Instruction.output?, Instruction.mnemonic]
    rw [ih hrest, hone, executed_succ_of_fetch n hi, List.countP_cons]
    simp only [decide_eq_true_eq]
    omega

lemma executed_sublist_toList (hp : p.Forward) (hfits : Fits p) (n : Nat) (s : State) :
    (executed p n s).Sublist p.toList :=
  (executed_sublist hp hfits n s).trans (List.drop_sublist _ _)

end Machine

namespace Session

open Machine Unbounded

variable {p : Program} {config : Config} {c : Console} {o : Outcome} {n : Nat}

lemma exists_ran_of_forward (hp : p.Forward) (hfits : Fits p)
    (hmax : ∀ limit, config.maxSteps = some limit → p.size ≤ limit.toNat) (c : Console) :
    ∃ n o, Ran (start config p) c n o ∧ ((∀ pc cause, o.result ≠ .error (.write pc cause)) →
      o.result = .ok () ∧ o.session.next? = none) := by
  have hpc : 0 ≤ (start config p).state.pc.toInt := Int.le_refl _
  obtain ⟨k, hk⟩ := exists_mem_haltTimes hp hfits hpc
  obtain ⟨n, o, hr⟩ := exists_ran_of_bound k (start config p) c (.inl hk)
  refine ⟨n, o, hr, fun hwrite => ?_⟩
  rcases hr.ends with hend | ⟨limit, -, hnext, hl⟩ | ⟨pc, cause, he⟩
  · exact hend
  · -- the limit is as large as the program, which would have halted by then
    obtain ⟨hlimit, hle⟩ := hr.of_exhausted hl
    have hlt := hr.lt_of_mem_haltTimes hnext hk
    obtain ⟨t, ht, -⟩ := hk
    have hsize := add_le_size_of_stepN hp hfits hpc ht
    have hroom := hmax limit hlimit
    have hzero : (start config p).steps.toNat = 0 := rfl
    omega
  · exact absurd he (hwrite pc cause)

/-- **Programs that go forward only end within their length**: a run whose limit is not below that
executes instructions of the program in order, each at most once. It ends with a write error if one
of its own writes has been refused; in any other case the program has halted behind its end. The
size of the program has to be a word, as its last counter is. -/
theorem forward_ends_within_length (hp : p.Forward) (hfits : Fits p)
    (hmax : ∀ limit, config.maxSteps = some limit → p.size ≤ limit.toNat) (c : Console) :
    ∃ n o, Ran (start config p) c n o ∧ (start config p).run c = some o ∧
      ((∃ pc cause, o.result = .error (.write pc cause)) ↔
        config.muted = false ∧ ∃ k, c.writes ≤ k ∧ k < o.console.writes ∧ c.refusal k ≠ none) ∧
      ((∀ pc cause, o.result ≠ .error (.write pc cause)) →
        o.result = .ok () ∧ (p.size : Int) ≤ o.session.state.pc.toInt) ∧
      0 ≤ o.session.state.pc.toInt ∧
      (∀ j k t u, j < k → k < n → stepN p j (start config p).state = .ok t →
        stepN p k (start config p).state = .ok u → t.pc < u.pc) ∧
      (executed p n (start config p).state).Sublist p.toList ∧
      (o.session.steps.toNat = n ∧ n ≤ p.size) ∧
      o.session.state.out.size ≤ p.outputs := by
  obtain ⟨n, o, hr, hend⟩ := exists_ran_of_forward hp hfits hmax c
  have hadv := hr.advances
  have hrun : stepN p n (start config p).state = .ok o.session.state := hadv.state
  have hsize : n ≤ p.size := add_le_size_of_stepN hp hfits (Int.le_refl _) hrun
  have hpc : 0 ≤ o.session.state.pc.toInt := by
    have hle := add_le_pc_of_stepN hp hfits hrun
    have hzero : (start config p).state.pc.toInt = 0 := rfl
    omega
  refine ⟨n, o, hr, hr.run_eq, hr.failed_iff, fun hwrite => ?_, hpc, ?_, ?_, ⟨?_, hsize⟩, ?_⟩
  · obtain ⟨hresult, hnext⟩ := hend hwrite
    rw [next?_eq_none_iff_isHalted, hadv.program, State.isHalted_iff] at hnext
    exact ⟨hresult, hnext.resolve_left (Int.not_lt.2 hpc)⟩
  · exact fun j k t u hjk _ ht hu => pc_lt_pc_of_stepN hp hfits hjk ht hu
  · exact executed_sublist_toList hp hfits n _
  · have hmax := Int64.toInt_maxValue
    have hfew : n < UInt64.size := by
      unfold Fits at hfits
      simp only [UInt64.size]
      omega
    have hsteps := hadv.toNat_steps (by simpa [start] using hfew)
    simpa [start] using hsteps
  · have hcount := (executed_sublist_toList hp hfits n (start config p).state).countP_le
      (p := fun i => decide (i.mnemonic = .out))
    have hempty : (start config p).state.out.size = 0 := rfl
    rw [size_out_stepN hrun, hempty, Nat.zero_add]
    exact hcount

/-- A jump that saturates, behind a value that is put out and a jump that is not taken. -/
theorem forward_ends_within_length_far :
    let p : Program := #[.output (.literal 7), .jumpIfNonZero (.literal 0) (.literal (-5)),
      .jumpIfNonZero (.literal 1) (.literal Int64.maxValue)]
    p.Forward ∧ ∃ o, (start { maxSteps := some 3 } p).run .working = some o ∧
      o.result = .ok () ∧ (3 : Int) ≤ o.session.state.pc.toInt ∧ o.session.state.out.size ≤ 1 := by
  intro p
  have hp : p.Forward := by
    intro i hi
    simp only [p, List.mem_toArray, List.mem_cons, List.not_mem_nil, or_false] at hi
    rcases hi with rfl | rfl | rfl
    · trivial
    · exact .inl rfl
    · exact .inr ⟨_, rfl, by decide⟩
  obtain ⟨n, o, -, hrun, hfailed, hend, -, -, -, -, hout⟩ :=
    @forward_ends_within_length p { maxSteps := some 3 } hp (by unfold Fits; decide)
      (by rintro limit ⟨⟩; decide) .working
  obtain ⟨hresult, hpc⟩ := hend fun pc cause hwrite => by
    obtain ⟨-, k, -, -, hrefused⟩ := hfailed.1 ⟨pc, cause, hwrite⟩
    exact hrefused rfl
  exact ⟨hp, o, hrun, hresult, hpc, hout⟩

/-- On a device without space the first value cannot be written, and the run ends with that
error. -/
theorem forward_needs_accepted_writes :
    Program.Forward #[.output (.literal 7)] ∧
    ∃ o, (start {} #[.output (.literal 7)]).run .full = some o ∧
      o.result = .error (.write 0 .noSpace) ∧ o.result ≠ .ok () := by
  have hran : Ran (start {} #[.output (.literal 7)]) .full 1 _ :=
    .failed (by decide) (by decide) rfl
  refine ⟨fun i hi => ?_, _, hran.run_eq, rfl, nofun⟩
  obtain rfl : i = .output (.literal 7) := by simpa using hi
  trivial

end Session

end FourReg
