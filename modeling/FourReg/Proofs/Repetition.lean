import FourReg.Proofs.Echo
import FourReg.Proofs.Limits
import Mathlib.Data.FinEnum
import Mathlib.Data.Finite.Prod
import Mathlib.Data.Fintype.Pigeonhole

/-!
Machines that never halt.

The log of output is never read back, so what a machine does depends on its counter and its
registers alone. There are finitely many of these, so a machine that never halts comes back to
where it has been, and from there it repeats itself, its output included.
-/

namespace FourReg.Machine

variable {p : Program} {s t u : State} {i j n : Nat}

/-! ### The log of output -/

namespace State

def cleared (s : State) : State := { s with out := #[] }

/-- The state with other output in front of its own. -/
def prepend (s : State) (log : Array Int64) : State := { s with out := log ++ s.out }

@[simp] lemma prepend_pc (s : State) (log : Array Int64) : (s.prepend log).pc = s.pc := rfl

@[simp] lemma prepend_registers (s : State) (log : Array Int64) :
    (s.prepend log).registers = s.registers := rfl

lemma prepend_cleared (s : State) : s.cleared.prepend s.out = s := by
  simp [cleared, prepend]

lemma prepend_prepend (s : State) (log log' : Array Int64) :
    (s.prepend log).prepend log' = s.prepend (log' ++ log) := by
  simp [prepend]

lemma eq_prepend_cleared (hpc : t.pc = s.pc) (hregisters : t.registers = s.registers) :
    t = s.cleared.prepend t.out := by
  rw [← prepend_cleared t, cleared, hpc, hregisters]
  simp [cleared, prepend]

lemma apply_prepend (s : State) (log : Array Int64) (i : Instruction) :
    (s.prepend log).apply i = (s.apply i).prepend log := by
  cases i with
  | jumpIfNonZero condition offset =>
    by_cases h : condition.value s.registers = 0 <;> simp [apply, prepend, h]
  | _ => simp [apply, prepend]

end State

lemma stepN_prepend (p : Program) (n : Nat) (s : State) (log : Array Int64) :
    stepN p n (s.prepend log) = (stepN p n s).map fun t => t.prepend log := by
  induction n generalizing s with
  | zero => rfl
  | succ n ih =>
    cases hi : p.fetch s.pc with
    | none =>
      have hhalt : s.isHalted p = true := isHalted_iff_fetch.2 hi
      rw [stepN_succ_of_isHalted n hhalt, stepN_succ_of_isHalted (s := s.prepend log) n hhalt]
      rfl
    | some i =>
      rw [stepN_succ_of_step n (step_of_fetch hi),
        stepN_succ_of_step (s := s.prepend log) n (step_of_fetch hi), State.apply_prepend, ih]

lemma exists_stepN_cleared (h : stepN p n s = .ok t) :
    ∃ u, stepN p n s.cleared = .ok u ∧ t = u.prepend s.out := by
  rw [← State.prepend_cleared s, stepN_prepend] at h
  cases hu : stepN p n s.cleared with
  | error e => rw [hu] at h; cases h
  | ok u =>
    rw [hu] at h
    cases h
    exact ⟨u, rfl, rfl⟩

lemma stepN_of_cleared (h : stepN p n s.cleared = .ok u) :
    stepN p n s = .ok (u.prepend s.out) := by
  conv_lhs => rw [← State.prepend_cleared s, stepN_prepend, h]
  rfl

/-- **A circle**: steps that change nothing but the log can be taken again and again, and put out
the same each time. -/
lemma stepN_mul {d : Nat} {block : Array Int64} (h : stepN p d s = .ok (s.prepend block))
    (k : Nat) : stepN p (k * d) s = .ok (s.prepend (Array.replicate k block).flatten) := by
  induction k with
  | zero => simp [State.prepend]
  | succ k ih =>
    rw [Nat.succ_mul, stepN_add_of_eq_ok d ih, stepN_prepend, h, Array.replicate_succ,
      Array.flatten_push, ← State.prepend_prepend]
    rfl

/-! ### Machines that come back -/

/-- After `i` and after `j` steps from `s` the machine is at `t` and `u`, with the same counter and
the same registers, and it has not halted. -/
structure Repeats (p : Program) (s : State) (i j : Nat) (t u : State) : Prop where
  lt : i < j
  first : stepN p i s = .ok t
  second : stepN p j s = .ok u
  first_running : t.isHalted p = false
  second_running : u.isHalted p = false
  pc : u.pc = t.pc
  registers : u.registers = t.registers

lemma Repeats.circle (h : Repeats p s i j t u) :
    ∃ block, u.out = t.out ++ block ∧
      stepN p (j - i) t.cleared = .ok (t.cleared.prepend block) := by
  obtain ⟨t', ht', hrest⟩ := exists_stepN_of_le h.lt.le h.second
  obtain rfl : t = t' := Except.ok.inj (h.first.symm.trans ht')
  obtain ⟨w, hw, hu⟩ := exists_stepN_cleared hrest
  have hpc : w.pc = t.pc := by rw [← h.pc, hu, State.prepend_pc]
  have hregisters : w.registers = t.registers := by
    rw [← h.registers, hu, State.prepend_registers]
  rw [State.eq_prepend_cleared hpc hregisters] at hw
  exact ⟨w.out, by rw [hu]; rfl, hw⟩

/-! ### Machines that never halt -/

/-- Any number of steps can be taken from `s`, and none leads to a halted state. -/
def NeverHalts (p : Program) (s : State) : Prop :=
  ∀ n, ∃ t, stepN p n s = .ok t ∧ t.isHalted p = false

lemma neverHalts_iff : NeverHalts p s ↔ haltTimes p s = ∅ := by
  rw [Set.eq_empty_iff_forall_notMem]
  constructor
  · rintro h n ⟨t, ht, hhalt⟩
    obtain ⟨t', ht', hrunning⟩ := h n
    cases ht.symm.trans ht'
    rw [hhalt] at hrunning
    cases hrunning
  · intro h n
    have hrunning {n : Nat} {t : State} (ht : stepN p n s = .ok t) : t.isHalted p = false :=
      Bool.eq_false_iff.2 fun hhalt => h n ⟨t, ht, hhalt⟩
    induction n with
    | zero => exact ⟨s, rfl, hrunning (stepN_zero p s)⟩
    | succ n ih =>
      obtain ⟨t, ht, ht'⟩ := ih
      cases hi : p.fetch t.pc with
      | none => rw [isHalted_iff_fetch.2 hi] at ht'; cases ht'
      | some i =>
        have hnext : stepN p (n + 1) s = .ok (t.apply i) := by
          rw [stepN_add_of_eq_ok 1 ht, stepN_succ_of_step 0 (step_of_fetch hi), stepN_zero]
        exact ⟨t.apply i, hnext, hrunning hnext⟩

lemma Repeats.neverHalts (h : Repeats p s i j t u) : NeverHalts p s := by
  obtain ⟨block, -, hcircle⟩ := h.circle
  refine neverHalts_iff.2 (Set.eq_empty_iff_forall_notMem.2 fun n hn => ?_)
  have hmany := stepN_of_cleared (stepN_mul hcircle (n + 1))
  rw [← stepN_add_of_eq_ok _ h.first] at hmany
  have hle := le_of_stepN_of_mem_haltTimes hn hmany
  have hlt : n + 1 ≤ (n + 1) * (j - i) := Nat.le_mul_of_pos_right _ (Nat.sub_pos_of_lt h.lt)
  omega

instance : Finite Registers := by
  refine Finite.of_injective (fun v : Registers => (v.a, v.b, v.c, v.d)) fun v w h => ?_
  cases v
  cases w
  simpa using h

/-- **A machine that never halts comes back**: there are more numbers of steps than counters and
registers. -/
lemma NeverHalts.exists_repeats (h : NeverHalts p s) : ∃ i j t u, Repeats p s i j t u := by
  choose state hstate hrunning using h
  have hcomes (i j : Nat) (hlt : i < j) (hpc : (state j).pc = (state i).pc)
      (hregisters : (state j).registers = (state i).registers) :
      Repeats p s i j (state i) (state j) :=
    ⟨hlt, hstate i, hstate j, hrunning i, hrunning j, hpc, hregisters⟩
  obtain ⟨i, j, hne, hsame⟩ := Finite.exists_ne_map_eq_of_infinite
    fun n => ((state n).pc, (state n).registers)
  obtain ⟨hpc, hregisters⟩ := Prod.mk.inj hsame
  rcases hne.lt_or_gt with hlt | hgt
  · exact ⟨i, j, _, _, hcomes i j hlt hpc.symm hregisters.symm⟩
  · exact ⟨j, i, _, _, hcomes j i hgt hpc hregisters⟩

/-- **A machine that comes back repeats its output**: behind any number of circles it does what it
did before them. -/
lemma Repeats.periodic (h : Repeats p s i j t u) :
    ∃ block, u.out = t.out ++ block ∧ ∀ k m, ∃ v w tail,
      stepN p (i + m) s = .ok v ∧ v.out = t.out ++ tail ∧
      stepN p (i + k * (j - i) + m) s = .ok w ∧ w.pc = v.pc ∧ w.registers = v.registers ∧
      w.out = t.out ++ (Array.replicate k block).flatten ++ tail := by
  obtain ⟨block, hblock, hcircle⟩ := h.circle
  refine ⟨block, hblock, fun k m => ?_⟩
  obtain ⟨v, hv, -⟩ := h.neverHalts (i + m)
  have hsteps : stepN p m t = .ok v := by rw [← stepN_add_of_eq_ok m h.first, hv]
  obtain ⟨v', hv', rfl⟩ := exists_stepN_cleared hsteps
  have hcircles : stepN p (k * (j - i) + m) t.cleared =
      .ok (v'.prepend (Array.replicate k block).flatten) := by
    rw [stepN_add_of_eq_ok m (stepN_mul hcircle k), stepN_prepend, hv']
    rfl
  have hend := stepN_of_cleared hcircles
  rw [← stepN_add_of_eq_ok _ h.first, ← Nat.add_assoc] at hend
  refine ⟨_, _, v'.out, hv, rfl, hend, rfl, rfl, ?_⟩
  simp [State.prepend]

end FourReg.Machine

namespace FourReg.Session

open Machine

lemma Ran.failed_iff {s : Session} {c : Console} {n : Nat} {o : Outcome} (h : Ran s c n o) :
    (∃ pc cause, o.result = .error (.write pc cause)) ↔
      s.config.muted = false ∧ ∃ k, c.writes ≤ k ∧ k < o.console.writes ∧ c.refusal k ≠ none := by
  constructor
  · rintro ⟨pc, cause, hresult⟩
    have hm : s.config.muted = false := by
      by_contra hmuted
      have hfree : Unhindered s c := .inl (Bool.eq_true_of_not_eq_false hmuted)
      exact hfree.result_ne_write h pc cause hresult
    exact ⟨hm, (h.echoing hm).failed_iff.1 ⟨pc, cause, hresult⟩⟩
  · rintro ⟨hm, hrefused⟩
    exact (h.echoing hm).failed_iff.2 hrefused

lemma exists_ran_of_neverHalts {s : Session} {limit : UInt64} (h : NeverHalts s.program s.state)
    (hmax : s.config.maxSteps = some limit) (c : Console) :
    ∃ n o, Ran s c n o ∧ ((∀ pc cause, o.result ≠ .error (.write pc cause)) →
      o.result = .error (.stepLimit limit)) := by
  obtain ⟨n, o, hr⟩ := exists_ran_of_bound limit.toNat s c (.inr ⟨limit, hmax, by omega⟩)
  refine ⟨n, o, hr, fun hwrite => ?_⟩
  rcases hr.ends with ⟨-, hnext⟩ | ⟨l, he, -, hl⟩ | ⟨pc, cause, he⟩
  · have hmem := hr.mem_haltTimes hnext
    rw [neverHalts_iff.1 h] at hmem
    exact hmem.elim
  · obtain rfl : l = limit := Option.some.inj ((hr.of_exhausted hl).1.symm.trans hmax)
    exact he
  · exact absurd he (hwrite pc cause)

/-- **A machine never halts if and only if it comes back to the same counter and registers.** Then
its output repeats, and it uses up every limit: a run ends with a write error if one of its own
writes has been refused, and with the limit in any other case. -/
theorem never_halts_iff_repeats (p : Program) (s : State) :
    (NeverHalts p s ↔ ∃ i j t u, Repeats p s i j t u) ∧
    (NeverHalts p s → ∀ (config : Config) (c : Console) limit, config.maxSteps = some limit →
      ∃ o, Session.run ⟨config, p, s, 0⟩ c = some o ∧
        ((∃ pc cause, o.result = .error (.write pc cause)) ↔
          config.muted = false ∧ ∃ k, c.writes ≤ k ∧ k < o.console.writes ∧ c.refusal k ≠ none) ∧
        ((∀ pc cause, o.result ≠ .error (.write pc cause)) →
          o.result = .error (.stepLimit limit))) ∧
    ∀ i j t u, Repeats p s i j t u → ∃ block, u.out = t.out ++ block ∧ ∀ k m, ∃ v w tail,
      stepN p (i + m) s = .ok v ∧ v.out = t.out ++ tail ∧
      stepN p (i + k * (j - i) + m) s = .ok w ∧ w.pc = v.pc ∧ w.registers = v.registers ∧
      w.out = t.out ++ (Array.replicate k block).flatten ++ tail := by
  refine ⟨⟨fun h => h.exists_repeats, ?_⟩, ?_, fun i j t u h => h.periodic⟩
  · rintro ⟨i, j, t, u, h⟩
    exact h.neverHalts
  · intro h config c limit hmax
    obtain ⟨n, o, hr, hlimit⟩ := exists_ran_of_neverHalts (s := ⟨config, p, s, 0⟩) h hmax c
    exact ⟨o, hr.run_eq, hr.failed_iff, hlimit⟩

/-- A value that is put out again and again, under a limit of five and after three circles. -/
theorem never_halts_iff_repeats_loop :
    let loop : Program := #[.output (.literal 7), .jumpIfNonZero (.literal 1) (.literal (-1))]
    NeverHalts loop {} ∧
    (∃ o, (start { maxSteps := some 5 } loop).run .working = some o ∧
      o.result = .error (.stepLimit 5)) ∧
    ∃ w, stepN loop 6 {} = .ok w ∧ w.out = #[7, 7, 7] := by
  intro loop
  obtain ⟨hiff, hlimit, hperiodic⟩ := never_halts_iff_repeats loop {}
  have hrepeats : Repeats loop {} 0 2 {} { out := #[7] } :=
    ⟨by decide, rfl, rfl, by decide, by decide, rfl, rfl⟩
  have hnever := hiff.2 ⟨_, _, _, _, hrepeats⟩
  refine ⟨hnever, ?_, ?_⟩
  · obtain ⟨o, hrun, hfailed, he⟩ := hlimit hnever { maxSteps := some 5 } .working 5 rfl
    refine ⟨o, hrun, he fun pc cause hwrite => ?_⟩
    obtain ⟨-, k, -, -, hrefused⟩ := hfailed.1 ⟨pc, cause, hwrite⟩
    exact hrefused rfl
  · obtain ⟨block, hblock, hcircles⟩ := hperiodic _ _ _ _ hrepeats
    obtain rfl : #[7] = block := by simpa using hblock
    obtain ⟨v, w, tail, hv, htail, hw, -, -, hout⟩ := hcircles 3 0
    cases hv
    obtain rfl : tail = #[] := by simpa using htail.symm
    exact ⟨w, hw, hout⟩

/-- The same on a device without space: the first value cannot be written, and the limit is not
reached. -/
theorem limit_needs_accepted_writes :
    let loop : Program := #[.output (.literal 7), .jumpIfNonZero (.literal 1) (.literal (-1))]
    Repeats loop {} 0 2 {} { out := #[7] } ∧
    ∃ o, (start { maxSteps := some 5 } loop).run .full = some o ∧
      o.result = .error (.write 0 .noSpace) ∧ o.result ≠ .error (.stepLimit 5) := by
  intro loop
  have hran : Ran (start { maxSteps := some 5 } loop) .full 1 _ :=
    .failed (by decide) (by decide) rfl
  exact ⟨⟨by decide, rfl, rfl, by decide, by decide, rfl, rfl⟩, _, hran.run_eq, rfl, nofun⟩

end FourReg.Session
