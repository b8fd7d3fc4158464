import FourReg.Session
import FourReg.Proofs.Steps

/-!
What a session does: one instruction at a time, and in a run.

`exec` has four ways to end and `run` is the repetition of `exec`, so each is taken apart once
here. A run is described by the rules of `Ran`, which also count the instructions it executes.
-/

namespace FourReg.Session

open Machine

variable {s : Session} {c : Console}

/-! ### One instruction -/

/-- The session behind an instruction, which has been executed and counted. -/
def after (s : Session) (i : Instruction) : Session :=
  { s with state := s.state.apply i, steps := s.steps + 1 }

@[simp] lemma after_config (s : Session) (i : Instruction) : (s.after i).config = s.config := rfl
@[simp] lemma after_program (s : Session) (i : Instruction) : (s.after i).program = s.program := rfl
@[simp] lemma after_state (s : Session) (i : Instruction) :
    (s.after i).state = s.state.apply i := rfl
@[simp] lemma after_steps (s : Session) (i : Instruction) : (s.after i).steps = s.steps + 1 := rfl

def traced (s : Session) (c : Console) : Console :=
  if s.config.trace then c.report (Trace.text s.program s.state) else c

@[simp] lemma traced_refusal (s : Session) (c : Console) : (s.traced c).refusal = c.refusal := by
  unfold traced; split <;> rfl

@[simp] lemma traced_writes (s : Session) (c : Console) : (s.traced c).writes = c.writes := by
  unfold traced; split <;> rfl

@[simp] lemma traced_out (s : Session) (c : Console) : (s.traced c).out = c.out := by
  unfold traced; split <;> rfl

/-- The value that an instruction writes to standard output. -/
def echoed? (s : Session) (i : Instruction) : Option Int64 :=
  if s.config.muted then none else i.output? s.state.registers

lemma exec_of_halted (h : s.program.fetch s.state.pc = none) (c : Console) :
    s.exec c = ⟨.error (.outOfRange ⟨s.state.pc, s.program.size⟩), s, s.traced c⟩ := by
  simp only [exec, h]
  rfl

lemma exec_of_silent {i : Instruction} (h : s.program.fetch s.state.pc = some i)
    (hv : s.echoed? i = none) (c : Console) : s.exec c = ⟨.ok (), s.after i, s.traced c⟩ := by
  unfold echoed? at hv
  simp only [exec, h, hv]
  rfl

def written (s : Session) (c : Console) (v : Int64) : Console :=
  { s.traced c with writes := c.writes + 1, out := c.out ++ echo v }

lemma exec_of_written {i : Instruction} {v : Int64} (h : s.program.fetch s.state.pc = some i)
    (hv : s.echoed? i = some v) (hc : c.refusal c.writes = none) :
    s.exec c = ⟨.ok (), s.after i, s.written c v⟩ := by
  have hwrite : (s.traced c).write (echo v) = (.ok (), s.written c v) := by
    simp [Console.write, hc, written]
  unfold echoed? at hv
  unfold traced at hwrite
  simp only [exec, h, hv, hwrite]
  rfl

lemma exec_of_refused {i : Instruction} {v : Int64} {e : SystemError}
    (h : s.program.fetch s.state.pc = some i) (hv : s.echoed? i = some v)
    (hc : c.refusal c.writes = some e) :
    s.exec c = ⟨.error (.write s.state.pc e), s.after i,
      { s.traced c with writes := c.writes + 1 }⟩ := by
  have hwrite : (s.traced c).write (echo v)
      = (.error e, { s.traced c with writes := c.writes + 1 }) := by
    simp [Console.write, hc]
  unfold echoed? at hv
  unfold traced at hwrite ⊢
  simp only [exec, h, hv, hwrite]
  rfl

/-- **The four ends of `exec`**: there is no instruction, or it is executed and writes nothing,
writes a value, or cannot write it. -/
theorem exec_cases (s : Session) (c : Console) :
    (s.program.fetch s.state.pc = none ∧
      s.exec c = ⟨.error (.outOfRange ⟨s.state.pc, s.program.size⟩), s, s.traced c⟩) ∨
    ∃ i, s.program.fetch s.state.pc = some i ∧
      ((s.echoed? i = none ∧ s.exec c = ⟨.ok (), s.after i, s.traced c⟩) ∨
      ∃ v, s.echoed? i = some v ∧
        ((c.refusal c.writes = none ∧ s.exec c = ⟨.ok (), s.after i, s.written c v⟩) ∨
        ∃ e, c.refusal c.writes = some e ∧
          s.exec c = ⟨.error (.write s.state.pc e), s.after i,
            { s.traced c with writes := c.writes + 1 }⟩)) := by
  cases h : s.program.fetch s.state.pc with
  | none => exact .inl ⟨rfl, exec_of_halted h c⟩
  | some i =>
    refine .inr ⟨i, rfl, ?_⟩
    cases hv : s.echoed? i with
    | none => exact .inl ⟨rfl, exec_of_silent h hv c⟩
    | some v =>
      refine .inr ⟨v, rfl, ?_⟩
      cases hc : c.refusal c.writes with
      | none => exact .inl ⟨rfl, exec_of_written h hv hc⟩
      | some e => exact .inr ⟨e, rfl, exec_of_refused h hv hc⟩

/-- Whether or not its output can be written, an instruction is executed. -/
lemma session_exec {i : Instruction} (h : s.program.fetch s.state.pc = some i) (c : Console) :
    (s.exec c).session = s.after i := by
  rcases exec_cases s c with ⟨h', -⟩ | ⟨j, hj, ⟨-, he⟩ | ⟨v, -, ⟨-, he⟩ | ⟨e, -, he⟩⟩⟩
  · rw [h] at h'; cases h'
  all_goals
    rw [h] at hj
    cases hj
    rw [he]

lemma error_of_exec {e : Error} (h : (s.exec c).result = .error e) :
    (s.program.fetch s.state.pc = none ∧ e = .outOfRange ⟨s.state.pc, s.program.size⟩) ∨
    (s.program.fetch s.state.pc ≠ none ∧ ∃ cause, e = .write s.state.pc cause) := by
  rcases exec_cases s c with ⟨hf, he⟩ | ⟨i, hi, ⟨-, he⟩ | ⟨v, -, ⟨-, he⟩ | ⟨cause, -, he⟩⟩⟩
  · rw [he] at h
    exact .inl ⟨hf, (Except.error.inj h).symm⟩
  · rw [he] at h; cases h
  · rw [he] at h; cases h
  · rw [he] at h
    exact .inr ⟨by simp [hi], cause, (Except.error.inj h).symm⟩

/-- `t` is `s` after `n` more instructions. -/
structure Advances (n : Nat) (s t : Session) : Prop where
  config : t.config = s.config
  program : t.program = s.program
  steps : t.steps = s.steps + UInt64.ofNat n
  state : stepN s.program n s.state = .ok t.state

lemma Advances.refl (s : Session) : Advances 0 s s := ⟨rfl, rfl, (UInt64.add_zero _).symm, rfl⟩

lemma Advances.trans {m n : Nat} {s t u : Session} (h₁ : Advances m s t) (h₂ : Advances n t u) :
    Advances (m + n) s u := by
  refine ⟨h₂.config.trans h₁.config, h₂.program.trans h₁.program, ?_, ?_⟩
  · rw [h₂.steps, h₁.steps, UInt64.ofNat_add, UInt64.add_assoc]
  · rw [stepN_add_of_eq_ok n h₁.state, ← h₁.program, h₂.state]

/-- The count of instructions is exact as long as it fits. -/
lemma Advances.toNat_steps {n : Nat} {t : Session} (h : Advances n s t)
    (hn : s.steps.toNat + n < UInt64.size) : t.steps.toNat = s.steps.toNat + n := by
  calc t.steps.toNat = (s.steps.toNat + n) % 2 ^ 64 := by
        rw [h.steps, UInt64.toNat_add, UInt64.toNat_ofNat', Nat.add_mod_mod]
    _ = s.steps.toNat + n := Nat.mod_eq_of_lt hn

/-! ### Runs -/

lemma exists_next?_of_fetch {i : Instruction} (h : s.program.fetch s.state.pc = some i) :
    ∃ n : Nat, s.next? = some n ∧ s.state.pc.toInt = n ∧ s.program[n]? = some i := by
  obtain ⟨n, hn, hi⟩ := Program.fetch_eq_some_iff.1 h
  have hcontains : s.program.contains s.state.pc = true := by rw [Program.contains, h]; rfl
  refine ⟨n, ?_, hn, hi⟩
  rw [next?, if_pos hcontains]
  exact index?_eq_some_iff.2 hn

lemma next?_eq_none_iff : s.next? = none ↔ s.program.fetch s.state.pc = none := by
  cases h : s.program.fetch s.state.pc with
  | none => simp [next?, Program.contains_eq_false_iff.2 h]
  | some i =>
    obtain ⟨n, hnext, -⟩ := exists_next?_of_fetch h
    simp [hnext]

lemma next?_eq_none_iff_isHalted : s.next? = none ↔ s.state.isHalted s.program = true := by
  rw [next?_eq_none_iff, isHalted_iff_fetch]

lemma exists_fetch_of_next? (h : s.next? ≠ none) : ∃ i, s.program.fetch s.state.pc = some i :=
  Option.ne_none_iff_exists'.1 (mt next?_eq_none_iff.2 h)

lemma advances_exec (h : s.next? ≠ none) (c : Console) : Advances 1 s (s.exec c).session := by
  obtain ⟨i, hi⟩ := exists_fetch_of_next? h
  rw [session_exec hi c]
  exact ⟨rfl, rfl, rfl, by rw [stepN_succ_of_step 0 (step_of_fetch hi), stepN_zero, after_state]⟩

lemma advances_of_exec {r : Except Error Unit} {t : Session} {d : Console} (h : s.next? ≠ none)
    (he : s.exec c = ⟨r, t, d⟩) : Advances 1 s t := by
  have hadv := advances_exec h c
  rwa [he] at hadv

lemma exhausted?_eq_some_iff {limit : UInt64} :
    s.exhausted? = some limit ↔ s.config.maxSteps = some limit ∧ limit ≤ s.steps := by
  simp [exhausted?, Option.filter_eq_some_iff]

lemma exhausted?_eq_none_iff :
    s.exhausted? = none ↔ ∀ limit, s.config.maxSteps = some limit → s.steps < limit := by
  simp [exhausted?, Option.filter_eq_none_iff]

/-- `Ran s c n o`: a run of `s` on the console `c` executes `n` instructions and ends with `o`. -/
inductive Ran : Session → Console → Nat → Outcome → Prop
  | halted {s : Session} {c : Console} (h : s.next? = none) : Ran s c 0 ⟨.ok (), s, c⟩
  | exhausted {s : Session} {c : Console} {limit : UInt64} (h : s.next? ≠ none)
      (hl : s.exhausted? = some limit) : Ran s c 0 ⟨.error (.stepLimit limit), s, c⟩
  | failed {s t : Session} {c d : Console} {e : Error} (h : s.next? ≠ none)
      (hl : s.exhausted? = none) (he : s.exec c = ⟨.error e, t, d⟩) : Ran s c 1 ⟨.error e, t, d⟩
  | more {s t : Session} {c d : Console} {n : Nat} {o : Outcome} (h : s.next? ≠ none)
      (hl : s.exhausted? = none) (he : s.exec c = ⟨.ok (), t, d⟩) (hr : Ran t d n o) :
      Ran s c (n + 1) o

lemma turn_of_halted (h : s.next? = none) (c : Console) : s.turn c = .stop ⟨.ok (), s, c⟩ := by
  rw [turn, h]
  rfl

lemma turn_of_exhausted {limit : UInt64} (h : s.next? ≠ none) (hl : s.exhausted? = some limit)
    (c : Console) : s.turn c = .stop ⟨.error (.stepLimit limit), s, c⟩ := by
  rw [turn, if_neg (by simpa using h), hl]

lemma turn_of_failed {t : Session} {d : Console} {e : Error} (h : s.next? ≠ none)
    (hl : s.exhausted? = none) (he : s.exec c = ⟨.error e, t, d⟩) :
    s.turn c = .stop ⟨.error e, t, d⟩ := by
  rw [turn, if_neg (by simpa using h), hl, he]

lemma turn_of_exec {t : Session} {d : Console} (h : s.next? ≠ none) (hl : s.exhausted? = none)
    (he : s.exec c = ⟨.ok (), t, d⟩) : s.turn c = .go t d := by
  rw [turn, if_neg (by simpa using h), hl, he]

/-- **Soundness**: a run that ends follows the rules. -/
theorem exists_ran_of_run {o : Outcome} (h : s.run c = some o) : ∃ n, Ran s c n o := by
  refine run.partial_correctness (fun s c o => ∃ n, Ran s c n o) ?_ s c o h
  intro rec ih s c o h
  by_cases hnext : s.next? = none
  · rw [turn_of_halted hnext] at h
    cases h
    exact ⟨0, .halted hnext⟩
  cases hl : s.exhausted? with
  | some limit =>
    rw [turn_of_exhausted hnext hl] at h
    cases h
    exact ⟨0, .exhausted hnext hl⟩
  | none =>
    rcases he : s.exec c with ⟨_ | ⟨⟩, t, d⟩
    · rw [turn_of_failed hnext hl he] at h
      cases h
      exact ⟨1, .failed hnext hl he⟩
    · rw [turn_of_exec hnext hl he] at h
      obtain ⟨n, hr⟩ := ih t d o h
      exact ⟨n + 1, .more hnext hl he hr⟩

/-- **Completeness**: what the rules allow is what the run gives. -/
theorem Ran.run_eq {n : Nat} {o : Outcome} (h : Ran s c n o) : s.run c = some o := by
  induction h with
  | halted h => rw [run, turn_of_halted h]
  | exhausted h hl => rw [run, turn_of_exhausted h hl]
  | failed h hl he => rw [run, turn_of_failed h hl he]
  | more h hl he _ ih => rw [run, turn_of_exec h hl he]; exact ih

/-- A run is as many steps as the instructions it executes. -/
lemma Ran.advances {n : Nat} {o : Outcome} (h : Ran s c n o) : Advances n s o.session := by
  induction h with
  | halted h => exact .refl _
  | exhausted h hl => exact .refl _
  | failed h hl he => exact advances_of_exec h he
  | more h hl he _ ih =>
    rw [Nat.add_comm]
    exact (advances_of_exec h he).trans ih

/-- What each instruction preserves, a run preserves. -/
lemma Ran.preserves {P : Session → Console → Prop}
    (hexec : ∀ s c, P s c → P (s.exec c).session (s.exec c).console) {n : Nat} {o : Outcome}
    (h : Ran s c n o) (hP : P s c) : P o.session o.console := by
  induction h with
  | halted | exhausted => exact hP
  | failed _ _ he =>
    have hend := hexec _ _ hP
    rwa [he] at hend
  | more _ _ he _ ih =>
    have hnext := hexec _ _ hP
    rw [he] at hnext
    exact ih hnext

/-- **The three ends of a run**: the program has halted, the limit is used up before that, or a
write has failed. -/
lemma Ran.ends {n : Nat} {o : Outcome} (h : Ran s c n o) :
    (o.result = .ok () ∧ o.session.next? = none) ∨
    (∃ limit, o.result = .error (.stepLimit limit) ∧ o.session.next? ≠ none ∧
      o.session.exhausted? = some limit) ∨
    ∃ pc cause, o.result = .error (.write pc cause) := by
  induction h with
  | halted h => exact .inl ⟨rfl, h⟩
  | exhausted h hl => exact .inr (.inl ⟨_, rfl, h, hl⟩)
  | failed h hl hx =>
    have hresult := congrArg Outcome.result hx
    rcases error_of_exec hresult with ⟨hf, -⟩ | ⟨-, cause, rfl⟩
    · exact absurd (next?_eq_none_iff.2 hf) h
    · exact .inr (.inr ⟨_, cause, rfl⟩)
  | more h hl hx _ ih => exact ih

end FourReg.Session
