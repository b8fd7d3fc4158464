import FourReg.Proofs.Runs

/-!
How many instructions a run executes.

A run ends after as many steps as its machine takes to halt, unless the limit is lower. It ends in
any case if there is a limit, and a second run right after it changes nothing.
-/

namespace FourReg.Session

open Machine

variable {s : Session} {c : Console} {o : Outcome} {n : Nat}

/-! ### Writes that succeed -/

/-- No value that the session writes is refused. -/
def Unhindered (s : Session) (c : Console) : Prop :=
  s.config.muted = true ∨ ∀ n, c.writes ≤ n → c.refusal n = none

lemma Unhindered.traced (h : Unhindered s c) (i : Instruction) :
    Unhindered (s.after i) (s.traced c) := by
  simpa [Unhindered] using h

lemma Unhindered.written (h : Unhindered s c) (i : Instruction) (v : Int64) :
    Unhindered (s.after i) (s.written c v) := by
  refine h.imp id fun hc n hn => ?_
  rw [Session.written, traced_refusal]
  exact hc n (Nat.le_of_succ_le hn)

lemma Unhindered.refusal_eq_none {i : Instruction} {v : Int64} (h : Unhindered s c)
    (hv : s.echoed? i = some v) : c.refusal c.writes = none := by
  rcases h with hmuted | hc
  · simp [echoed?, hmuted] at hv
  · exact hc _ le_rfl

lemma Unhindered.exec (h : Unhindered s c) (hnext : s.next? ≠ none) :
    (s.exec c).result = .ok () ∧ Unhindered (s.exec c).session (s.exec c).console := by
  rcases exec_cases s c with ⟨hf, -⟩ | ⟨i, -, ⟨-, he⟩ | ⟨v, hv, ⟨-, he⟩ | ⟨e, hc, -⟩⟩⟩
  · exact absurd (next?_eq_none_iff.2 hf) hnext
  · rw [he]; exact ⟨rfl, h.traced i⟩
  · rw [he]; exact ⟨rfl, h.written i v⟩
  · rw [h.refusal_eq_none hv] at hc; cases hc

lemma Unhindered.result_ne_write (h : Unhindered s c) (hr : Ran s c n o) (pc : Int64)
    (cause : SystemError) : o.result ≠ .error (.write pc cause) := by
  induction hr with
  | halted hn => nofun
  | exhausted hn hl => nofun
  | failed hn hl he =>
    have hresult := (h.exec hn).1
    rw [he] at hresult
    cases hresult
  | more hn hl he _ ih =>
    have hrest := (h.exec hn).2
    rw [he] at hrest
    exact ih hrest

/-! ### The limit -/

/-- The limit leaves room for `n` more instructions. A run of none asks for no room. -/
def Allows (s : Session) (n : Nat) : Prop :=
  ∀ limit, s.config.maxSteps = some limit → n = 0 ∨ s.steps.toNat + n ≤ limit.toNat

lemma toNat_steps_of_lt {t : Session} {limit : UInt64} (h : Advances 1 s t)
    (hl : s.steps < limit) : t.steps.toNat = s.steps.toNat + 1 := by
  have hlt := UInt64.lt_iff_toNat_lt.1 hl
  have hsize := limit.toNat_lt_size
  exact h.toNat_steps (by omega)

lemma Ran.allows (h : Ran s c n o) : s.Allows n := by
  induction h with
  | halted h => exact fun _ _ => .inl rfl
  | exhausted h hl => exact fun _ _ => .inl rfl
  | failed h hl he =>
    intro limit hmax
    exact .inr (UInt64.lt_iff_toNat_lt.1 (exhausted?_eq_none_iff.1 hl limit hmax))
  | more h hl he _ ih =>
    intro limit hmax
    have hone := advances_of_exec h he
    have hlt := exhausted?_eq_none_iff.1 hl limit hmax
    have hsteps := toNat_steps_of_lt hone hlt
    have hlt' := UInt64.lt_iff_toNat_lt.1 hlt
    have hrest := ih limit (hone.config ▸ hmax)
    omega

/-- **Under a limit the counter does not overflow.** -/
lemma Ran.toNat_steps {limit : UInt64} (h : Ran s c n o) (hmax : s.config.maxSteps = some limit) :
    o.session.steps.toNat = s.steps.toNat + n := by
  have hsteps := s.steps.toNat_lt_size
  have hlimit := limit.toNat_lt_size
  have hroom := h.allows limit hmax
  exact h.advances.toNat_steps (by omega)

/-- **A run ends** if its machine halts or if there is a limit: `k` is what is left of either. -/
lemma exists_ran_of_bound (k : Nat) (s : Session) (c : Console)
    (h : k ∈ haltTimes s.program s.state ∨
      ∃ limit, s.config.maxSteps = some limit ∧ limit.toNat ≤ s.steps.toNat + k) :
    ∃ n o, Ran s c n o := by
  induction k generalizing s c with
  | zero =>
    by_cases hnext : s.next? = none
    · exact ⟨_, _, .halted hnext⟩
    rcases h with ⟨t, ht, hhalt⟩ | ⟨limit, hmax, hle⟩
    · cases ht
      exact absurd (next?_eq_none_iff_isHalted.2 hhalt) hnext
    · exact ⟨_, _, .exhausted hnext
        (exhausted?_eq_some_iff.2 ⟨hmax, UInt64.le_iff_toNat_le.2 hle⟩)⟩
  | succ k ih =>
    by_cases hnext : s.next? = none
    · exact ⟨_, _, .halted hnext⟩
    cases hl : s.exhausted? with
    | some limit => exact ⟨_, _, .exhausted hnext hl⟩
    | none =>
      rcases he : s.exec c with ⟨_ | ⟨⟩, t, d⟩
      · exact ⟨_, _, .failed hnext hl he⟩
      -- one instruction less is left
      have hone := advances_of_exec hnext he
      obtain ⟨n, o, hr⟩ := ih t d <| by
        refine h.imp (fun hhalt => ?_) fun ⟨limit, hmax, hle⟩ => ?_
        · obtain ⟨u, hu, hend⟩ := hhalt
          rw [Nat.add_comm, stepN_add_of_eq_ok k hone.state] at hu
          rw [hone.program]
          exact ⟨u, hu, hend⟩
        · have hlt := exhausted?_eq_none_iff.1 hl limit hmax
          have hsteps := toNat_steps_of_lt hone hlt
          exact ⟨limit, hone.config ▸ hmax, by omega⟩
      exact ⟨n + 1, o, .more hnext hl he hr⟩

/-! ### How a run ends -/

lemma Ran.mem_haltTimes (h : Ran s c n o) (hnext : o.session.next? = none) :
    n ∈ haltTimes s.program s.state := by
  rw [next?_eq_none_iff_isHalted, h.advances.program] at hnext
  exact ⟨o.session.state, h.advances.state, hnext⟩

lemma Ran.lt_of_mem_haltTimes {k : Nat} (h : Ran s c n o) (hnext : o.session.next? ≠ none)
    (hk : k ∈ haltTimes s.program s.state) : n < k := by
  have hle := le_of_stepN_of_mem_haltTimes hk h.advances.state
  refine lt_of_le_of_ne hle ?_
  rintro rfl
  obtain ⟨t, ht, hhalt⟩ := hk
  obtain rfl : o.session.state = t := Except.ok.inj (h.advances.state.symm.trans ht)
  rw [← h.advances.program, ← next?_eq_none_iff_isHalted] at hhalt
  exact hnext hhalt

lemma Ran.of_exhausted {limit : UInt64} (h : Ran s c n o) (hl : o.session.exhausted? = some limit) :
    s.config.maxSteps = some limit ∧ limit.toNat ≤ s.steps.toNat + n := by
  obtain ⟨hmax, hle⟩ := exhausted?_eq_some_iff.1 hl
  rw [h.advances.config] at hmax
  rw [UInt64.le_iff_toNat_le, h.toNat_steps hmax] at hle
  exact ⟨hmax, hle⟩

lemma ran_of_allows (h : Unhindered s c) (hn : IsLeast (haltTimes s.program s.state) n)
    (hroom : s.Allows n) : ∃ o, Ran s c n o ∧ o.result = .ok () := by
  obtain ⟨m, o, hr⟩ := exists_ran_of_bound n s c (.inl hn.1)
  rcases hr.ends with ⟨he, hnext⟩ | ⟨limit, he, hnext, hl⟩ | ⟨pc, cause, he⟩
  · obtain rfl : m = n := (isLeast_haltTimes (hr.mem_haltTimes hnext)).unique hn
    exact ⟨o, hr, he⟩
  · -- there would have been room for another instruction
    obtain ⟨hmax, hle⟩ := hr.of_exhausted hl
    have hlt := hr.lt_of_mem_haltTimes hnext hn.1
    have hle' := hroom limit hmax
    omega
  · exact absurd he (h.result_ne_write hr pc cause)

lemma ran_of_not_allows {limit : UInt64} (h : Unhindered s c)
    (hmax : s.config.maxSteps = some limit)
    (hroom : ¬∃ n, IsLeast (haltTimes s.program s.state) n ∧ s.Allows n) :
    ∃ o, Ran s c (limit.toNat - s.steps.toNat) o ∧ o.result = .error (.stepLimit limit) := by
  obtain ⟨m, o, hr⟩ := exists_ran_of_bound limit.toNat s c (.inr ⟨limit, hmax, by omega⟩)
  rcases hr.ends with ⟨he, hnext⟩ | ⟨l, he, hnext, hl⟩ | ⟨pc, cause, he⟩
  · exact absurd ⟨m, isLeast_haltTimes (hr.mem_haltTimes hnext), hr.allows⟩ hroom
  · obtain ⟨hmax', hle⟩ := hr.of_exhausted hl
    obtain rfl : l = limit := Option.some.inj (hmax'.symm.trans hmax)
    have hle' := hr.allows l hmax
    obtain rfl : m = l.toNat - s.steps.toNat := by omega
    exact ⟨o, hr, he⟩
  · exact absurd he (h.result_ne_write hr pc cause)

/-- A run that no write has broken off has nothing left to do. -/
lemma Ran.again (h : Ran s c n o) (hw : ∀ pc cause, o.result ≠ .error (.write pc cause)) :
    Ran o.session o.console 0 o := by
  obtain ⟨r, t, d⟩ := o
  rcases h.ends with ⟨rfl, hnext⟩ | ⟨limit, rfl, hnext, hl⟩ | ⟨pc, cause, he⟩
  · exact .halted hnext
  · exact .exhausted hnext hl
  · exact absurd he (hw pc cause)

/-- **A run executes the instructions up to a halted state, or up to the limit.** -/
theorem run_executes (h : Unhindered s c) :
    (∀ n, IsLeast (haltTimes s.program s.state) n → s.Allows n →
      ∃ o, s.run c = some o ∧ o.result = .ok () ∧ Advances n s o.session ∧
        (s.steps.toNat + n < UInt64.size → o.session.steps.toNat = s.steps.toNat + n)) ∧
    (∀ limit, s.config.maxSteps = some limit →
      (¬∃ n, IsLeast (haltTimes s.program s.state) n ∧ s.Allows n) →
      ∃ o, s.run c = some o ∧ o.result = .error (.stepLimit limit) ∧
        Advances (limit.toNat - s.steps.toNat) s o.session ∧
        o.session.steps.toNat = max s.steps.toNat limit.toNat) ∧
    (∀ limit, s.config.maxSteps = some limit →
      ∃ n o, Ran s c n o ∧ s.run c = some o ∧ o.session.steps.toNat = s.steps.toNat + n) ∧
    (s.config.maxSteps = none → haltTimes s.program s.state = ∅ → s.run c = none) ∧
    ∀ o, s.run c = some o → o.session.run o.console = some o := by
  refine ⟨?_, ?_, ?_, ?_, ?_⟩
  · intro n hn hroom
    obtain ⟨o, hr, he⟩ := ran_of_allows h hn hroom
    exact ⟨o, hr.run_eq, he, hr.advances, hr.advances.toNat_steps⟩
  · intro limit hmax hroom
    obtain ⟨o, hr, he⟩ := ran_of_not_allows h hmax hroom
    have hsteps := hr.toNat_steps hmax
    exact ⟨o, hr.run_eq, he, hr.advances, by omega⟩
  · intro limit hmax
    obtain ⟨n, o, hr⟩ := exists_ran_of_bound limit.toNat s c (.inr ⟨limit, hmax, by omega⟩)
    exact ⟨n, o, hr, hr.run_eq, hr.toNat_steps hmax⟩
  · intro hmax hempty
    by_contra hrun
    obtain ⟨o, ho⟩ := Option.ne_none_iff_exists'.1 hrun
    obtain ⟨n, hr⟩ := exists_ran_of_run ho
    rcases hr.ends with ⟨-, hnext⟩ | ⟨limit, -, -, hl⟩ | ⟨pc, cause, he⟩
    · have hmem := hr.mem_haltTimes hnext
      rw [hempty] at hmem
      exact hmem
    · rw [(hr.of_exhausted hl).1] at hmax; cases hmax
    · exact h.result_ne_write hr pc cause he
  · intro o ho
    obtain ⟨n, hr⟩ := exists_ran_of_run ho
    exact (hr.again (h.result_ne_write hr)).run_eq

/-- Two instructions under a limit of two, and under a limit of one. -/
theorem run_executes_two :
    (∃ o, (start { maxSteps := some 2 } #[.output (.literal 7), .output (.literal 8)]).run .working
        = some o ∧ o.result = .ok () ∧ o.session.steps.toNat = 2) ∧
    ∃ o, (start { maxSteps := some 1 } #[.output (.literal 7), .output (.literal 8)]).run .working
        = some o ∧ o.result = .error (.stepLimit 1) ∧ o.session.steps.toNat = 1 := by
  have hfree (limit : UInt64) : Unhindered
      (start { maxSteps := some limit } #[.output (.literal 7), .output (.literal 8)]) .working :=
    .inr fun _ _ => rfl
  have htwo : IsLeast (haltTimes #[.output (.literal 7), .output (.literal 8)] {}) 2 :=
    isLeast_haltTimes ⟨_, rfl, by decide⟩
  constructor
  · obtain ⟨o, hrun, he, -, hsteps⟩ := (run_executes (hfree 2)).1 2 htwo (by
      rintro limit ⟨⟩
      exact .inr (by decide))
    exact ⟨o, hrun, he, hsteps (by decide)⟩
  · obtain ⟨o, hrun, he, -, hsteps⟩ := (run_executes (hfree 1)).2.1 1 rfl (by
      rintro ⟨n, hn, hroom⟩
      obtain rfl : n = 2 := hn.unique htwo
      exact absurd (hroom 1 rfl) (by decide))
    exact ⟨o, hrun, he, hsteps⟩

end FourReg.Session
