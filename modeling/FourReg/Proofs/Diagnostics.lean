import FourReg.Proofs.Echo
import FourReg.Proofs.Limits
import FourReg.Proofs.Loading

/-!
Diagnostics do not change what a session does.

Two sessions that differ in listing, trace and muting go through the same states, whatever is asked
of them. What they write to standard output depends on muting alone, and what they write to standard
error on the trace.
-/

namespace FourReg

def Console.emptied (c : Console) : Console := { c with out := "", err := "" }

namespace Session

open Machine

variable {s s' : Session} {c c' : Console} {o : Outcome} {op : Operation} {n : Nat}

/-! ### What a session writes -/

/-- The trace of the next `n` instructions. Where there is none left, that is shown, and nothing
follows. -/
def traceOf (p : Program) : Nat → State → String
  | 0, _ => ""
  | n + 1, s =>
    Trace.text p s ++
      match p.fetch s.pc with
      | none => ""
      | some i => traceOf p n (s.apply i)

/-- What the session adds to standard error with the next `n` instructions. -/
def reported (s : Session) (n : Nat) : String :=
  if s.config.trace then traceOf s.program n s.state else ""

lemma reported_zero (s : Session) : s.reported 0 = "" := by
  simp [reported, traceOf]

lemma err_traced (s : Session) (c : Console) : (s.traced c).err = c.err ++ s.reported 1 := by
  have hone : traceOf s.program 1 s.state = Trace.text s.program s.state := by
    rw [traceOf]
    cases s.program.fetch s.state.pc <;> simp [traceOf]
  unfold traced reported
  split
  · rw [hone, Console.report]
  · rw [String.append_empty]

lemma err_exec (s : Session) (c : Console) : (s.exec c).console.err = c.err ++ s.reported 1 := by
  rw [← err_traced]
  rcases exec_cases s c with ⟨-, he⟩ | ⟨i, -, ⟨-, he⟩ | ⟨v, -, ⟨-, he⟩ | ⟨cause, -, he⟩⟩⟩
  all_goals exact congrArg (fun o => o.console.err) he

lemma reported_succ (h : s.next? ≠ none) (c : Console) (n : Nat) :
    s.reported (n + 1) = s.reported 1 ++ (s.exec c).session.reported n := by
  obtain ⟨i, hi⟩ := exists_fetch_of_next? h
  rw [session_exec hi c, reported, reported, reported, after_config, after_program, after_state]
  split
  · simp only [traceOf, hi, String.append_empty]
  · simp

lemma Ran.err_eq (h : Ran s c n o) : o.console.err = c.err ++ s.reported n := by
  induction h with
  | halted | exhausted => rw [reported_zero, String.append_empty]
  | @failed s t c d e h hl he =>
    have herr := err_exec s c
    rwa [he] at herr
  | @more s t c d n o h hl he _ ih =>
    have herr := err_exec s c
    have hsucc := reported_succ h c n
    rw [he] at herr hsucc
    rw [ih, herr, hsucc, String.append_assoc]

lemma out_exec_of_muted (hm : s.config.muted = true) (c : Console) :
    (s.exec c).console.out = c.out := by
  have hsilent (i : Instruction) : s.echoed? i = none := by simp [echoed?, hm]
  rcases exec_cases s c with ⟨-, he⟩ | ⟨i, -, ⟨-, he⟩ | ⟨v, hv, -⟩⟩
  · rw [he, traced_out]
  · rw [he, traced_out]
  · rw [hsilent] at hv
    cases hv

lemma refusal_exec (s : Session) (c : Console) : (s.exec c).console.refusal = c.refusal := by
  rcases exec_cases s c with ⟨-, he⟩ | ⟨i, -, ⟨-, he⟩ | ⟨v, -, ⟨-, he⟩ | ⟨cause, -, he⟩⟩⟩
  all_goals
    rw [he]
    exact traced_refusal s c

/-! ### Two sessions -/

/-- The configurations differ at most in listing, trace and muting. -/
structure Config.Agrees (config config' : Config) : Prop where
  registers : config'.registers = config.registers
  maxSteps : config'.maxSteps = config.maxSteps

/-- The sessions differ at most in listing, trace and muting. -/
structure Alike (s s' : Session) : Prop where
  config : s.config.Agrees s'.config
  program : s'.program = s.program
  state : s'.state = s.state
  steps : s'.steps = s.steps

namespace Alike

lemma start {config config' : Config} (h : config.Agrees config') (p : Program) :
    Alike (start config p) (start config' p) where
  config := h
  program := rfl
  state := by simp only [Session.start, h.registers]
  steps := rfl

lemma symm (h : Alike s s') : Alike s' s where
  config := ⟨h.config.registers.symm, h.config.maxSteps.symm⟩
  program := h.program.symm
  state := h.state.symm
  steps := h.steps.symm

lemma fetch_eq (h : Alike s s') :
    s'.program.fetch s'.state.pc = s.program.fetch s.state.pc := by
  rw [h.program, h.state]

lemma after (h : Alike s s') (i : Instruction) : Alike (s.after i) (s'.after i) where
  config := h.config
  program := h.program
  state := by rw [after_state, after_state, h.state]
  steps := by rw [after_steps, after_steps, h.steps]

lemma next?_eq (h : Alike s s') : s'.next? = s.next? := by
  rw [next?, next?, h.program, h.state]

lemma exhausted?_eq (h : Alike s s') : s'.exhausted? = s.exhausted? := by
  rw [exhausted?, exhausted?, h.config.maxSteps, h.steps]

lemma reported_eq (h : Alike s s') (htrace : s'.config.trace = s.config.trace) (n : Nat) :
    s'.reported n = s.reported n := by
  rw [reported, reported, htrace, h.program, h.state]

lemma exec (h : Alike s s') (hc : Unhindered s c) (hc' : Unhindered s' c') :
    (s'.exec c').result = (s.exec c).result ∧ Alike (s.exec c).session (s'.exec c').session := by
  by_cases hnext : s.next? = none
  · have hf := next?_eq_none_iff.1 hnext
    rw [exec_of_halted hf, exec_of_halted (h.fetch_eq.trans hf), h.program, h.state]
    exact ⟨rfl, h⟩
  · have hnext' : s'.next? ≠ none := h.next?_eq ▸ hnext
    obtain ⟨i, hi⟩ := exists_fetch_of_next? hnext
    rw [(hc.exec hnext).1, (hc'.exec hnext').1, session_exec hi, session_exec (h.fetch_eq.trans hi)]
    exact ⟨rfl, h.after i⟩

lemma ran (h : Alike s s') (hc : Unhindered s c) (hc' : Unhindered s' c') (hr : Ran s c n o) :
    ∃ o', Ran s' c' n o' ∧ o'.result = o.result ∧ Alike o.session o'.session := by
  induction hr generalizing s' c' with
  | halted hn => exact ⟨_, .halted (h.next?_eq.trans hn), rfl, h⟩
  | exhausted hn hl =>
    exact ⟨_, .exhausted (h.next?_eq ▸ hn) (h.exhausted?_eq.trans hl), rfl, h⟩
  | failed hn hl he =>
    have hresult := (hc.exec hn).1
    rw [he] at hresult
    cases hresult
  | @more s t c d n o hn hl he _ ih =>
    have hn' : s'.next? ≠ none := h.next?_eq ▸ hn
    obtain ⟨hresult, halike⟩ := h.exec hc hc'
    have hfree := (hc.exec hn).2
    have hfree' := (hc'.exec hn').2
    rw [he] at hresult halike hfree
    rcases he' : s'.exec c' with ⟨r, t', d'⟩
    rw [he'] at hresult halike hfree'
    obtain rfl : r = .ok () := hresult
    obtain ⟨o', hr', hend⟩ := ih halike hfree hfree'
    exact ⟨o', .more hn' (h.exhausted?_eq.trans hl) he' hr', hend⟩

end Alike

namespace Operation

/-- With working standard output, an operation writes the values that it puts into the log, unless
the session is muted. -/
lemma out_perform (hc : ∀ k, c.refusal k = none) (hp : op.perform s c = some o) :
    o.console.out = c.out ++ if s.config.muted then "" else echoText (op.appended s o) := by
  cases hm : s.config.muted with
  | false =>
    have hpassed : passed c.refusal c.writes (op.appended s o) = op.appended s o :=
      passed_eq_self fun k _ _ => hc k
    rw [(offers_perform hm hp).out, hpassed]
    rfl
  | true =>
    rw [if_pos rfl, String.append_empty]
    have hkept : o.session.config.muted = true ∧ o.console.out = c.out := by
      refine preserves (P := fun t d => t.config.muted = true ∧ d.out = c.out) ?_ ?_ hp ⟨hm, rfl⟩
      · rintro t d ⟨ht, hd⟩
        have hconfig : (t.exec d).session.config = t.config :=
          config_perform (show exec.perform t d = some (t.exec d) from rfl)
        exact ⟨hconfig ▸ ht, (out_exec_of_muted ht d).trans hd⟩
      · exact fun t d h => h
    exact hkept.2

lemma refusal_perform (hp : op.perform s c = some o) : o.console.refusal = c.refusal :=
  preserves (P := fun _ d => d.refusal = c.refusal)
    (fun t d h => (refusal_exec t d).trans h) (fun _ _ h => h) hp rfl

end Operation

/-- **One operation** gives both sessions the same result, and what they report covers the same
instructions. -/
lemma Alike.perform (h : Alike s s') (hc : ∀ k, c.refusal k = none) (hc' : ∀ k, c'.refusal k = none)
    (hp : op.perform s c = some o) :
    ∃ o' n, op.perform s' c' = some o' ∧ o'.result = o.result ∧ Alike o.session o'.session ∧
      o.console.err = c.err ++ s.reported n ∧ o'.console.err = c'.err ++ s'.reported n := by
  have hfree : Unhindered s c := .inr fun k _ => hc k
  have hfree' : Unhindered s' c' := .inr fun k _ => hc' k
  cases op with
  | exec =>
    cases hp
    obtain ⟨hresult, halike⟩ := h.exec hfree hfree'
    exact ⟨_, 1, rfl, hresult, halike, err_exec s c, err_exec s' c'⟩
  | run =>
    obtain ⟨n, hr⟩ := exists_ran_of_run hp
    obtain ⟨o', hr', hresult, halike⟩ := h.ran hfree hfree' hr
    exact ⟨o', n, hr'.run_eq, hresult, halike, hr.err_eq, hr'.err_eq⟩
  | reset =>
    cases hp
    have hreset : Alike s.reset s'.reset := by
      rw [Session.reset, Session.reset, h.program]
      exact .start h.config s.program
    exact ⟨_, 0, rfl, rfl, hreset, by simp [reported_zero], by simp [reported_zero]⟩

/-! ### Operations in a row -/

/-- The outcomes of operations in a row. Both streams are emptied before each operation, so they
hold what it writes. Nothing follows a run without an end. -/
def outcomes : Session → Console → List Operation → List (Option Outcome)
  | _, _, [] => []
  | s, c, op :: ops =>
    match op.perform s c.emptied with
    | none => [none]
    | some o => some o :: outcomes o.session o.console ops

/-- The outcomes differ at most in what is written, and in that only if the flags for it differ.
Where the flag says so, nothing is written. -/
structure Similar (config config' : Config) (o o' : Outcome) : Prop where
  result : o'.result = o.result
  state : o'.session.state = o.session.state
  steps : o'.session.steps = o.session.steps
  out : config'.muted = config.muted → o'.console.out = o.console.out
  out_of_muted : config.muted = true → o.console.out = ""
  err : config'.trace = config.trace → o'.console.err = o.console.err
  err_of_untraced : config.trace = false → o.console.err = ""

lemma Alike.perform_rel (h : Alike s s') (op : Operation) (hc : ∀ k, c.refusal k = none)
    (hc' : ∀ k, c'.refusal k = none) :
    Option.Rel (fun o o' => Alike o.session o'.session ∧ Similar s.config s'.config o o')
      (op.perform s c.emptied) (op.perform s' c'.emptied) := by
  have hempty : ∀ k, c.emptied.refusal k = none := hc
  have hempty' : ∀ k, c'.emptied.refusal k = none := hc'
  cases hp : op.perform s c.emptied with
  | some o =>
    obtain ⟨o', n, hp', hresult, halike, herr, herr'⟩ := h.perform hempty hempty' hp
    have hout := Operation.out_perform hempty hp
    have hout' := Operation.out_perform hempty' hp'
    have happended : op.appended s' o' = op.appended s o := by
      cases op <;> simp only [Operation.appended, h.state, halike.state]
    rw [hp']
    refine .some ⟨halike, hresult, halike.state, halike.steps, ?_, ?_, ?_, ?_⟩
    · intro hm
      rw [hout, hout', hm, happended]
      rfl
    · intro hm
      rw [hout, hm]
      rfl
    · intro htrace
      rw [herr, herr', h.reported_eq htrace]
      rfl
    · intro htrace
      rw [herr, reported, htrace]
      rfl
  | none =>
    cases hp' : op.perform s' c'.emptied with
    | none => exact .none
    | some o' =>
      obtain ⟨o, n, ho, -⟩ := h.symm.perform hempty' hempty hp'
      exact absurd (ho.symm.trans hp) (Option.some_ne_none o)

/-- **Operations in a row** have similar outcomes in both sessions. -/
lemma Alike.outcomes (h : Alike s s') (hc : ∀ k, c.refusal k = none)
    (hc' : ∀ k, c'.refusal k = none) (ops : List Operation) :
    List.Forall₂ (Option.Rel (Similar s.config s'.config)) (s.outcomes c ops)
      (s'.outcomes c' ops) := by
  induction ops generalizing s s' c c' with
  | nil => exact .nil
  | cons op ops ih =>
    have hrel := h.perform_rel op hc hc'
    rw [Session.outcomes, Session.outcomes]
    cases hp : op.perform s c.emptied with
    | none =>
      rw [hp] at hrel
      cases hp' : op.perform s' c'.emptied with
      | none => exact .cons .none .nil
      | some o' => rw [hp'] at hrel; cases hrel
    | some o =>
      rw [hp] at hrel
      cases hp' : op.perform s' c'.emptied with
      | none => rw [hp'] at hrel; cases hrel
      | some o' =>
        rw [hp'] at hrel
        obtain ⟨halike, hsimilar⟩ : Alike o.session o'.session ∧ _ := by cases hrel; assumption
        have hrest := ih halike (Operation.refusal_perform hp ▸ hc)
          (Operation.refusal_perform hp' ▸ hc')
        rw [Operation.config_perform hp, Operation.config_perform hp'] at hrest
        exact .cons (.some hsimilar) hrest

lemma load_same_program (config config' : Config) (file : Except Source.Error ByteArray) :
    (∃ e, (load config file).2 = .error e ∧ (load config' file).2 = .error e) ∨
    ∃ p, (load config file).2 = .ok (start config p) ∧
      (load config' file).2 = .ok (start config' p) := by
  cases file with
  | error e => exact .inl ⟨_, rfl, rfl⟩
  | ok bytes =>
    rw [load_ok, load_ok]
    cases Source.collected (Source.Reader.items { bytes }) with
    | error e => exact .inl ⟨_, rfl, rfl⟩
    | ok p => exact .inr ⟨p, rfl, rfl⟩

/-- **Diagnostics do not interfere**: configurations that differ in listing, trace and muting give
the same errors on loading and similar outcomes afterwards, operation by operation. -/
theorem diagnostics_do_not_interfere {config config' : Config} (h : config.Agrees config') :
    (∀ file, (∃ e, (load config file).2 = .error e ∧ (load config' file).2 = .error e) ∨
      ∃ p, (load config file).2 = .ok (start config p) ∧
        (load config' file).2 = .ok (start config' p)) ∧
    ∀ p c c' ops, (∀ k, c.refusal k = none) → (∀ k, c'.refusal k = none) →
      List.Forall₂ (Option.Rel (Similar config config')) ((start config p).outcomes c ops)
        ((start config' p).outcomes c' ops) :=
  ⟨load_same_program config config', fun p _ _ ops hc hc' => (Alike.start h p).outcomes hc hc' ops⟩

/-- A value that is traced and echoed in one session and muted in the other, and an instruction that
is missing in both. -/
theorem diagnostics_do_not_interfere_muted :
    let s := start { trace := true } #[.output (.literal 7)]
    let s' := start { muted := true } #[.output (.literal 7)]
    List.Forall₂ (Option.Rel (Similar { trace := true } { muted := true }))
      (s.outcomes .working [.exec, .run, .exec]) (s'.outcomes .working [.exec, .run, .exec]) ∧
    (∃ o, s.outcomes .working [.exec] = [some o] ∧ o.console.out = "7\n") ∧
    ∃ o, s'.outcomes .working [.exec] = [some o] ∧ o.console.out = "" := by
  have hconfig : Config.Agrees { trace := true } { muted := true } := ⟨rfl, rfl⟩
  refine ⟨?_, ⟨_, rfl, by decide⟩, ⟨_, rfl, rfl⟩⟩
  exact (diagnostics_do_not_interfere hconfig).2 _ _ _ _ (fun _ => rfl) fun _ => rfl

end Session

end FourReg
