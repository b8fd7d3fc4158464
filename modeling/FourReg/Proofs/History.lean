import FourReg.Session.Load
import FourReg.Proofs.Runs

/-!
Sessions through any sequence of operations.

Whatever is asked of a session, and whichever writes fail on the way, it stands where its machine
stands after as many steps as it has counted since the beginning or the last reset.
-/

namespace FourReg.Session

open Machine

inductive Operation where
  | exec
  | run
  | reset

namespace Operation

def perform (s : Session) (c : Console) : Operation → Option Outcome
  | exec => some (s.exec c)
  | run => s.run c
  | reset => some ⟨.ok (), s.reset, c⟩

/-- The operation takes the number of executed instructions from `n` to `m`. -/
def Counts (s : Session) (c : Console) (o : Outcome) (n m : Nat) : Operation → Prop
  | exec => m = if s.next?.isSome then n + 1 else n
  | run => ∃ k, Ran s c k o ∧ m = n + k
  | reset => m = 0

lemma exists_counts {s : Session} {c : Console} {o : Outcome} {op : Operation}
    (h : op.perform s c = some o) (n : Nat) : ∃ m, op.Counts s c o n m := by
  cases op with
  | exec => exact ⟨_, rfl⟩
  | run =>
    obtain ⟨k, hk⟩ := exists_ran_of_run h
    exact ⟨n + k, k, hk, rfl⟩
  | reset => exact ⟨0, rfl⟩

lemma preserves {P : Session → Console → Prop} {s : Session} {c : Console} {o : Outcome}
    {op : Operation} (hexec : ∀ s c, P s c → P (s.exec c).session (s.exec c).console)
    (hreset : ∀ s c, P s c → P s.reset c) (h : op.perform s c = some o) (hP : P s c) :
    P o.session o.console := by
  cases op with
  | exec =>
    cases h
    exact hexec s c hP
  | run =>
    obtain ⟨k, hk⟩ := exists_ran_of_run h
    exact hk.preserves hexec hP
  | reset =>
    cases h
    exact hreset s c hP

end Operation

/-- `History s₀ s n`: completed operations lead from `s₀` to `s`, each on a console of its own, and
`n` instructions have been executed since the beginning or the last reset. -/
inductive History (s₀ : Session) : Session → Nat → Prop
  | beginning : History s₀ s₀ 0
  | operation {s : Session} {c : Console} {op : Operation} {o : Outcome} {n m : Nat}
      (h : History s₀ s n) (hp : op.perform s c = some o) (hc : op.Counts s c o n m) :
      History s₀ o.session m

/-- The ways to get a session with a given configuration. -/
inductive Created (config : Config) : Session → Prop
  | ofProgram (p : Program) : Created config (start config p)
  | ofFile {file : Except Source.Error ByteArray} {listing : String} {s : Session}
      (h : load config file = (listing, .ok s)) : Created config s

variable {config : Config} {p : Program} {s₀ s : Session} {c : Console} {o : Outcome}
  {op : Operation} {n m : Nat}

lemma Created.eq_start (h : Created config s) : s = start config s.program := by
  cases h with
  | ofProgram p => rfl
  | @ofFile file listing s h =>
    rcases file with e | bytes
    · simp [load] at h
    · obtain ⟨-, h⟩ := Prod.mk.inj h
      cases hp : (collect config.listing "" #[] (Source.Reader.items { bytes })).2 with
      | error e => rw [hp] at h; cases h
      | ok p => rw [hp] at h; cases h; rfl

/-- **One operation**: it advances the session by the instructions it counts, or goes back to the
beginning. -/
lemma Advances.perform (h : Advances n (start config p) s) (hp : op.perform s c = some o)
    (hc : op.Counts s c o n m) : Advances m (start config p) o.session := by
  cases op with
  | exec =>
    cases hp
    cases hnext : s.next? with
    | none =>
      obtain rfl : m = n := by simpa [Operation.Counts, hnext] using hc
      rw [exec_of_halted (next?_eq_none_iff.1 hnext)]
      exact h
    | some i =>
      obtain rfl : m = n + 1 := by simpa [Operation.Counts, hnext] using hc
      exact h.trans (advances_exec (by simp [hnext]) c)
  | run =>
    obtain ⟨k, hk, rfl⟩ := hc
    exact h.trans hk.advances
  | reset =>
    cases hp
    obtain rfl : m = 0 := hc
    have hreset : s.reset = start config p := by rw [reset, h.config, h.program]; rfl
    exact hreset ▸ .refl _

lemma History.advances (h : History (start config p) s n) : Advances n (start config p) s := by
  induction h with
  | beginning => exact .refl _
  | operation _ hp hc ih => exact ih.perform hp hc

/-! ### Operations that fail -/

lemma session_of_outOfRange {place : OutOfRange} (hp : op.perform s c = some o)
    (h : o.result = .error (.outOfRange place)) : o.session = s := by
  cases op with
  | exec =>
    cases hp
    rcases error_of_exec h with ⟨hf, -⟩ | ⟨-, cause, he⟩
    · rw [exec_of_halted hf]
    · cases he
  | run =>
    obtain ⟨k, hk⟩ := exists_ran_of_run hp
    rcases hk.ends with ⟨he, -⟩ | ⟨limit, he, -⟩ | ⟨pc, cause, he⟩
    all_goals rw [h] at he; cases he
  | reset => cases hp; cases h

lemma session_of_stepLimit {limit : UInt64} (hp : op.perform s c = some o)
    (h : o.result = .error (.stepLimit limit)) (hl : limit ≤ s.steps) : o.session = s := by
  cases op with
  | exec =>
    cases hp
    rcases error_of_exec h with ⟨-, he⟩ | ⟨-, cause, he⟩
    · cases he
    · cases he
  | run =>
    obtain ⟨k, hk⟩ := exists_ran_of_run hp
    rcases hk.ends with ⟨he, -⟩ | ⟨l, he, -, hend⟩ | ⟨pc, cause, he⟩
    · rw [h] at he; cases he
    · rw [h] at he
      cases he
      have hmax := (exhausted?_eq_some_iff.1 hend).1
      rw [hk.advances.config] at hmax
      have hspent := exhausted?_eq_some_iff.2 ⟨hmax, hl⟩
      cases hk with
      | halted => rfl
      | exhausted => rfl
      | failed hn hnot => rw [hspent] at hnot; cases hnot
      | more hn hnot => rw [hspent] at hnot; cases hnot
    · rw [h] at he; cases he
  | reset => cases hp; cases h

lemma advances_of_write {pc : Int64} {cause : SystemError}
    (h : (s.exec c).result = .error (.write pc cause)) : Advances 1 s (s.exec c).session := by
  rcases error_of_exec h with ⟨-, he⟩ | ⟨hf, -⟩
  · cases he
  · exact advances_exec (mt next?_eq_none_iff.1 hf) c

/-- **The state of a session is that of its machine after the counted steps.** -/
theorem state_of_history (h₀ : Created config s₀) (h : History s₀ s n) (hn : n < UInt64.size) :
    (s.config = config ∧ s.program = s₀.program) ∧
    (s.steps.toNat = n ∧
      stepN s₀.program s.steps.toNat { registers := config.registers } = .ok s.state) ∧
    (∀ op c o, Operation.perform s c op = some o → ∃ m, History s₀ o.session m) ∧
    (∀ op c o place, Operation.perform s c op = some o →
      o.result = .error (.outOfRange place) → o.session = s) ∧
    (∀ op c o limit, Operation.perform s c op = some o →
      o.result = .error (.stepLimit limit) → limit ≤ s.steps → o.session = s) ∧
    ∀ c pc cause, (s.exec c).result = .error (.write pc cause) →
      step s.program s.state = .ok (s.exec c).session.state ∧
        (s.exec c).session.steps = s.steps + 1 := by
  have hstart := h₀.eq_start
  have hadv : Advances n (start config s₀.program) s := (hstart ▸ h).advances
  have hsteps : s.steps.toNat = n := by
    have h' := hadv.toNat_steps (by simpa [start] using hn)
    simpa [start] using h'
  refine ⟨⟨hadv.config, hadv.program⟩, ⟨hsteps, ?_⟩, ?_, ?_, ?_, ?_⟩
  · rw [hsteps]
    exact hadv.state
  · intro op c o hp
    obtain ⟨m, hc⟩ := Operation.exists_counts hp n
    exact ⟨m, h.operation hp hc⟩
  · exact fun op c o place => session_of_outOfRange
  · exact fun op c o limit => session_of_stepLimit
  · intro c pc cause hw
    have hone := advances_of_write hw
    obtain ⟨t, ht, hend⟩ := stepN_succ_eq_ok_iff.1 hone.state
    exact ⟨ht.trans hend, hone.steps⟩

/-- A value that cannot be written, and a run behind it. -/
theorem state_of_history_refused :
    ∃ s, History (start {} #[.output (.literal 7)]) s 1 ∧ s.steps.toNat = 1 ∧
      stepN #[.output (.literal 7)] s.steps.toNat {} = .ok s.state := by
  have hexec : History (start {} #[.output (.literal 7)])
      ((start {} #[.output (.literal 7)]).exec .full).session 1 :=
    .operation .beginning (show Operation.perform _ .full .exec = some _ from rfl) rfl
  have hran : Ran ((start {} #[.output (.literal 7)]).exec .full).session .working 0 _ :=
    .halted rfl
  have hrun := hexec.operation (show Operation.perform _ _ .run = some _ from hran.run_eq)
    ⟨0, hran, rfl⟩
  obtain ⟨-, ⟨hsteps, hstate⟩, -⟩ := state_of_history (.ofProgram _) hrun (by decide)
  exact ⟨_, hrun, hsteps, hstate⟩

end FourReg.Session
