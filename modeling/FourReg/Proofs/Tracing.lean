import FourReg.Proofs.Diagnostics
import FourReg.Proofs.Dumps

/-!
The trace as a history.

A traced session writes a group of three dumps for each instruction that is attempted, and nothing
else. The counter, the registers and the instruction can be read back from a group, and also where
it ends, so different histories have different traces.
-/

namespace FourReg

namespace Trace

open Machine Text

variable {p : Program} {s t : State} {n : Nat}

/-! ### Groups -/

/-- What three dumps show: the state before an instruction, and the instruction, if there is
one. -/
structure Group where
  pc : Int64
  registers : Registers
  instruction : Option Instruction

namespace Group

def text (g : Group) : String :=
  dump "&self.state.pc" [Decimal.ofInt64 g.pc]
    ++ dump "&self.state.registers" (Trace.registers g.registers)
    ++ dump "self.program.fetch(self.state.pc)" (fetched g.instruction)

end Group

def groupsText (gs : List Group) : String := String.join (gs.map Group.text)

lemma groupsText_cons (g : Group) (gs : List Group) :
    groupsText (g :: gs) = g.text ++ groupsText gs := by
  simp [groupsText]

/-- The groups of the next `n` instructions. Where there is none left, that is the last one. -/
def groups (p : Program) : Nat → State → List Group
  | 0, _ => []
  | n + 1, s => ⟨s.pc, s.registers, p.fetch s.pc⟩ ::
      match p.fetch s.pc with
      | none => []
      | some i => groups p n (s.apply i)

lemma groups_succ_of_fetch {i : Instruction} (n : Nat) (h : p.fetch s.pc = some i) :
    groups p (n + 1) s = ⟨s.pc, s.registers, some i⟩ :: groups p n (s.apply i) := by
  rw [groups, h]

lemma groups_one (p : Program) (s : State) :
    groups p 1 s = [⟨s.pc, s.registers, p.fetch s.pc⟩] := by
  rw [groups]
  cases p.fetch s.pc <;> rfl

lemma traceOf_eq (p : Program) (n : Nat) (s : State) :
    Session.traceOf p n s = groupsText (groups p n s) := by
  induction n generalizing s with
  | zero => rfl
  | succ n ih =>
    have htext : Trace.text p s = Group.text ⟨s.pc, s.registers, p.fetch s.pc⟩ := rfl
    rw [Session.traceOf, htext, groups, groupsText_cons]
    cases p.fetch s.pc with
    | none => rfl
    | some i => exact congrArg _ (ih (s.apply i))

lemma length_groups (h : stepN p n s = .ok t) : (groups p n s).length = n := by
  induction n generalizing s with
  | zero => rfl
  | succ n ih =>
    obtain ⟨u, hstep, hrest⟩ := stepN_succ_eq_ok_iff.1 h
    obtain ⟨i, hi, rfl⟩ := step_eq_ok_iff.1 hstep
    rw [groups_succ_of_fetch n hi, List.length_cons, ih hrest]

/-- **Each group shows the state before an instruction**, and the instruction that leads on from
there. -/
lemma getElem?_groups (h : stepN p n s = .ok t) {k : Nat} (hk : k < n) :
    ∃ u i, stepN p k s = .ok u ∧ p.fetch u.pc = some i ∧ stepN p (k + 1) s = .ok (u.apply i) ∧
      (groups p n s)[k]? = some ⟨u.pc, u.registers, some i⟩ := by
  induction n generalizing s k with
  | zero => exact absurd hk (Nat.not_lt_zero k)
  | succ n ih =>
    obtain ⟨u, hstep, hrest⟩ := stepN_succ_eq_ok_iff.1 h
    obtain ⟨i, hi, rfl⟩ := step_eq_ok_iff.1 hstep
    rw [groups_succ_of_fetch n hi]
    cases k with
    | zero => exact ⟨s, i, rfl, hi, stepN_succ_of_step 0 hstep, rfl⟩
    | succ k =>
      obtain ⟨v, j, hv, hj, hnext, hg⟩ := ih hrest (Nat.lt_of_succ_lt_succ hk)
      refine ⟨v, j, ?_, hj, ?_, by simpa using hg⟩
      · rw [stepN_succ_of_step k hstep, hv]
      · rw [stepN_succ_of_step (k + 1) hstep, hnext]

/-! ### Groups are told apart -/

def Group.dumps (g : Group) : List (List String) :=
  [headed "&self.state.pc" [Decimal.ofInt64 g.pc],
    headed "&self.state.registers" (Trace.registers g.registers),
    headed "self.program.fetch(self.state.pc)" (fetched g.instruction)]

lemma groupsText_eq_unlines (gs : List Group) :
    groupsText gs = unlines (gs.flatMap Group.dumps).flatten := by
  induction gs with
  | nil => rfl
  | cons g gs ih =>
    rw [groupsText_cons, ih, List.flatMap_cons, List.flatten_append, unlines_append, Group.text,
      dump_eq_unlines, dump_eq_unlines, dump_eq_unlines]
    simp only [Group.dumps, List.flatten_cons, List.flatten_nil, List.append_nil, unlines_append,
      String.append_assoc]

lemma isDump_of_mem_dumps {gs : List Group} {d : List String} (h : d ∈ gs.flatMap Group.dumps) :
    IsDump d := by
  obtain ⟨g, -, hd⟩ := List.mem_flatMap.1 h
  simp only [Group.dumps, List.mem_cons, List.not_mem_nil, or_false] at hd
  rcases hd with rfl | rfl | rfl
  · exact (isBody_ofInt64 g.pc).isDump (by decide)
  · exact (isBody_registers g.registers).isDump (by decide)
  · exact (isBody_fetched g.instruction).isDump (by decide)

lemma Group.dumps_injective : Function.Injective Group.dumps := by
  intro g g' h
  simp only [dumps, List.cons.injEq, and_true] at h
  obtain ⟨hpc, hregisters, hfetched⟩ := h
  have hpc := headed_inj (List.cons_ne_nil _ _) (List.cons_ne_nil _ _) hpc
  have hregisters := headed_inj (List.cons_ne_nil _ _) (List.cons_ne_nil _ _) hregisters
  have hfetched := headed_inj (fetched_ne_nil _) (fetched_ne_nil _) hfetched
  obtain ⟨pc, v, i⟩ := g
  obtain ⟨pc', v', i'⟩ := g'
  obtain rfl : pc = pc' := Decimal.ofInt64_injective (List.singleton_inj.1 hpc)
  obtain rfl : v = v' := registers_injective hregisters
  obtain rfl : i = i' := fetched_injective hfetched
  rfl

lemma Group.length_dumps (g : Group) : g.dumps.length = 3 := rfl

lemma flatMap_dumps_injective {gs hs : List Group}
    (h : gs.flatMap Group.dumps = hs.flatMap Group.dumps) : gs = hs := by
  have hlengths : gs.length = hs.length := by
    have htotal := congrArg List.length h
    simp only [List.length_flatMap, Group.length_dumps, List.map_const', List.sum_replicate_nat]
      at htotal
    omega
  exact flatMap_inj Group.dumps_injective (by simp [Group.length_dumps, hlengths]) h

/-- **Groups can be read back from their text.** -/
lemma groupsText_injective {gs hs : List Group} (h : groupsText gs = groupsText hs) : gs = hs := by
  have hlines {gs : List Group} : ∀ l ∈ (gs.flatMap Group.dumps).flatten, IsLine l := by
    intro l hl
    obtain ⟨d, hd, hl⟩ := List.mem_flatten.1 hl
    exact (isDump_of_mem_dumps hd).lines l hl
  rw [groupsText_eq_unlines, groupsText_eq_unlines] at h
  have hdumps := flatten_inj (fun _ => isDump_of_mem_dumps) (fun _ => isDump_of_mem_dumps)
    (unlines_inj hlines hlines h)
  exact flatMap_dumps_injective hdumps

end Trace

namespace Session

open Machine Trace

variable {s₀ s : Session} {c₀ c : Console} {vs : List Int64} {o : Outcome} {op : Operation}

/-! ### What operations show -/

/-- `Shows s c o op gs`: the groups are those of the instructions that the operation attempts, one
for each, with the state before it. A run attempts what it executes. -/
inductive Shows (s : Session) (c : Console) (o : Outcome) : Operation → List Group → Prop
  | executed {i : Instruction} (hi : s.program.fetch s.state.pc = some i)
      (ho : o.session = s.after i) : Shows s c o .exec [⟨s.state.pc, s.state.registers, some i⟩]
  | missing (hi : s.program.fetch s.state.pc = none)
      (ho : o.result = .error (.outOfRange ⟨s.state.pc, s.program.size⟩)) :
      Shows s c o .exec [⟨s.state.pc, s.state.registers, none⟩]
  | run {n : Nat} {gs : List Group} (hr : Ran s c n o) (hlength : gs.length = n)
      (h : ∀ k < n, ∃ t i, stepN s.program k s.state = .ok t ∧ s.program.fetch t.pc = some i ∧
        stepN s.program (k + 1) s.state = .ok (t.apply i) ∧
        gs[k]? = some ⟨t.pc, t.registers, some i⟩) : Shows s c o .run gs
  | reset : Shows s c o .reset []

lemma reported_eq_groupsText (htrace : s.config.trace = true) (n : Nat) :
    s.reported n = groupsText (groups s.program n s.state) := by
  rw [reported, if_pos htrace, traceOf_eq]

lemma shows_exec (s : Session) (c : Console) :
    Shows s c (s.exec c) .exec (groups s.program 1 s.state) := by
  rw [groups_one]
  cases hi : s.program.fetch s.state.pc with
  | none => exact .missing hi (by rw [exec_of_halted hi])
  | some i => exact .executed hi (session_exec hi c)

lemma Ran.shows {n : Nat} (h : Ran s c n o) : Shows s c o .run (groups s.program n s.state) :=
  .run h (length_groups h.advances.state) fun _ hk => getElem?_groups h.advances.state hk

/-- **One operation** writes the groups of the instructions that it attempts. -/
lemma exists_shows_of_perform (htrace : s.config.trace = true) (hp : op.perform s c = some o) :
    ∃ gs, Shows s c o op gs ∧ o.console.err = c.err ++ groupsText gs := by
  cases op with
  | exec =>
    cases hp
    refine ⟨_, shows_exec s c, ?_⟩
    rw [err_exec, reported_eq_groupsText htrace]
  | run =>
    obtain ⟨n, hr⟩ := exists_ran_of_run hp
    refine ⟨_, hr.shows, ?_⟩
    rw [hr.err_eq, reported_eq_groupsText htrace]
  | reset =>
    cases hp
    exact ⟨[], .reset, String.append_empty.symm⟩

lemma Course.config_eq (h : Course s₀ c₀ s c vs) : s.config = s₀.config := by
  induction h with
  | beginning => rfl
  | operation _ hp ih => exact (Operation.config_perform hp).trans ih

/-- **The trace is the history**: whatever has been asked of a traced session and whichever writes
have failed, an operation adds one group for each instruction that it attempts, in order, with the
state before it and the instruction. Different groups, and so different sequences of counters and
registers, have different texts. -/
theorem trace_is_history (htrace : s₀.config.trace = true) (h : Course s₀ c₀ s c vs) :
    (∀ op o, Operation.perform s c op = some o →
      ∃ gs, Shows s c o op gs ∧ o.console.err = c.err ++ groupsText gs) ∧
    ∀ gs hs : List Group, groupsText gs = groupsText hs → gs = hs := by
  have hconfig : s.config.trace = true := h.config_eq ▸ htrace
  exact ⟨fun op o => exists_shows_of_perform hconfig, fun gs hs => groupsText_injective⟩

/-- A value that cannot be written has been traced, and so has the missing instruction behind it. -/
theorem trace_is_history_refused :
    let s₀ := start .traced #[.output (.literal 7)]
    (s₀.exec .full).result = .error (.write 0 .noSpace) ∧
    (s₀.exec .full).console.err = "[dbg] &self.state.pc = 0\n"
      ++ "[dbg] &self.state.registers = Registers(\n"
      ++ "    [\n        0,\n        0,\n        0,\n        0,\n    ],\n)\n"
      ++ "[dbg] self.program.fetch(self.state.pc) = Some(\n"
      ++ "    Output(\n        Literal(\n            7,\n        ),\n    ),\n)\n" ∧
    (∃ s c vs, Course s₀ .full s c vs ∧ (s.exec c).result = .error (.outOfRange ⟨1, 1⟩) ∧
      (s.exec c).console.err = c.err ++ "[dbg] &self.state.pc = 1\n"
        ++ "[dbg] &self.state.registers = Registers(\n"
        ++ "    [\n        0,\n        0,\n        0,\n        0,\n    ],\n)\n"
        ++ "[dbg] self.program.fetch(self.state.pc) = None\n") ∧
    groupsText [⟨1, {}, none⟩] ≠ groupsText [⟨0, {}, none⟩] ∧
    groupsText [⟨0, {}, some (.output (.literal 7))⟩] ≠
      groupsText [⟨0, {}, some (.output (.register .a))⟩] := by
  intro s₀
  have hcourse : Course s₀ .full _ _ [7] :=
    @Course.operation s₀ .full _ _ _ .exec _ .beginning rfl
  obtain ⟨hfirst, hdistinct⟩ := trace_is_history rfl (@Course.beginning s₀ .full)
  obtain ⟨hsecond, -⟩ := trace_is_history rfl hcourse
  refine ⟨by decide, ?_, ⟨_, _, _, hcourse, rfl, ?_⟩, fun h => ?_, fun h => ?_⟩
  · obtain ⟨gs, hgs, herr⟩ := hfirst .exec _ rfl
    cases hgs with
    | executed hi =>
      cases hi
      exact herr.trans (by decide +kernel)
    | missing hi => cases hi
  · obtain ⟨gs, hgs, herr⟩ := hsecond .exec _ rfl
    cases hgs with
    | executed hi => cases hi
    | missing _ _ =>
      simp only [String.append_assoc]
      exact herr.trans (congrArg _ (by decide +kernel))
  · cases hdistinct _ _ h
  · cases hdistinct _ _ h

end Session

end FourReg
