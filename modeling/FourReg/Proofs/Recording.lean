import FourReg.Cli.Interpret
import FourReg.Proofs.Runs

/-!
The command on a console that keeps what is written.

A turn that writes its texts at once is the turn on that console. The command ends at one of four
points, and its report holds what it has written up to there.
-/

namespace FourReg

/-! ### Turns -/

namespace Session

variable {s : Session} {c : Console}

/-- The same turn, with another console in the place of its own. -/
def Turn.on (c : Console) : Turn → Turn
  | stop o => .stop { o with console := c }
  | go s _ => .go s c

lemma report_empty (c : Console) : c.report "" = c := by
  rw [Console.report, String.append_empty]

/-- What is traced does not depend on the console. -/
lemma report_traced (s : Session) (c : Console) :
    c.report (s.traced .working).err = s.traced c := by
  unfold traced
  split
  · rw [Console.report, Console.report, Console.working, String.empty_append, Console.report]
  · exact report_empty c

end Session

namespace Cli

open Session

variable {args : Arguments} {elapsed : Phase → String}
  {read : String → Except Source.Error ByteArray} {s : Session} {c : Console} {t : Turn}

section

variable {α β : Type}

@[simp] lemma pure_apply (a : α) (c : Console) :
    (pure a : StateT Console Option α) c = some (a, c) := rfl

@[simp] lemma bind_apply (act : StateT Console Option α) (f : α → StateT Console Option β)
    (c : Console) : (act >>= f) c = (act c).bind fun r => f r.1 r.2 := rfl

@[simp] lemma modify_apply (f : Console → Console) (c : Console) :
    (modify f : StateT Console Option PUnit) c = some (⟨⟩, f c) := rfl

@[simp] lemma modifyGet_apply (f : Console → α × Console) (c : Console) :
    (modifyGet f : StateT Console Option α) c = some (f c) := rfl

end

lemma turn_recorded_of_silent (h : s.turn .working = t) (hw : t.outcome.console.writes = 0) :
    Streams.recorded.turn s c = some (t, c.report t.outcome.console.err) := by
  subst h
  simp only [Streams.turn, Streams.settle, Streams.recorded, if_pos hw]
  rfl

lemma turn_recorded_of_put {r : Except SystemError Unit} {d : Console} (h : s.turn .working = t)
    (hw : t.outcome.console.writes ≠ 0)
    (hput : (c.report t.outcome.console.err).write t.outcome.console.out = (r, d)) :
    Streams.recorded.turn s c =
      some (match r with | .ok () => t | .error cause => t.refused s.state.pc cause, d) := by
  subst h
  simp only [Streams.turn, Streams.settle, Streams.recorded, if_neg hw, bind_apply, modify_apply,
    modifyGet_apply, Option.bind_some, hput]
  cases r <;> rfl

/-- **A turn that writes at once** is the turn on the console it writes to. -/
theorem turn_recorded (s : Session) (c : Console) :
    ∃ t d, Streams.recorded.turn s c = some (t, d) ∧ t.on d = s.turn c := by
  by_cases hnext : s.next? = none
  · refine ⟨_, _, turn_recorded_of_silent (turn_of_halted hnext _) rfl, ?_⟩
    rw [turn_of_halted hnext]
    exact congrArg (fun d => Turn.stop ⟨.ok (), s, d⟩) (report_empty c)
  cases hl : s.exhausted? with
  | some limit =>
    refine ⟨_, _, turn_recorded_of_silent (turn_of_exhausted hnext hl _) rfl, ?_⟩
    rw [turn_of_exhausted hnext hl]
    exact congrArg (fun d => Turn.stop ⟨.error (.stepLimit limit), s, d⟩) (report_empty c)
  | none =>
    obtain ⟨i, hi⟩ := exists_fetch_of_next? hnext
    cases hv : s.echoed? i with
    | none =>
      have hturn := turn_of_exec hnext hl (exec_of_silent hi hv .working)
      refine ⟨_, _, turn_recorded_of_silent hturn (traced_writes s _), ?_⟩
      rw [turn_of_exec hnext hl (exec_of_silent hi hv c)]
      exact congrArg (Turn.go (s.after i)) (report_traced s c)
    | some v =>
      have hturn := turn_of_exec hnext hl (exec_of_written (c := .working) hi hv rfl)
      have htext : c.report (s.written .working v).err = s.traced c := report_traced s c
      have hecho : (s.written .working v).out = echo v := String.empty_append
      cases hc : c.refusal c.writes with
      | none =>
        have hput : (c.report (s.written .working v).err).write (s.written .working v).out =
            (.ok (), s.written c v) := by
          rw [htext, hecho]
          simp [Console.write, hc, written]
        refine ⟨_, _, turn_recorded_of_put hturn Nat.one_ne_zero hput, ?_⟩
        rw [turn_of_exec hnext hl (exec_of_written hi hv hc)]
        rfl
      | some cause =>
        have hput : (c.report (s.written .working v).err).write (s.written .working v).out =
            (.error cause, { s.traced c with writes := c.writes + 1 }) := by
          rw [htext, hecho]
          simp [Console.write, hc]
        refine ⟨_, _, turn_recorded_of_put hturn Nat.one_ne_zero hput, ?_⟩
        rw [turn_of_failed hnext hl (exec_of_refused hi hv hc)]
        rfl

theorem run_recorded (elapsed : Phase → String) (read : String → Except Source.Error ByteArray) :
    (World.recorded elapsed read).run =
      Streams.recorded.drive (World.recorded elapsed read).run := by
  funext s c
  obtain ⟨t, d, hturn, hon⟩ := turn_recorded s c
  simp only [World.recorded, Streams.drive, bind_apply, hturn, Option.bind_some]
  rw [run, ← hon]
  cases t with
  | stop o => rfl
  | go s' c' => rfl

/-! ### The command -/

def Arguments.conclude (args : Arguments) (elapsed : Phase → String) (o : Outcome) : Report :=
  match o.result with
  | .error e => ⟨1, o.console.out, o.console.err ++ (Failure.session e).line⟩
  | .ok () =>
    let halted := Notice.halted o.session.state o.session.steps (elapsed .run)
    ⟨0, o.console.out ++ args.notice halted, o.console.err⟩

lemma interpret_of_config_error {f : Failure} (h : args.config = .error f) :
    args.interpret elapsed read = some ⟨1, "", f.line⟩ := by
  rw [Arguments.interpret, Arguments.perform, h]
  change some (Report.mk 1 "" ("" ++ f.line)) = _
  rw [String.empty_append]

/-- **The command** once its arguments are in order, as far as it gets. -/
lemma interpret_of_config {config : Config} (h : args.config = .ok config) :
    args.interpret elapsed read =
      let loaded := load config (read args.file)
      let out := args.notice Notice.loading ++ loaded.1
      match loaded.2 with
      | .error e => some ⟨1, out, (Failure.session e).line⟩
      | .ok session =>
        let out := out ++ args.notice (Notice.compiled session.program.size (elapsed .load))
        if args.ir then some ⟨0, out, ""⟩
        else
          (session.run { Console.working with out := out ++ args.notice Notice.starting }).map
            (args.conclude elapsed) := by
  rcases hload : load config (read args.file) with ⟨listing, e | session⟩
  all_goals
    simp only [Arguments.interpret, Arguments.perform, h, World.recorded, Streams.recorded,
      World.fail, bind_apply, pure_apply, modify_apply, Option.bind_some, hload, Console.working,
      String.empty_append]
  · simp [Console.report]
  · cases args.ir with
    | true => rfl
    | false =>
      simp only [Bool.false_eq_true, if_false, bind_apply, modify_apply, Option.bind_some]
      cases session.run _ with
      | none => rfl
      | some o =>
        obtain ⟨_ | ⟨⟩, t, d⟩ := o
        · rfl
        · rfl

end Cli

end FourReg
