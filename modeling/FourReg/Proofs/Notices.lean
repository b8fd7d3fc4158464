import FourReg.Proofs.Command
import FourReg.Proofs.Diagnostics

/-!
What a command that is not quiet writes besides.

Quiet or not, the command takes the same course: it stops at the same point, with the same exit code
and the same text on standard error. Its notices stand around the listing and the values, and which
of them are written depends on how far it gets.
-/

namespace FourReg

open Machine

/-! ### The same run on another console -/

namespace Session

variable {s t t' : Session} {c c' : Console} {o : Outcome} {n : Nat}

lemma Advances.unique (h : Advances n s t) (h' : Advances n s t') : t = t' := by
  obtain ⟨config, program, state, steps⟩ := t
  obtain ⟨config', program', state', steps'⟩ := t'
  obtain rfl : config = config' := h.config.trans h'.config.symm
  obtain rfl : program = program' := h.program.trans h'.program.symm
  obtain rfl : steps = steps' := h.steps.trans h'.steps.symm
  obtain rfl : state = state' := Except.ok.inj (h.state.symm.trans h'.state)
  rfl

/-- **A run does not depend on what has been written before.** -/
lemma Ran.on (h : Ran s c n o) (hc : ∀ k, c.refusal k = none) (hc' : ∀ k, c'.refusal k = none) :
    ∃ d, Ran s c' n ⟨o.result, o.session, d⟩ := by
  have hself : Alike s s := ⟨⟨rfl, rfl⟩, rfl, rfl, rfl⟩
  obtain ⟨⟨r, t, d⟩, hr, hresult, -⟩ := hself.ran (.inr fun k _ => hc k) (.inr fun k _ => hc' k) h
  obtain rfl : r = o.result := hresult
  obtain rfl : t = o.session := hr.advances.unique h.advances
  exact ⟨d, hr⟩

lemma run_start_on {config : Config} {p : Program} {r : Except Error Unit} {d : Console}
    (h : (start config p).run .working = some ⟨r, t, d⟩) (hm : config.muted = false)
    (hc : ∀ k, c.refusal k = none) :
    ∃ d', (start config p).run c = some ⟨r, t, d'⟩ ∧
      d'.out = c.out ++ echoText t.state.out.toList ∧ d'.err = c.err ++ d.err := by
  obtain ⟨n, hr⟩ := exists_ran_of_run h
  obtain ⟨d', hr'⟩ := hr.on (fun _ => rfl) hc
  have hfree : Unhindered (start config p) c := .inr fun k _ => hc k
  have herr : d.err = (start config p).reported n := by
    rw [hr.err_eq, Console.working, String.empty_append]
  refine ⟨d', hr'.run_eq, hr'.out_of_start hm (hfree.result_ne_write hr'), ?_⟩
  rw [hr'.err_eq, herr]

end Session

namespace Cli

open Session

variable {args : Arguments} {elapsed : Phase → String} {file : Except Source.Error ByteArray}
  {read : String → Except Source.Error ByteArray} {bytes : ByteArray} {v : Registers}
  {limit : Option UInt64} {p : Program} {t : Session} {d : Console} {e : Session.Error}

/-! ### The course of the command -/

structure Executes (args : Arguments) (file : Except Source.Error ByteArray) (v : Registers)
    (limit : Option UInt64) (p : Program) : Prop where
  asks : Asks args v limit
  unlisted : args.ir = false
  holds : ∃ bytes, file = .ok bytes ∧ Holds bytes p

def registerLines (v : Registers) : String :=
  ("a = " ++ Decimal.ofInt64 v.a ++ "\n") ++ ("b = " ++ Decimal.ofInt64 v.b ++ "\n")
    ++ ("c = " ++ Decimal.ofInt64 v.c ++ "\n") ++ ("d = " ++ Decimal.ofInt64 v.d ++ "\n")

lemma label_eq (r : Register) : r.name ++ " = " =
    match r with | .a => "a = " | .b => "b = " | .c => "c = " | .d => "d = " := by
  cases r <;> decide

lemma registers_eq (v : Registers) : Notice.registers v = registerLines v := by
  simp only [Notice.registers, label_eq, Register.all, List.map_cons, List.map_nil, Registers.get,
    String.join_cons, String.join_nil, String.append_empty, String.append_assoc, registerLines]

/-- The notice about a program that has halted: a blank line, where and after how many steps it has
halted, and its registers. -/
def closing (t : Session) (time : String) : String :=
  "\nhalted at pc " ++ Decimal.ofInt64 t.state.pc ++ " after " ++ Decimal.ofUInt64 t.steps
    ++ " steps, took " ++ time ++ "\n" ++ registerLines t.state.registers

lemma halted_eq_closing (t : Session) (time : String) :
    Notice.halted t.state t.steps time = closing t time := by
  -- `rw` would state the equations of both definitions, which takes long with texts of this size
  delta Notice.halted closing
  rw [registers_eq]

/-- `Drafts args elapsed file draft`: the command ends, and its report is `draft` of what becomes of
a notice. Arguments out of order are reported without any notice. Any other command announces that
it loads the file; once it is loaded, the number of its instructions follows the listing; a program
that is run is announced, puts out its values, and is reported on if it halts. -/
inductive Drafts (args : Arguments) (elapsed : Phase → String)
    (file : Except Source.Error ByteArray) : ((String → String) → Report) → Prop
  | refused {f : Failure} (h : args.config = .error f) :
      Drafts args elapsed file fun _ => ⟨1, "", f.line⟩
  | unloaded {v : Registers} {limit : Option UInt64} {listing : String} {e : Session.Error}
      (h : Asks args v limit) (hload : load (args.configFor v limit) file = (listing, .error e)) :
      Drafts args elapsed file fun notice =>
        ⟨1, notice Notice.loading ++ listing, (Failure.session e).line⟩
  | listed {v : Registers} {limit : Option UInt64} {bytes : ByteArray} {p : Program}
      (h : Asks args v limit) (hfile : file = .ok bytes) (hp : Holds bytes p)
      (hir : args.ir = true) :
      Drafts args elapsed file fun notice =>
        ⟨0, notice Notice.loading ++ listingOf args bytes
          ++ notice (Notice.compiled p.size (elapsed .load)), ""⟩
  | stopped {v : Registers} {limit : Option UInt64} {p : Program} {e : Session.Error}
      {t : Session} {d : Console} (h : Executes args file v limit p)
      (hrun : (start (args.configFor v limit) p).run .working = some ⟨.error e, t, d⟩) :
      Drafts args elapsed file fun notice =>
        ⟨1, notice Notice.loading ++ notice (Notice.compiled p.size (elapsed .load))
          ++ notice Notice.starting ++ echoText t.state.out.toList,
          d.err ++ (Failure.session e).line⟩
  | halted {v : Registers} {limit : Option UInt64} {p : Program} {t : Session} {d : Console}
      (h : Executes args file v limit p)
      (hrun : (start (args.configFor v limit) p).run .working = some ⟨.ok (), t, d⟩) :
      Drafts args elapsed file fun notice =>
        ⟨0, notice Notice.loading ++ notice (Notice.compiled p.size (elapsed .load))
          ++ notice Notice.starting ++ echoText t.state.out.toList
          ++ notice (closing t (elapsed .run)), d.err⟩

lemma interpret_of_unloaded {listing : String} (h : Asks args v limit)
    (hload : load (args.configFor v limit) (read args.file) = (listing, .error e)) :
    args.interpret elapsed read =
      some ⟨1, args.notice Notice.loading ++ listing, (Failure.session e).line⟩ := by
  simp only [interpret_of_config h.config, hload]

lemma Executes.interpret (h : Executes args (read args.file) v limit p) (elapsed : Phase → String)
    {r : Except Session.Error Unit}
    (hrun : (start (args.configFor v limit) p).run .working = some ⟨r, t, d⟩) :
    ∃ d', args.interpret elapsed read = some (args.conclude elapsed ⟨r, t, d'⟩) ∧
      d'.out = args.notice Notice.loading ++ args.notice (Notice.compiled p.size (elapsed .load))
        ++ args.notice Notice.starting ++ echoText t.state.out.toList ∧
      d'.err = d.err := by
  obtain ⟨hasks, hir, bytes, hread, hp⟩ := h
  obtain ⟨d', hrun', hout, herr⟩ := run_start_on (c := args.console elapsed bytes p) hrun rfl
    fun _ => rfl
  refine ⟨d', ?_, ?_, ?_⟩
  · rw [interpret_of_run hasks hread hp hir, hrun', Option.map_some]
  · simp [hout, Arguments.console, Arguments.loadedText, listingOf, hir]
  · rw [herr]
    exact String.empty_append

/-- **The report is the draft.** -/
lemma Drafts.interpret {draft : (String → String) → Report}
    (h : Drafts args elapsed (read args.file) draft) :
    args.interpret elapsed read = some (draft args.notice) := by
  cases h with
  | refused h => exact interpret_of_config_error h
  | unloaded h hload => exact interpret_of_unloaded h hload
  | listed h hread hp hir => exact interpret_of_listed h hread hp hir
  | stopped h hrun =>
    obtain ⟨d', hreport, hout, herr⟩ := h.interpret elapsed hrun
    simp only [hreport, Arguments.conclude, hout, herr]
  | halted h hrun =>
    obtain ⟨d', hreport, hout, herr⟩ := h.interpret elapsed hrun
    rw [hreport, Arguments.conclude, hout, herr, halted_eq_closing]

/-- The same arguments, with a request to be quiet. -/
def Arguments.hushed (args : Arguments) : Arguments := { args with quiet := true }

lemma Asks.hushed (h : Asks args v limit) : Asks args.hushed v limit := ⟨h.registers, h.limit⟩

lemma Executes.hushed (h : Executes args file v limit p) : Executes args.hushed file v limit p :=
  ⟨h.asks.hushed, h.unlisted, h.holds⟩

/-- Being quiet does not change the course of the command. -/
lemma Drafts.hushed {draft : (String → String) → Report} (h : Drafts args elapsed file draft) :
    Drafts args.hushed elapsed file draft := by
  cases h with
  | refused h => exact .refused h
  | unloaded h hload => exact .unloaded h.hushed hload
  | listed h hfile hp hir => exact .listed h.hushed hfile hp hir
  | stopped h hrun => exact .stopped h.hushed hrun
  | halted h hrun => exact .halted h.hushed hrun

def Scan.hushed (scan : Scan) : Scan := { scan with flags := .quiet :: scan.flags }

end Cli

end FourReg
