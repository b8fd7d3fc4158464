import FourReg.Cli.Scan
import FourReg.Proofs.Assignments
import FourReg.Proofs.Echo
import FourReg.Proofs.Limits
import FourReg.Proofs.Loading
import FourReg.Proofs.Recording

/-!
How the command ends, and what it writes if it is quiet.

It succeeds if its arguments are in order, its file is a program, and the program either is only
listed or halts within the limit.
-/

namespace FourReg

open Machine

namespace Session

variable {config : Config} {p : Program} {c : Console} {n : Nat}

lemma Ran.out_of_start {o : Outcome} (h : Ran (start config p) c n o) (hm : config.muted = false)
    (hw : ∀ pc cause, o.result ≠ .error (.write pc cause)) :
    o.console.out = c.out ++ echoText o.session.state.out.toList := by
  obtain ⟨us, hus⟩ := (h.echoing hm).echoes hw
  have hlog : o.session.state.out = us.toArray := by simpa [start] using hus.log
  rw [hus.out, hlog]

/-- The program halts after `n` steps, and the limit allows as many. -/
structure HaltsWithin (p : Program) (v : Registers) (limit : Option UInt64) (n : Nat) : Prop where
  halts : n ∈ haltTimes p { registers := v }
  room : ∀ l, limit = some l → n ≤ l.toNat

lemma haltsWithin_iff : HaltsWithin p config.registers config.maxSteps n ↔
    n ∈ haltTimes p { registers := config.registers } ∧ (start config p).Allows n := by
  have hroom (l : UInt64) : n = 0 ∨ (start config p).steps.toNat + n ≤ l.toNat ↔ n ≤ l.toNat := by
    simp only [start, UInt64.toNat_zero]
    omega
  simp only [Allows, hroom]
  exact ⟨fun h => ⟨h.halts, h.room⟩, fun h => ⟨h.1, h.2⟩⟩

lemma exists_run_of_haltsWithin (config : Config) (c : Console) (hm : config.muted = false)
    (hc : ∀ k, c.refusal k = none) (h : HaltsWithin p config.registers config.maxSteps n) :
    ∃ o, (start config p).run c = some o ∧ o.result = .ok () ∧
      stepN p n { registers := config.registers } = .ok o.session.state ∧
      o.console.out = c.out ++ echoText o.session.state.out.toList := by
  have hfree : Unhindered (start config p) c := .inr fun k _ => hc k
  obtain ⟨hn, hroom⟩ := haltsWithin_iff.1 h
  obtain ⟨o, hr, he⟩ := ran_of_allows hfree (isLeast_haltTimes hn) hroom
  exact ⟨o, hr.run_eq, he, hr.advances.state, hr.out_of_start hm (hfree.result_ne_write hr)⟩

lemma exists_run_of_not_haltsWithin {limit : UInt64} (config : Config) (c : Console)
    (hm : config.muted = false) (hc : ∀ k, c.refusal k = none) (hmax : config.maxSteps = some limit)
    (h : ¬∃ n, HaltsWithin p config.registers config.maxSteps n) :
    ∃ o, (start config p).run c = some o ∧ o.result = .error (.stepLimit limit) ∧
      stepN p limit.toNat { registers := config.registers } = .ok o.session.state ∧
      o.console.out = c.out ++ echoText o.session.state.out.toList := by
  have hfree : Unhindered (start config p) c := .inr fun k _ => hc k
  obtain ⟨o, hr, he⟩ := ran_of_not_allows hfree hmax fun ⟨n, hn, hroom⟩ =>
    h ⟨n, haltsWithin_iff.2 ⟨hn.1, hroom⟩⟩
  exact ⟨o, hr.run_eq, he, hr.advances.state, hr.out_of_start hm (hfree.result_ne_write hr)⟩

/-- Without a limit, a run that ends has halted. -/
lemma Unhindered.run_eq_none {s : Session} (h : Unhindered s c) (hmax : s.config.maxSteps = none)
    (hempty : haltTimes s.program s.state = ∅) : s.run c = none := by
  refine Option.eq_none_iff_forall_ne_some.2 fun o ho => ?_
  obtain ⟨n, hr⟩ := exists_ran_of_run ho
  rcases hr.ends with ⟨-, hnext⟩ | ⟨limit, -, -, hl⟩ | ⟨pc, cause, he⟩
  · exact Set.eq_empty_iff_forall_notMem.1 hempty n (hr.mem_haltTimes hnext)
  · obtain ⟨hmax', -⟩ := hr.of_exhausted hl
    exact Option.some_ne_none limit (hmax'.symm.trans hmax)
  · exact h.result_ne_write hr pc cause he

end Session

namespace Cli

open Session Source

variable {args : Arguments} {elapsed : Phase → String}
  {read : String → Except Source.Error ByteArray} {bytes : ByteArray} {v : Registers}
  {limit : Option UInt64} {p : Program}

/-! ### The stages of the command -/

def fileItems (bytes : ByteArray) : List Item := Reader.items { bytes }

def Holds (bytes : ByteArray) (p : Program) : Prop := fileItems bytes = p.toList.map .ok

/-- The instructions before the first line that is none, if they are to be listed. -/
def listingOf (args : Arguments) (bytes : ByteArray) : String :=
  if args.ir then listingFrom 0 (leading (fileItems bytes)) else ""

lemma notice_of_quiet (h : args.quiet = true) (text : String) : args.notice text = "" :=
  if_pos h

lemma Asks.config (h : Asks args v limit) : args.config = .ok (args.configFor v limit) :=
  config_eq_ok_iff.2 ⟨v, limit, h, rfl⟩

lemma interpret_of_refused (h : ¬∃ v limit, Asks args v limit) :
    ∃ f : Failure, args.interpret elapsed read = some ⟨1, "", f.line⟩ := by
  cases hconfig : args.config with
  | error f => exact ⟨f, interpret_of_config_error hconfig⟩
  | ok config =>
    obtain ⟨v, limit, hasks, -⟩ := config_eq_ok_iff.1 hconfig
    exact absurd ⟨v, limit, hasks⟩ h

lemma load_of_unreadable (h : ¬∃ p, Holds bytes p) (config : Config) :
    ∃ e, load config (.ok bytes) =
      (if config.listing then listingFrom 0 (leading (fileItems bytes)) else "", .error e) := by
  cases hitems : collected (fileItems bytes) with
  | error e => exact ⟨.load e, by rw [load_ok, ← fileItems, hitems]; rfl⟩
  | ok p => exact absurd ⟨p, collected_eq_ok_iff.1 hitems⟩ h

lemma load_of_holds (h : Holds bytes p) (config : Config) :
    load config (.ok bytes) =
      (if config.listing then listingFrom 0 (leading (fileItems bytes)) else "",
        .ok (start config p)) := by
  rw [load_ok, ← fileItems, collected_eq_ok_iff.2 h]
  rfl

lemma interpret_of_unreadable (h : Asks args v limit) (hread : read args.file = .ok bytes)
    (hp : ¬∃ p, Holds bytes p) :
    ∃ f : Failure, args.interpret elapsed read =
      some ⟨1, args.notice Notice.loading ++ listingOf args bytes, f.line⟩ := by
  obtain ⟨e, hload⟩ := load_of_unreadable hp (args.configFor v limit)
  refine ⟨.session e, ?_⟩
  simp only [interpret_of_config h.config, hread, hload]
  rfl

/-- What has been written once the program is loaded. -/
def Arguments.loadedText (args : Arguments) (elapsed : Phase → String) (bytes : ByteArray)
    (p : Program) : String :=
  args.notice Notice.loading ++ listingOf args bytes
    ++ args.notice (Notice.compiled p.size (elapsed .load))

lemma loadedText_of_quiet (hq : args.quiet = true) :
    args.loadedText elapsed bytes p = listingOf args bytes := by
  simp [Arguments.loadedText, notice_of_quiet hq]

lemma interpret_of_listed (h : Asks args v limit) (hread : read args.file = .ok bytes)
    (hp : Holds bytes p) (hir : args.ir = true) :
    args.interpret elapsed read = some ⟨0, args.loadedText elapsed bytes p, ""⟩ := by
  simp only [interpret_of_config h.config, hread, load_of_holds hp, if_pos hir]
  rfl

lemma exit_conclude (args : Arguments) (elapsed : Phase → String) (o : Outcome) :
    (args.conclude elapsed o).exit = if o.result = .ok () then 0 else 1 := by
  unfold Arguments.conclude
  split
  · rename_i e he
    rw [he, if_neg nofun]
  · rename_i he
    rw [he, if_pos rfl]

lemma out_conclude_of_quiet (hq : args.quiet = true) (o : Outcome) :
    (args.conclude elapsed o).out = o.console.out := by
  unfold Arguments.conclude
  split <;> simp [notice_of_quiet hq]

def Arguments.console (args : Arguments) (elapsed : Phase → String) (bytes : ByteArray)
    (p : Program) : Console :=
  { Console.working with out := args.loadedText elapsed bytes p ++ args.notice Notice.starting }

lemma out_console_of_quiet (hq : args.quiet = true) (hir : args.ir = false) :
    (args.console elapsed bytes p).out = "" := by
  simp [Arguments.console, loadedText_of_quiet hq, notice_of_quiet hq, listingOf, hir]

lemma interpret_of_run (h : Asks args v limit) (hread : read args.file = .ok bytes)
    (hp : Holds bytes p) (hir : args.ir = false) :
    args.interpret elapsed read =
      ((start (args.configFor v limit) p).run (args.console elapsed bytes p)).map
        (args.conclude elapsed) := by
  have hir' : ¬args.ir = true := by simp [hir]
  simp only [interpret_of_config h.config, hread, load_of_holds hp, if_neg hir']
  rfl

/-! ### How the command ends -/

/-- The ends of the command, with the exit code and with what a quiet command has written. -/
inductive Ends (args : Arguments) (bytes : ByteArray) : UInt32 → String → Prop
  | refused (h : ¬∃ v limit, Asks args v limit) : Ends args bytes 1 ""
  | unreadable {v : Registers} {limit : Option UInt64} (h : Asks args v limit)
      (hp : ¬∃ p, Holds bytes p) : Ends args bytes 1 (listingOf args bytes)
  | listed {v : Registers} {limit : Option UInt64} {p : Program} (h : Asks args v limit)
      (hp : Holds bytes p) (hir : args.ir = true) : Ends args bytes 0 (listingOf args bytes)
  | halted {v : Registers} {limit : Option UInt64} {p : Program} {n : Nat} {t : State}
      (h : Asks args v limit) (hp : Holds bytes p) (hir : args.ir = false)
      (hn : HaltsWithin p v limit n) (ht : stepN p n { registers := v } = .ok t) :
      Ends args bytes 0 (echoText t.out.toList)
  | limited {v : Registers} {l : UInt64} {p : Program} {t : State} (h : Asks args v (some l))
      (hp : Holds bytes p) (hir : args.ir = false) (hn : ¬∃ n, HaltsWithin p v (some l) n)
      (ht : stepN p l.toNat { registers := v } = .ok t) :
      Ends args bytes 1 (echoText t.out.toList)

/-- The program is run without a limit and never halts. -/
structure Diverges (args : Arguments) (bytes : ByteArray) : Prop where
  runs : args.ir = false
  forever : ∃ v p, Asks args v none ∧ Holds bytes p ∧ haltTimes p { registers := v } = ∅

lemma Diverges.interpret (h : Diverges args bytes) (hread : read args.file = .ok bytes) :
    args.interpret elapsed read = none := by
  obtain ⟨hir, v, p, hasks, hp, hempty⟩ := h
  have hfree : Unhindered (start (args.configFor v none) p) (args.console elapsed bytes p) :=
    .inr fun _ _ => rfl
  rw [interpret_of_run hasks hread hp hir, hfree.run_eq_none rfl hempty]
  rfl

/-- **Every end is reached.** -/
lemma Ends.interpret {code : UInt32} {text : String} (h : Ends args bytes code text)
    (hread : read args.file = .ok bytes) (elapsed : Phase → String) :
    ∃ r, args.interpret elapsed read = some r ∧ r.exit = code ∧
      (args.quiet = true → r.out = text) := by
  cases h with
  | refused h =>
    obtain ⟨f, hf⟩ := interpret_of_refused h
    exact ⟨_, hf, rfl, fun _ => rfl⟩
  | unreadable h hp =>
    obtain ⟨f, hf⟩ := interpret_of_unreadable h hread hp
    refine ⟨_, hf, rfl, fun hq => ?_⟩
    rw [notice_of_quiet hq, String.empty_append]
  | listed h hp hir =>
    exact ⟨_, interpret_of_listed h hread hp hir, rfl, loadedText_of_quiet⟩
  | @halted v limit p n t h hp hir hn ht =>
    obtain ⟨o, hrun, hresult, hstate, hout⟩ :=
      exists_run_of_haltsWithin (args.configFor v limit) (args.console elapsed bytes p) rfl
        (fun _ => rfl) hn
    obtain rfl : o.session.state = t := Except.ok.inj (hstate.symm.trans ht)
    refine ⟨args.conclude elapsed o, ?_, ?_, fun hq => ?_⟩
    · rw [interpret_of_run h hread hp hir, hrun, Option.map_some]
    · rw [exit_conclude, if_pos hresult]
    · rw [out_conclude_of_quiet hq, hout, out_console_of_quiet hq hir, String.empty_append]
  | @limited v l p t h hp hir hn ht =>
    obtain ⟨o, hrun, hresult, hstate, hout⟩ :=
      exists_run_of_not_haltsWithin (args.configFor v (some l)) (args.console elapsed bytes p)
        rfl (fun _ => rfl) rfl hn
    obtain rfl : o.session.state = t := Except.ok.inj (hstate.symm.trans ht)
    refine ⟨args.conclude elapsed o, ?_, ?_, fun hq => ?_⟩
    · rw [interpret_of_run h hread hp hir, hrun, Option.map_some]
    · rw [exit_conclude, if_neg (by simp [hresult])]
    · rw [out_conclude_of_quiet hq, hout, out_console_of_quiet hq hir, String.empty_append]

end Cli

end FourReg
