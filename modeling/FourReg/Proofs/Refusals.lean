import FourReg.Proofs.Grammar

/-!
The faults of assembly lines.

Each fault stands for a condition on the tokens of the line. The conditions follow one another: a
bad operand counts only behind a mnemonic, a wrong number of operands only if all of them are good,
and a literal that is to be written only if their number is right.
-/

namespace FourReg

/-- The position of the operand that an instruction with this mnemonic writes. -/
def Mnemonic.written? : Mnemonic → Option Nat
  | cpy => some 1
  | inc => some 0
  | dec => some 0
  | jnz => none
  | out => none

namespace Assembly

/-- The tokens are at fault in this way. -/
def Refused (ts : List String) : Fault → Prop
  | .emptyLine => ts = []
  | .unknownMnemonic token => ∃ args, ts = token :: args ∧ ∀ m : Mnemonic, token ≠ m.name
  | .invalidOperand token =>
    ∃ (m : Mnemonic) (before behind : List String), ts = m.name :: (before ++ token :: behind) ∧
      (∃ xs, List.Forall₂ Spells before xs) ∧ ¬∃ x, Spells token x
  | .arityMismatch m expected actual =>
    ∃ args xs, ts = m.name :: args ∧ List.Forall₂ Spells args xs ∧ args.length ≠ m.arity ∧
      expected = m.arity ∧ actual = args.length
  | .invalidDestination m value =>
    ∃ args xs k, ts = m.name :: args ∧ List.Forall₂ Spells args xs ∧ args.length = m.arity ∧
      m.written? = some k ∧ xs[k]? = some (.literal value)

variable {m : Mnemonic} {xs : List Operand} {args : List String} {token : String} {fault : Fault}

/-! ### Operands -/

lemma operand_eq_error_iff :
    operand token = .error fault ↔ fault = .invalidOperand token ∧ ¬∃ x, Spells token x := by
  constructor
  · intro h
    refine ⟨fault_of_operand h, fun ⟨x, hx⟩ => ?_⟩
    rw [operand_eq_ok_iff.2 hx] at h
    cases h
  · rintro ⟨rfl, hnone⟩
    cases h : operand token with
    | ok x => exact absurd ⟨x, operand_eq_ok_iff.1 h⟩ hnone
    | error fault => rw [fault_of_operand h]

lemma operands_eq_ok_iff : args.mapM operand = .ok xs ↔ List.Forall₂ Spells args xs := by
  simp only [mapM_eq_ok_iff, operand_eq_ok_iff]

lemma operands_eq_error_iff : args.mapM operand = .error fault ↔
    ∃ before token behind, args = before ++ token :: behind ∧
      (∃ xs, List.Forall₂ Spells before xs) ∧ fault = .invalidOperand token ∧
      ¬∃ x, Spells token x := by
  constructor
  · intro h
    obtain ⟨before, token, behind, xs, rfl, hbefore, htoken⟩ := mapM_eq_error_iff.1 h
    exact ⟨before, token, behind, rfl, ⟨xs, operands_eq_ok_iff.1 (mapM_of_ok hbefore)⟩,
      operand_eq_error_iff.1 htoken⟩
  · rintro ⟨before, token, behind, rfl, ⟨xs, hbefore⟩, htoken⟩
    rw [List.mapM_append, operands_eq_ok_iff.2 hbefore,
      mapM_cons_of_error (operand_eq_error_iff.2 htoken)]
    rfl

/-! ### Instructions from operands -/

lemma instruction_of_length_ne (h : xs.length ≠ m.arity) :
    instruction m xs = .error (.arityMismatch m m.arity xs.length) := by
  unfold instruction
  split
  iterate 5 exact absurd rfl h
  rfl

/-- The instruction that the operands at the positions of the mnemonic make, if there are operands
at these positions. -/
def indexed (xs : List Operand) : Mnemonic → Option (Except Fault Instruction)
  | .cpy => do return (destination .cpy (← xs[1]?)).map (.copy (← xs[0]?))
  | .inc => do return (destination .inc (← xs[0]?)).map .increment
  | .dec => do return (destination .dec (← xs[0]?)).map .decrement
  | .jnz => do return .ok (.jumpIfNonZero (← xs[0]?) (← xs[1]?))
  | .out => do return .ok (.output (← xs[0]?))

lemma indexed_eq (h : xs.length = m.arity) : indexed xs m = some (instruction m xs) := by
  cases m with
  | cpy | jnz =>
    obtain ⟨x, y, rfl⟩ := List.length_eq_two.1 h
    rfl
  | inc | dec | out =>
    obtain ⟨x, rfl⟩ := List.length_eq_one_iff.1 h
    rfl

lemma destination_eq_error_iff {x : Operand} {g : Register → Instruction} :
    (destination m x).map g = .error fault ↔
      ∃ v, x = .literal v ∧ fault = .invalidDestination m v := by
  cases x <;> simp [destination, Except.map, eq_comm]

lemma instruction_eq_error_iff (h : xs.length = m.arity) : instruction m xs = .error fault ↔
    ∃ k v, m.written? = some k ∧ xs[k]? = some (.literal v) ∧ fault = .invalidDestination m v := by
  cases m with
  | cpy =>
    obtain ⟨x, y, rfl⟩ := List.length_eq_two.1 h
    simp [instruction, destination_eq_error_iff, Mnemonic.written?]
  | inc | dec =>
    obtain ⟨x, rfl⟩ := List.length_eq_one_iff.1 h
    simp [instruction, destination_eq_error_iff, Mnemonic.written?]
  | jnz =>
    obtain ⟨x, y, rfl⟩ := List.length_eq_two.1 h
    simp [instruction, Mnemonic.written?]
  | out =>
    obtain ⟨x, rfl⟩ := List.length_eq_one_iff.1 h
    simp [instruction, Mnemonic.written?]

end Assembly

/-! ### Lines -/

open Assembly

variable {line : String} {fault : Fault} {m : Mnemonic} {args : List String}

lemma assemble_of_words (h : Text.words line = m.name :: args) :
    assemble line = (args.mapM operand).bind (instruction m) := by
  rw [assemble, h]
  simp only [Mnemonic.ofName?_eq_some_iff.2 rfl]

lemma assemble_of_spells {xs : List Operand} (h : Text.words line = m.name :: args)
    (hargs : List.Forall₂ Spells args xs) : assemble line = instruction m xs := by
  rw [assemble_of_words h, operands_eq_ok_iff.2 hargs]
  rfl

lemma refused_of_assemble (h : assemble line = .error fault) :
    Refused (Text.words line) fault := by
  cases hwords : Text.words line with
  | nil =>
    rw [assemble, hwords] at h
    cases h
    rfl
  | cons token args =>
    cases hm : Mnemonic.ofName? token with
    | none =>
      simp only [assemble, hwords, hm] at h
      cases h
      refine ⟨args, rfl, fun m htoken => ?_⟩
      rw [Mnemonic.ofName?_eq_some_iff.2 htoken] at hm
      cases hm
    | some m =>
      obtain rfl := Mnemonic.ofName?_eq_some_iff.1 hm
      cases hargs : args.mapM operand with
      | error fault' =>
        rw [assemble_of_words hwords, hargs] at h
        cases h
        obtain ⟨before, token, behind, rfl, hbefore, rfl, htoken⟩ := operands_eq_error_iff.1 hargs
        exact ⟨m, before, behind, rfl, hbefore, htoken⟩
      | ok xs =>
        have hspells := operands_eq_ok_iff.1 hargs
        have hlength := hspells.length_eq
        rw [assemble_of_spells hwords hspells] at h
        -- all operands are good, so only their number and what is written can be at fault
        by_cases harity : xs.length = m.arity
        · obtain ⟨k, v, hk, hv, rfl⟩ := (instruction_eq_error_iff harity).1 h
          exact ⟨args, xs, k, rfl, hspells, hlength.trans harity, hk, hv⟩
        · rw [instruction_of_length_ne harity] at h
          cases h
          exact ⟨args, xs, rfl, hspells, hlength ▸ harity, rfl, hlength.symm⟩

/-- A line at fault is not assembled, and the fault is reported. -/
lemma assemble_of_refused (h : Refused (Text.words line) fault) : assemble line = .error fault := by
  cases fault with
  | emptyLine =>
    have hwords : Text.words line = [] := h
    rw [assemble, hwords]
  | unknownMnemonic token =>
    obtain ⟨args, hwords, htoken⟩ := h
    cases hm : Mnemonic.ofName? token with
    | none => simp only [assemble, hwords, hm]
    | some m => exact absurd (Mnemonic.ofName?_eq_some_iff.1 hm) (htoken m)
  | invalidOperand token =>
    obtain ⟨m, before, behind, hwords, hbefore, htoken⟩ := h
    rw [assemble_of_words hwords,
      operands_eq_error_iff.2 ⟨before, token, behind, rfl, hbefore, rfl, htoken⟩]
    rfl
  | arityMismatch m expected actual =>
    obtain ⟨args, xs, hwords, hspells, harity, rfl, rfl⟩ := h
    rw [assemble_of_spells hwords hspells, hspells.length_eq]
    exact instruction_of_length_ne (hspells.length_eq ▸ harity)
  | invalidDestination m value =>
    obtain ⟨args, xs, k, hwords, hspells, harity, hk, hvalue⟩ := h
    rw [assemble_of_spells hwords hspells,
      instruction_eq_error_iff (hspells.length_eq.symm.trans harity)]
    exact ⟨k, value, hk, hvalue, rfl⟩

lemma assemble_eq_error_iff : assemble line = .error fault ↔ Refused (Text.words line) fault :=
  ⟨refused_of_assemble, assemble_of_refused⟩

lemma assembleLine_eq_error_iff {e : Assembly.Error} :
    assembleLine line = .error e ↔ e.line = none ∧ Refused (Text.words line) e.fault := by
  rw [← assemble_eq_error_iff]
  obtain ⟨number, fault⟩ := e
  cases h : assemble line with
  | ok i => simp [assembleLine, h, Except.mapError]
  | error fault' => simp [assembleLine, h, Except.mapError, eq_comm]

lemma words_laid (line : String) :
    (Text.words line = [] ∧ Text.Blanks line.toList) ∨
      Text.Laid ((Text.words line).map String.toList) line.toList := by
  cases hwords : Text.words line with
  | nil =>
    have hblank := Text.charWords_eq_nil_iff.1 (List.map_eq_nil_iff.1 hwords)
    exact .inl ⟨rfl, List.all_eq_true.1 hblank⟩
  | cons t ts => exact .inr (Text.words_eq_cons_iff.1 hwords)

/-- **The fault that is reported for a line** is the only one by the order of the faults, and a line
without any is assembled. -/
theorem faults_by_priority (line : String) :
    (∀ e, assembleLine line = .error e ↔ e.line = none ∧ Refused (Text.words line) e.fault) ∧
    ((∃ i, assembleLine line = .ok i) ↔ ∀ fault, ¬Refused (Text.words line) fault) ∧
    (∀ fault fault', Refused (Text.words line) fault → Refused (Text.words line) fault' →
      fault = fault') ∧
    ((Text.words line = [] ∧ Text.Blanks line.toList) ∨
      Text.Laid ((Text.words line).map String.toList) line.toList) ∧
    ∀ (m : Mnemonic) args xs, Text.words line = m.name :: args → List.Forall₂ Spells args xs →
      args.length = m.arity → indexed xs m = some (assemble line) := by
  refine ⟨fun e => assembleLine_eq_error_iff, ?_, fun fault fault' h h' => ?_, words_laid line, ?_⟩
  · cases h : assembleLine line with
    | ok i =>
      refine ⟨fun _ fault hfault => ?_, fun _ => ⟨i, rfl⟩⟩
      rw [assembleLine_eq_error_iff (e := ⟨none, fault⟩).2 ⟨rfl, hfault⟩] at h
      cases h
    | error e =>
      have hfault := (assembleLine_eq_error_iff.1 h).2
      simp only [reduceCtorEq, exists_false, false_iff, not_forall, not_not]
      exact ⟨e.fault, hfault⟩
  · exact Except.error.inj ((assemble_of_refused h).symm.trans (assemble_of_refused h'))
  · intro m args xs hwords hspells harity
    rw [assemble_of_spells hwords hspells]
    exact indexed_eq (hspells.length_eq.symm.trans harity)

/-- A bad operand in a line with too many of them, and a line with two literals. -/
theorem faults_by_priority_cpy :
    (Refused (Text.words "cpy 7 e 1") (.invalidOperand "e") ∧
      ∀ fault, Refused (Text.words "cpy 7 e 1") fault → fault = .invalidOperand "e") ∧
    indexed [.literal 7, .literal 3] .cpy = some (.error (.invalidDestination .cpy 3)) := by
  obtain ⟨herror, -, honly, -⟩ := faults_by_priority "cpy 7 e 1"
  obtain ⟨-, -, -, -, hindexed⟩ := faults_by_priority "cpy 7 3"
  have hline : assembleLine "cpy 7 e 1" = .error ⟨none, .invalidOperand "e"⟩ := by rfl
  have hrefused := ((herror _).1 hline).2
  have hspells : List.Forall₂ Spells ["7", "3"] [.literal 7, .literal 3] :=
    operands_eq_ok_iff.1 (by rfl)
  refine ⟨⟨hrefused, fun fault h => honly _ _ h hrefused⟩, ?_⟩
  exact hindexed .cpy ["7", "3"] _ (by rfl) hspells (by rfl)

end FourReg
