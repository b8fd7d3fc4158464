import FourReg.Assembly
import Mathlib.Data.List.Forall2

/-!
Faults of lines: the first of several errors in a list, and the lines that hold no instruction.
-/

namespace FourReg

/-! ### The first error -/

section

variable {α β ε : Type} {f : α → Except ε β} {a : α} {e : ε}

lemma map_eq_ok_iff {x : Except ε α} {g : α → β} {b : β} :
    x.map g = .ok b ↔ ∃ a, x = .ok a ∧ g a = b := by
  cases x <;> simp [Except.map]

lemma bind_eq_ok_iff {x : Except ε α} {b : β} {g : α → Except ε β} :
    x >>= g = .ok b ↔ ∃ a, x = .ok a ∧ g a = .ok b := by
  cases x <;> simp [bind, Except.bind]

lemma mapM_cons_of_error (h : f a = .error e) (l : List α) : (a :: l).mapM f = .error e := by
  rw [List.mapM_cons, h]
  rfl

lemma mapM_cons_of_ok {b : β} (h : f a = .ok b) (l : List α) :
    (a :: l).mapM f = (l.mapM f).map (b :: ·) := by
  rw [List.mapM_cons, h]
  cases l.mapM f <;> rfl

lemma mapM_of_ok {l : List α} {bs : List β} (h : l.map f = bs.map .ok) : l.mapM f = .ok bs := by
  induction l generalizing bs with
  | nil =>
    obtain rfl := List.map_eq_nil_iff.1 h.symm
    rfl
  | cons a l ih =>
    obtain ⟨b, bs, rfl, hb, hl⟩ := List.map_eq_cons_iff.1 h.symm
    rw [mapM_cons_of_ok hb.symm, ih hl.symm]
    rfl

lemma mapM_eq_ok_iff {l : List α} {bs : List β} :
    l.mapM f = .ok bs ↔ List.Forall₂ (fun a b => f a = .ok b) l bs := by
  induction l generalizing bs with
  | nil => cases bs <;> simp [pure, Except.pure]
  | cons a l ih =>
    cases ha : f a with
    | error e =>
      rw [mapM_cons_of_error ha]
      cases bs <;> simp [ha]
    | ok b =>
      rw [mapM_cons_of_ok ha, map_eq_ok_iff]
      cases bs <;> simp [ha, ih, and_comm]

/-- The error of a list is that of the first element with one. -/
lemma mapM_eq_error_iff {l : List α} :
    l.mapM f = .error e ↔ ∃ l₁ a l₂, ∃ bs : List β,
      l = l₁ ++ a :: l₂ ∧ l₁.map f = bs.map .ok ∧ f a = .error e := by
  constructor
  · intro h
    induction l with
    | nil => cases h
    | cons a l ih =>
      cases ha : f a with
      | error e' =>
        rw [mapM_cons_of_error ha] at h
        cases h
        exact ⟨[], a, l, [], rfl, rfl, ha⟩
      | ok b =>
        rw [mapM_cons_of_ok ha] at h
        cases hl : l.mapM f with
        | ok bs => rw [hl] at h; cases h
        | error e' =>
          rw [hl] at h
          cases h
          obtain ⟨l₁, a', l₂, bs, rfl, hok, ha'⟩ := ih hl
          have hok' : (a :: l₁).map f = (b :: bs).map .ok := by
            rw [List.map_cons, ha, hok, List.map_cons]
          exact ⟨a :: l₁, a', l₂, b :: bs, rfl, hok', ha'⟩
  · rintro ⟨l₁, a, l₂, bs, rfl, hok, ha⟩
    rw [List.mapM_append, mapM_of_ok hok, mapM_cons_of_error ha]
    rfl

end

/-! ### Empty lines -/

namespace Assembly

lemma fault_of_operand {token : String} {fault : Fault} (h : operand token = .error fault) :
    fault = .invalidOperand token := by
  unfold operand at h
  split at h
  · cases h
  · split at h <;> cases h
    rfl

lemma ne_emptyLine_of_instruction {m : Mnemonic} {operands : List Operand} :
    instruction m operands ≠ .error .emptyLine := by
  have hdest : ∀ (m : Mnemonic) (x : Operand) (g : Register → Instruction),
      (destination m x).map g ≠ .error .emptyLine := by
    intro m x g
    cases x <;> simp [destination, Except.map]
  unfold instruction
  split <;> simp [hdest]

end Assembly

/-- A line holds no instruction exactly if it is blank. -/
lemma assemble_eq_emptyLine_iff {line : String} :
    assemble line = .error .emptyLine ↔ Text.isBlankText line = true := by
  have hwords : Text.words line = [] ↔ Text.isBlankText line = true := by
    rw [Text.words, List.map_eq_nil_iff, Text.charWords_eq_nil_iff, Text.isBlankText]
  rw [← hwords]
  unfold assemble
  split
  · rename_i h
    simp [h]
  · rename_i token tokens h
    simp only [h, reduceCtorEq, iff_false]
    split
    · simp
    · rename_i m hm
      intro hfault
      cases hargs : tokens.mapM Assembly.operand with
      | error fault =>
        rw [hargs] at hfault
        cases hfault
        obtain ⟨-, t, -, -, -, -, ht⟩ := mapM_eq_error_iff.1 hargs
        cases Assembly.fault_of_operand ht
      | ok operands =>
        rw [hargs] at hfault
        exact Assembly.ne_emptyLine_of_instruction hfault

end FourReg
